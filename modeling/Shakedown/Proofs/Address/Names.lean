import Mathlib.Data.List.Flatten
import Shakedown.Proofs.Address.Home
import Shakedown.Proofs.Text.Percent
import Shakedown.Proofs.Url.Path

/-!
References made of names.

A reference may be put together from names, each behind a slash, and perhaps a query. It leads to a
path that says these names just when none of them holds anything that a reader takes for more than
text: slashes, marks of a query or fragment, characters that are dropped, escapes, or dots alone.
Each of these makes the path say less than was written, so no other name ever comes through.
-/

namespace Shakedown

namespace Text.Utf8

/-- Leaving characters out makes the bytes fewer. -/
lemma length_bytes_le {cs ds : List Char} (sub : cs.Sublist ds) :
    (bytes cs).length ≤ (bytes ds).length ∧
      ((bytes cs).length = (bytes ds).length → cs = ds) := by
  have bytes_sub : (bytes cs).Sublist (bytes ds) := sub.flatMap _
  exact ⟨bytes_sub.length_le, fun same => bytes_inj.mp (bytes_sub.eq_of_length same)⟩

end Text.Utf8

namespace Url

/-- The names that a path says: its segments, with escapes taken for what they stand for. -/
def names (u : Url) : List (List UInt8) :=
  match u.path with
  | .segments list => list.map fun s => Text.Percent.decode s.toList
  | .plain text => [Text.Percent.decode text.toList]

/-- A name that is nothing but text in a path. -/
structure PlainName (s : String) : Prop where
  whole : ∀ c ∈ s.toList, c ∉ "/\\?#\t\n\r".toList
  unescaped : Text.Percent.Unescaped s.toList
  no_dots : s ≠ "." ∧ s ≠ ".."

instance (s : String) : Decidable (PlainName s) :=
  decidable_of_iff ((∀ c ∈ s.toList, c ∉ "/\\?#\t\n\r".toList) ∧ Text.Percent.Unescaped s.toList ∧
    s ≠ "." ∧ s ≠ "..") ⟨fun ⟨whole, unescaped, no_dots⟩ => ⟨whole, unescaped, no_dots⟩,
      fun ⟨whole, unescaped, no_dots⟩ => ⟨whole, unescaped, no_dots⟩⟩

/-- Letters and digits of ASCII, and the marks that mean nothing in an address. -/
def isUnreserved (c : Char) : Bool := c.isAlphanum || "-_~.".toList.contains c

lemma toNat_lt_of_isUnreserved {c : Char} (unreserved : isUnreserved c = true) : c.toNat < 128 := by
  rw [isUnreserved, Bool.or_eq_true] at unreserved
  rcases unreserved with letter | mark
  · have ranges : (65 ≤ c.toNat ∧ c.toNat ≤ 90 ∨ 97 ≤ c.toNat ∧ c.toNat ≤ 122) ∨
        48 ≤ c.toNat ∧ c.toNat ≤ 57 := by
      delta Char.isAlphanum Char.isAlpha Char.isUpper Char.isLower Char.isDigit at letter
      simpa [UInt32.le_iff_toNat_le] using letter
    omega
  · have all : ∀ d ∈ "-_~.".toList, d.toNat < 128 := by decide
    exact all c (List.contains_iff_mem.mp mark)

/-- Unreserved characters mean nothing but themselves anywhere in an address. -/
lemma plain_of_isUnreserved {c : Char} (unreserved : isUnreserved c = true) :
    c ∉ "/\\?#\t\n\r%:".toList ∧ Path.keeps c = true ∧ isControlOrBlank c = false := by
  have plain := forall_of_ascii
    (q := fun c => c ∉ "/\\?#\t\n\r%:".toList ∧ Path.keeps c = true ∧ isControlOrBlank c = false)
    (by decide +kernel) (toNat_lt_of_isUnreserved unreserved) unreserved
  exact of_decide_eq_true plain

/-- Digits are unreserved. -/
lemma isUnreserved_of_mem_toDigits {base n : Nat} {c : Char} (big : 1 < base) (small : base ≤ 16)
    (mem : c ∈ Nat.toDigits base n) : isUnreserved c = true := by
  have digit : ∀ m ∈ List.range 16, isUnreserved m.digitChar = true := by decide
  induction n using Nat.strongRecOn generalizing c with
  | ind n ih =>
    rw [Nat.toDigits_eq_if big] at mem
    split at mem
    · next last =>
      obtain rfl := List.mem_singleton.mp mem
      exact digit n (List.mem_range.mpr (by omega))
    · next more =>
      rcases List.mem_append.mp mem with upper | last
      · exact ih (n / base) (Nat.div_lt_self (by omega) big) upper
      · obtain rfl := List.mem_singleton.mp last
        have := Nat.mod_lt n (show base > 0 by omega)
        exact digit (n % base) (List.mem_range.mpr (by omega))

/-- A name of unreserved characters is plain. -/
lemma PlainName.of_unreserved {s : String} (unreserved : ∀ c ∈ s.toList, isUnreserved c = true)
    (no_dots : s ≠ "." ∧ s ≠ "..") : PlainName s where
  whole := by
    intro c mem mark
    have included : ∀ d ∈ "/\\?#\t\n\r".toList, d ∈ "/\\?#\t\n\r%:".toList := by decide
    exact (plain_of_isUnreserved (unreserved c mem)).1 (included c mark)
  unescaped := by
    intro rest behind
    have percent := unreserved '%' (behind.subset List.mem_cons_self)
    exact absurd percent (by decide)
  no_dots := no_dots

/-- Names, each behind a slash. -/
def spelled (names : List String) : List Char := names.flatMap fun s => '/' :: s.toList

lemma toList_segmentsText (names : List String) :
    (Path.segmentsText names).toList = spelled names := by
  induction names with
  | nil => rfl
  | cons s rest ih =>
    rw [Path.segmentsText, String.toList_append, String.toList_append, ih]
    rfl

lemma mem_spelled {names : List String} {s : String} (mem : s ∈ names) {c : Char}
    (in_name : c ∈ s.toList) : c ∈ spelled names :=
  List.mem_flatMap.mpr ⟨s, mem, List.mem_cons_of_mem '/' in_name⟩

/-! Reading a reference that starts with a slash. -/

lemma stays_of_endsPath {c : Char} (ends : endsPath c = true) : stays c = true := by
  simp only [endsPath, Bool.or_eq_true, decide_eq_true_eq] at ends
  rcases ends with rfl | rfl <;> decide

/-- What is read as the path: `front` with `behind` after it is what was written. -/
def pathRead (front behind : List Char) : List Char :=
  (spanPath (((front ++ behind).rdropWhile isControlOrBlank).filter stays)).1

/-- Nothing is written behind the path, or a query. -/
def OpensQuery (behind : List Char) : Prop := ∀ c ∈ behind.head?, c = '?'

lemma spanPath_fst (cs : List Char) : (spanPath cs).1 = cs.takeWhile (!endsPath ·) := rfl

/-- Reading a path may drop some of what was written, and no more. -/
lemma pathRead_sublist {front behind : List Char} (opens : OpensQuery behind) :
    (pathRead front behind).Sublist front := by
  let kept := (front ++ behind).rdropWhile isControlOrBlank
  have passes : (fun c => !stays c || !endsPath c) = (!endsPath ·) := by
    funext c
    cases ends : endsPath c with
    | true => simp [stays_of_endsPath ends]
    | false => simp
  have read_eq : pathRead front behind = (kept.takeWhile (!endsPath ·)).filter stays := by
    rw [pathRead, spanPath_fst, List.takeWhile_filter, passes]
  have written : kept.takeWhile (!endsPath ·) <+: front ++ behind :=
    (List.takeWhile_prefix _).trans (List.rdropWhile_prefix _ _)
  have inside : kept.takeWhile (!endsPath ·) <+: front := by
    rcases List.prefix_or_prefix_of_prefix written (List.prefix_append front behind) with
      inside | ⟨past, past_eq⟩
    · exact inside
    · cases past with
      | nil =>
        rewrite [← past_eq, List.append_nil]
        exact List.prefix_refl front
      | cons c past =>
        rw [← past_eq, List.prefix_append_right_inj] at written
        obtain ⟨more, rfl⟩ := written
        have mark : c = '?' := opens c rfl
        have in_path : c ∈ kept.takeWhile (!endsPath ·) := by
          rw [← past_eq]
          exact List.mem_append_right front List.mem_cons_self
        have no_mark := List.mem_takeWhile_imp in_path
        rw [mark] at no_mark
        exact absurd no_mark (by decide)
  rw [read_eq]
  exact List.filter_sublist.trans inside.sublist

lemma mem_pathRead {front behind : List Char} {c : Char} (mem : c ∈ pathRead front behind) :
    stays c = true ∧ endsPath c = false := by
  rw [pathRead, spanPath_fst] at mem
  have inside := (List.takeWhile_prefix _).subset mem
  exact ⟨(List.mem_filter.mp inside).2, by simpa using List.mem_takeWhile_imp mem⟩

/-! What a path weighs: the bytes of its names, and one for each of its slashes. -/

def weight (s : String) : Nat := (Text.Percent.decode s.toList).length + 1

def written (cs : List Char) : Nat := (Text.Utf8.bytes cs).length + 1

lemma written_append_cons {c : Char} (one : (String.utf8EncodeChar c).length = 1)
    (front back : List Char) : written (front ++ c :: back) = written front + written back := by
  rw [written, written, written, Text.Utf8.bytes_append, Text.Utf8.bytes_cons, List.length_append,
    List.length_append, one]
  omega

lemma sum_splitBy (cs : List Char) :
    ((Text.splitBy (isSlash .web) cs).map written).sum = written cs := by
  induction cs with
  | nil => rfl
  | cons c cs ih =>
    cases slash : isSlash .web c with
    | true =>
      have one : (String.utf8EncodeChar c).length = 1 := by
        have either : c = '/' ∨ c = '\\' := by simpa [isSlash] using slash
        rcases either with rfl | rfl <;> rfl
      rw [Text.splitBy_cons_of_pos slash, List.map_cons, List.sum_cons, ih]
      exact (written_append_cons one [] cs).symm
    | false =>
      obtain ⟨piece, rest, split⟩ :=
        List.exists_cons_of_ne_nil (Text.splitBy_ne_nil (isSlash .web) cs)
      rw [split, List.map_cons, List.sum_cons] at ih
      rw [Text.splitBy_cons_of_neg slash split, List.map_cons, List.sum_cons]
      simp only [written, Text.Utf8.bytes_cons, List.length_append] at ih ⊢
      omega

lemma sum_spelled (names : List String) :
    (names.map fun s => written s.toList).sum = (Text.Utf8.bytes (spelled names)).length := by
  induction names with
  | nil => rfl
  | cons s rest ih =>
    have spelled_cons : spelled (s :: rest) = '/' :: (s.toList ++ spelled rest) := rfl
    have one : (String.utf8EncodeChar '/').length = 1 := rfl
    rw [List.map_cons, List.sum_cons, ih, spelled_cons, Text.Utf8.bytes_cons,
      Text.Utf8.bytes_append, List.length_append, List.length_append, one, written]
    omega

lemma keeps_keepsEscapes : Text.Percent.KeepsEscapes Path.keeps := by
  refine ⟨by decide, fun c digit => ?_⟩
  refine forall_of_ascii (p := fun c => (Text.Percent.hexValue c).isSome) (by decide +kernel) ?_
    digit
  unfold Text.Percent.hexValue at digit
  simp only [Bool.and_eq_true, decide_eq_true_eq] at digit
  split at digit
  · omega
  · split at digit
    · omega
    · split at digit
      · omega
      · cases digit

lemma weight_encode (piece : List Char) :
    weight (String.ofList (Text.Percent.encode Path.keeps piece)) =
      (Text.Percent.decode piece).length + 1 := by
  rw [weight, String.toList_ofList, Text.Percent.decode_encode keeps_keepsEscapes]

lemma sum_pieces_le (pieces : List (List Char)) :
    (pieces.map fun p => (Text.Percent.decode p).length + 1).sum ≤ (pieces.map written).sum ∧
      ((pieces.map fun p => (Text.Percent.decode p).length + 1).sum = (pieces.map written).sum →
        ∀ p ∈ pieces, Text.Percent.Unescaped p) := by
  induction pieces with
  | nil => exact ⟨Nat.le_refl 0, fun _ => List.forall_mem_nil _⟩
  | cons p rest ih =>
    obtain ⟨shorter, plain⟩ := Text.Percent.length_decode_le p
    obtain ⟨rest_shorter, rest_plain⟩ := ih
    simp only [List.map_cons, List.sum_cons, written] at rest_shorter rest_plain ⊢
    constructor
    · omega
    · intro same
      exact List.forall_mem_cons.mpr ⟨plain (by omega), rest_plain (by omega)⟩

lemma weight_of_dots {s : String} (dots : Path.move s ≠ .into) : weight "" < weight s := by
  have present : s.toList ≠ [] := by
    intro empty
    obtain rfl : s = "" := String.toList_inj.mp empty
    exact dots (by decide)
  exact Nat.succ_lt_succ (List.length_pos_iff.mpr (Text.Percent.decode_ne_nil present))

/-! Names come through just when they are plain. -/

lemma readSegments_eq (cs : List Char) : Path.readSegments (isSlash .web) cs =
    (Text.splitBy (isSlash .web) cs).map fun p =>
      String.ofList (Text.Percent.encode Path.keeps p) := rfl

/-- What a path says that is resolved from the root. -/
lemma told_of_straight {cs : List Char}
    (straight : Path.Straight (Path.readSegments (isSlash .web) cs))
    (plain : ∀ p ∈ Text.splitBy (isSlash .web) cs, Text.Percent.Unescaped p) :
    (Path.resolve [] (Path.readSegments (isSlash .web) cs)).map
        (fun s => Text.Percent.decode s.toList) =
      (Text.splitBy (isSlash .web) cs).map Text.Utf8.bytes := by
  rw [Path.resolve_of_straight straight, List.nil_append, readSegments_eq, List.map_map]
  refine List.map_congr_left fun p piece => ?_
  rw [Function.comp_apply, String.toList_ofList, Text.Percent.decode_encode keeps_keepsEscapes,
    Text.Percent.decode_eq_bytes_iff.mpr (plain p piece)]

/-- A path that says the names has lost nothing of what was written: no character, no escape and no
segment. -/
lemma lossless_of_told {names : List String} {front behind : List Char}
    (opens : OpensQuery behind) (front_eq : '/' :: front = spelled names)
    (told : (Path.resolve [] (Path.readSegments (isSlash .web) (pathRead front behind))).map
      (fun s => Text.Percent.decode s.toList) = names.map fun s => Text.Utf8.bytes s.toList) :
    pathRead front behind = front ∧
      Path.Straight (Path.readSegments (isSlash .web) front) ∧
      ∀ p ∈ Text.splitBy (isSlash .web) front, Text.Percent.Unescaped p := by
  -- reading, cutting, encoding and resolving never add weight, and in the end nothing is missing:
  -- so none of them took anything away
  let segments := Path.readSegments (isSlash .web) (pathRead front behind)
  let pieces := Text.splitBy (isSlash .web) (pathRead front behind)
  have said_weight : ((Path.resolve [] segments).map weight).sum = written front := by
    have weights := congrArg (fun list => (list.map fun bs => bs.length + 1).sum) told
    simp only [List.map_map, Function.comp_def] at weights
    have named := sum_spelled names
    rw [← front_eq, Text.Utf8.bytes_cons, List.length_append] at named
    exact (weights.trans named).trans (Nat.add_comm 1 _)
  have segments_weight : (segments.map weight).sum =
      (pieces.map fun p => (Text.Percent.decode p).length + 1).sum := by
    rw [show segments = _ from readSegments_eq _, List.map_map]
    exact congrArg List.sum (List.map_congr_left fun p _ => weight_encode p)
  have pieces_weight : (pieces.map written).sum = written (pathRead front behind) := sum_splitBy _
  obtain ⟨resolved_le, straight⟩ :=
    Path.sum_resolveOnto_le (fun _ dots => weight_of_dots dots) [] segments
  obtain ⟨pieces_le, plain⟩ := sum_pieces_le pieces
  have sub : (pathRead front behind).Sublist front := pathRead_sublist opens
  obtain ⟨read_le, whole⟩ := Text.Utf8.length_bytes_le sub
  have written_le : written (pathRead front behind) ≤ written front := Nat.succ_le_succ read_le
  rw [List.map_nil, List.sum_nil, Nat.zero_add] at resolved_le straight
  have resolved_weight : ((Path.resolveOnto [] segments).map weight).sum = written front :=
    said_weight
  have read_eq : pathRead front behind = front := by
    apply whole
    have : written (pathRead front behind) = written front := by omega
    exact Nat.succ.inj this
  refine ⟨read_eq, ?_, ?_⟩
  · rw [← read_eq]
    exact straight (by omega)
  · rw [← read_eq]
    exact plain (by omega)

lemma mem_pathMarks_iff {c : Char} : c ∈ "/\\?#\t\n\r".toList ↔
    isSlash .web c = true ∨ endsPath c = true ∨ stays c = false := by
  simp [isSlash, endsPath, stays]
  tauto

/-- Cutting at slashes gives the names back, if no slash stands in them. -/
lemma splitBy_of_spelled {front : List Char} {names : List String}
    (front_eq : '/' :: front = spelled names)
    (whole : ∀ s ∈ names, ∀ c ∈ s.toList, isSlash .web c = false) :
    Text.splitBy (isSlash .web) front = names.map String.toList := by
  induction names generalizing front with
  | nil => cases front_eq
  | cons s rest ih =>
    obtain ⟨s_whole, rest_whole⟩ := List.forall_mem_cons.mp whole
    obtain rfl : front = s.toList ++ spelled rest := (List.cons.inj front_eq).2
    cases rest with
    | nil =>
      rw [show spelled [] = [] from rfl, List.append_nil, Text.splitBy_of_forall_neg s_whole]
      rfl
    | cons t rest =>
      have behind : spelled (t :: rest) = '/' :: (t.toList ++ spelled rest) := rfl
      rw [behind, Text.splitBy_append_cons (by decide), Text.splitBy_of_forall_neg s_whole,
        ih behind.symm rest_whole]
      rfl

/-- Dots are read as dots, however they are written. -/
lemma decode_of_dots {cs : List Char} {n : Nat} (dots : Path.dots cs = some n) :
    Text.Percent.decode cs = Text.Utf8.bytes (List.replicate n '.') := by
  induction cs using Path.dots.induct generalizing n with
  | case1 =>
    obtain rfl := Option.some.inj dots
    rfl
  | case2 rest ih =>
    obtain ⟨m, rest_dots, rfl⟩ := Option.map_eq_some_iff.mp dots
    rw [Text.Percent.decode_cons (by decide), ih rest_dots, List.replicate_succ,
      Text.Utf8.bytes_cons]
  | case3 e rest is_e ih =>
    rw [Path.dots, if_pos is_e] at dots
    obtain ⟨m, rest_dots, rfl⟩ := Option.map_eq_some_iff.mp dots
    have escape : Text.Percent.decode ('%' :: '2' :: e :: rest) =
        46 :: Text.Percent.decode rest := by
      rcases is_e with rfl | rfl <;> rfl
    rw [escape, ih rest_dots, List.replicate_succ, Text.Utf8.bytes_cons]
    rfl
  | case4 e rest other =>
    rw [Path.dots, if_neg other] at dots
    cases dots
  | case5 cs present no_dot no_escape =>
    rw [Path.dots] at dots
    · cases dots
    · exact present
    · exact no_dot
    · exact no_escape

lemma straight_of_plain {s : String} (plain : PlainName s) :
    Path.move (String.ofList (Text.Percent.encode Path.keeps s.toList)) = .into := by
  have no_dots : ∀ n, Path.dots (Text.Percent.encode Path.keeps s.toList) = some n →
      s.toList = List.replicate n '.' := by
    intro n dots
    have read := decode_of_dots dots
    rw [Text.Percent.decode_encode keeps_keepsEscapes,
      Text.Percent.decode_eq_bytes_iff.mpr plain.unescaped] at read
    exact Text.Utf8.bytes_inj.mp read
  rw [Path.move, String.toList_ofList]
  split
  · next one => exact absurd (String.toList_inj.mp (no_dots 1 one)) plain.no_dots.1
  · next two => exact absurd (String.toList_inj.mp (no_dots 2 two)) plain.no_dots.2
  · rfl

/-- Plain names come through. -/
lemma told_of_plain {front : List Char} {names : List String}
    (front_eq : '/' :: front = spelled names) (plain : ∀ s ∈ names, PlainName s) :
    (Path.resolve [] (Path.readSegments (isSlash .web) front)).map
        (fun s => Text.Percent.decode s.toList) =
      names.map fun s => Text.Utf8.bytes s.toList := by
  have no_slash : ∀ s ∈ names, ∀ c ∈ s.toList, isSlash .web c = false := by
    intro s mem c in_name
    rw [← Bool.not_eq_true]
    exact fun slash => (plain s mem).whole c in_name (mem_pathMarks_iff.mpr (.inl slash))
  have pieces_eq := splitBy_of_spelled front_eq no_slash
  rw [told_of_straight, pieces_eq, List.map_map]
  · rfl
  · intro segment mem
    rw [readSegments_eq, pieces_eq, List.map_map, List.mem_map] at mem
    obtain ⟨s, in_names, rfl⟩ := mem
    exact straight_of_plain (plain s in_names)
  · intro p mem
    rw [pieces_eq, List.mem_map] at mem
    obtain ⟨s, in_names, rfl⟩ := mem
    exact (plain s in_names).unescaped

/-- Every character of plain names is read, and in the path. -/
lemma no_pathMark_of_plain {front : List Char} {names : List String}
    (front_eq : '/' :: front = spelled names) (plain : ∀ s ∈ names, PlainName s) {c : Char}
    (mem : c ∈ front) : stays c = true ∧ endsPath c = false := by
  have in_path : c ∈ spelled names := front_eq ▸ List.mem_cons_of_mem '/' mem
  obtain ⟨s, in_names, in_name⟩ := List.mem_flatMap.mp in_path
  rcases List.mem_cons.mp in_name with rfl | in_name
  · decide
  · have no_mark := (plain s in_names).whole c in_name
    simpa [and_comm] using (not_or.mp (mem_pathMarks_iff.not.mp no_mark)).2

/-- No other names do. -/
lemma plain_of_told {names : List String} {front behind : List Char}
    (opens : OpensQuery behind) (front_eq : '/' :: front = spelled names)
    (told : (Path.resolve [] (Path.readSegments (isSlash .web) (pathRead front behind))).map
      (fun s => Text.Percent.decode s.toList) = names.map fun s => Text.Utf8.bytes s.toList) :
    ∀ s ∈ names, PlainName s := by
  obtain ⟨read_eq, straight, unescaped⟩ := lossless_of_told opens front_eq told
  rw [read_eq, told_of_straight straight unescaped] at told
  have pieces_eq : Text.splitBy (isSlash .web) front = names.map String.toList := by
    have inj : Function.Injective Text.Utf8.bytes := fun _ _ same => Text.Utf8.bytes_inj.mp same
    refine List.map_injective_iff.mpr inj ?_
    rw [told, List.map_map]
    rfl
  intro s in_names
  have piece : s.toList ∈ Text.splitBy (isSlash .web) front := by
    rw [pieces_eq]
    exact List.mem_map_of_mem in_names
  refine ⟨fun c in_name mark => ?_, unescaped _ piece, ?_⟩
  · have no_slash := Text.neg_of_mem_splitBy piece c in_name
    have read : stays c = true ∧ endsPath c = false := by
      have in_path : c ∈ '/' :: front := by
        rw [front_eq]
        exact mem_spelled in_names in_name
      rcases List.mem_cons.mp in_path with rfl | in_front
      · exact ⟨by decide, by decide⟩
      · rw [← read_eq] at in_front
        exact mem_pathRead in_front
    rcases mem_pathMarks_iff.mp mark with slash | ends | dropped
    · exact absurd slash (by simp [no_slash])
    · exact absurd ends (by simp [read.2])
    · exact absurd dropped (by simp [read.1])
  · have into := straight _ (List.mem_map_of_mem piece)
    constructor
    · rintro rfl
      exact absurd into (by decide)
    · rintro rfl
      exact absurd into (by decide)

/-! References made of names and a query. -/

/-- A query that stands in an address as it is. -/
def PlainQuery (query : Option String) : Prop :=
  ∀ q ∈ query, ∀ c ∈ q.toList, keepsInQuery .web c = true

lemma toList_tailText_none : (tailText none none).toList = [] := rfl

lemma toList_tailText_some (q : String) : (tailText (some q) none).toList = '?' :: q.toList := by
  rw [tailText, String.append_empty, String.toList_append]
  rfl

lemma opensQuery_tailText (query : Option String) : OpensQuery (tailText query none).toList := by
  cases query with
  | none => exact fun c mem => by cases mem
  | some q =>
    rw [toList_tailText_some]
    intro c mem
    exact (Option.some.inj mem).symm

lemma solid_of_keepsInQuery {c : Char} (kept : keepsInQuery .web c = true) :
    c ≠ '#' ∧ isControlOrBlank c = false := by
  simp only [keepsInQuery, Text.Percent.isGraphic, Bool.and_eq_true, decide_eq_true_eq] at kept
  obtain ⟨⟨⟨above, _⟩, unlisted⟩, _⟩ := kept
  have differs : c ≠ ' ' ∧ c ≠ '#' := by
    refine ⟨?_, ?_⟩ <;> rintro rfl <;> exact absurd unlisted (by decide)
  refine ⟨differs.2, decide_eq_false fun below => differs.1 ?_⟩
  rw [← Char.ofNat_toNat c, Nat.le_antisymm below above]

lemma spanPath_append {front behind : List Char} (whole : ∀ c ∈ front, endsPath c = false)
    (opens : OpensQuery behind) : spanPath (front ++ behind) = (front, behind) := by
  have passed : ∀ c ∈ front, (!endsPath c) = true := by
    intro c mem
    rw [whole c mem, Bool.not_false]
  cases behind with
  | nil =>
    rw [List.append_nil, spanPath, List.takeWhile_eq_self_iff.mpr passed,
      List.dropWhile_eq_nil_iff.mpr passed]
  | cons c behind =>
    obtain rfl : c = '?' := opens c rfl
    rw [spanPath, List.takeWhile_append_of_pos passed, List.dropWhile_append_of_pos passed,
      List.takeWhile_cons_of_neg (by decide), List.dropWhile_cons_of_neg (by decide),
      List.append_nil]

lemma spanPath_of_whole {cs : List Char} (whole : ∀ c ∈ cs, endsPath c = false) :
    spanPath cs = (cs, []) := by
  have span := spanPath_append whole (show OpensQuery [] from nofun)
  rwa [List.append_nil] at span

lemma readTail_tailText {query : Option String} (plain : PlainQuery query) :
    readTail .web (tailText query none).toList = (query, none) := by
  cases query with
  | none => rfl
  | some q =>
    have kept := plain q rfl
    have no_hash : ∀ c ∈ q.toList, decide (c ≠ '#') = true := by
      intro c mem
      exact decide_eq_true (solid_of_keepsInQuery (kept c mem)).1
    rw [toList_tailText_some, readTail, List.takeWhile_eq_self_iff.mpr no_hash,
      List.dropWhile_eq_nil_iff.mpr no_hash, Text.Percent.encode_of_forall kept,
      String.ofList_toList]
    rfl

lemma endsSolid_cons_slash {front : List Char} : EndsSolid ('/' :: front) ↔ EndsSolid front := by
  cases front with
  | nil => exact iff_of_true (EndsSolid.of_forall (by decide)) (EndsSolid.of_forall (by simp))
  | cons c front => exact EndsSolid.append ['/'] (List.cons_ne_nil c front)

/-- A path that says names which end in something dropped is not what was written. -/
lemma endsSolid_of_read {front : List Char} (read_eq : pathRead front [] = front) :
    EndsSolid front := by
  have read_sub : (pathRead front []).Sublist (front.rdropWhile isControlOrBlank) := by
    rw [pathRead, List.append_nil]
    exact (List.takeWhile_sublist _).trans List.filter_sublist
  rw [read_eq] at read_sub
  exact rdropWhile_eq_self_iff_endsSolid.mp
    (List.Sublist.antisymm (List.rdropWhile_prefix _ _).sublist read_sub)

/-- Nothing is dropped from plain names and a plain query. -/
lemma written_of_plain {names : List String} {query : Option String} {front : List Char}
    (plain_query : PlainQuery query) (front_eq : '/' :: front = spelled names)
    (plain : ∀ s ∈ names, PlainName s) (solid : query = none → EndsSolid (spelled names)) :
    ((front ++ (tailText query none).toList).rdropWhile isControlOrBlank).filter stays =
      front ++ (tailText query none).toList := by
  have tail_solid : ∀ c ∈ (tailText query none).toList, isControlOrBlank c = false := by
    cases query with
    | none => exact List.forall_mem_nil _
    | some q =>
      rw [toList_tailText_some]
      exact List.forall_mem_cons.mpr
        ⟨by decide, fun c mem => (solid_of_keepsInQuery (plain_query q rfl c mem)).2⟩
  have ends_solid : EndsSolid (front ++ (tailText query none).toList) := by
    cases query with
    | none =>
      rw [toList_tailText_none, List.append_nil, ← endsSolid_cons_slash, front_eq]
      exact solid rfl
    | some q =>
      have present : (tailText (some q) none).toList ≠ [] := by
        rw [toList_tailText_some]
        exact List.cons_ne_nil _ _
      exact (EndsSolid.append front present).mpr (EndsSolid.of_forall tail_solid)
  rw [rdropWhile_eq_self_iff_endsSolid.mpr ends_solid, List.filter_eq_self]
  intro c mem
  rcases List.mem_append.mp mem with in_front | in_tail
  · exact (no_pathMark_of_plain front_eq plain in_front).1
  · exact stays_of_solid (tail_solid c in_tail)

/-- A path made of names is read as those names, and the query behind it as it is, just when the
names are plain and no end is dropped from them. -/
lemma follow_tells_iff (b : Base) {names : List String} {query : Option String}
    {front : List Char} (plain_query : PlainQuery query) (front_eq : '/' :: front = spelled names) :
    let written :=
      ((front ++ (tailText query none).toList).rdropWhile isControlOrBlank).filter stays
    ((b.follow [] written).names = names.map (fun s => Text.Utf8.bytes s.toList) ∧
        (b.follow [] written).query = query) ↔
      (∀ s ∈ names, PlainName s) ∧ (query = none → EndsSolid (spelled names)) := by
  intro written
  have opens := opensQuery_tailText query
  constructor
  · rintro ⟨told, _⟩
    refine ⟨plain_of_told opens front_eq told, ?_⟩
    rintro rfl
    rw [← front_eq, endsSolid_cons_slash]
    exact endsSolid_of_read (lossless_of_told opens front_eq told).1
  · rintro ⟨plain, solid⟩
    have whole : ∀ c ∈ front, endsPath c = false := fun c mem =>
      (no_pathMark_of_plain front_eq plain mem).2
    have span_eq : spanPath written = (front, (tailText query none).toList) := by
      rw [show written = _ from written_of_plain plain_query front_eq plain solid,
        spanPath_append whole opens]
    have follow_eq : b.follow [] written =
        b.url (Path.resolve [] (Path.readSegments (isSlash .web) front)) query none := by
      simp only [Base.follow, span_eq, readTail_tailText plain_query]
    rw [follow_eq]
    exact ⟨told_of_plain front_eq plain, rfl⟩

end Url
end Shakedown
