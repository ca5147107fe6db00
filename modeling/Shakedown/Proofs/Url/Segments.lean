import Shakedown.Proofs.Address.Names

/-!
Segments, as paths have them and as they are written.

What a path is made of when it is read holds neither slashes nor anything to escape, so written out,
each segment behind a slash, it is read as the same segments again.
-/

namespace Shakedown.Url

/-- A text that may be a segment of a path: no slash stands in it, and nothing to escape. -/
def IsSegment (s : String) : Prop := ∀ c ∈ s.toList, Path.keeps c = true ∧ isSlash .web c = false

lemma isSegment_empty : IsSegment "" := List.forall_mem_nil _

lemma IsSegment.slashless {list : List String} (segments : ∀ s ∈ list, IsSegment s) :
    ∀ s ∈ list, ∀ c ∈ s.toList, isSlash .web c = false :=
  fun s mem c in_segment => (segments s mem c in_segment).2

lemma not_isSlash_of_isUnreserved {c : Char} (unreserved : isUnreserved c = true) :
    isSlash .web c = false := by
  have both : c ≠ '/' ∧ c ≠ '\\' := by
    constructor <;> rintro rfl <;> exact absurd unreserved (by decide)
  simp [isSlash, both]

lemma isSegment_of_isUnreserved {s : String} (unreserved : ∀ c ∈ s.toList, isUnreserved c = true) :
    IsSegment s := fun c mem =>
  ⟨(plain_of_isUnreserved (unreserved c mem)).2.1, not_isSlash_of_isUnreserved (unreserved c mem)⟩

/-- A name of unreserved characters says nothing about moving, unless it is dots. -/
lemma move_of_isUnreserved {s : String} (unreserved : ∀ c ∈ s.toList, isUnreserved c = true)
    (no_dots : s ≠ "." ∧ s ≠ "..") : Path.move s = .into := by
  have into := straight_of_plain (.of_unreserved unreserved no_dots)
  have kept : ∀ c ∈ s.toList, Path.keeps c = true := fun c mem =>
    (plain_of_isUnreserved (unreserved c mem)).2.1
  rwa [Text.Percent.encode_of_forall kept, String.ofList_toList] at into

lemma isSegment_of_mem_readSegments {cs : List Char} {s : String}
    (mem : s ∈ Path.readSegments (isSlash .web) cs) : IsSegment s := by
  intro c in_segment
  rw [readSegments_eq, List.mem_map] at mem
  obtain ⟨piece, cut, rfl⟩ := mem
  rw [String.toList_ofList] at in_segment
  rcases Text.Percent.mem_encode in_segment with rfl | ⟨n, small, rfl⟩ | ⟨in_piece, kept⟩
  · decide
  · have digits : ∀ m ∈ List.range 16, Path.keeps (Text.Percent.hexDigit m) = true ∧
        isSlash .web (Text.Percent.hexDigit m) = false := by decide
    exact digits n (List.mem_range.mpr small)
  · exact ⟨kept, Text.neg_of_mem_splitBy cut c in_piece⟩

lemma isSegment_of_mem_resolve {start segments : List String} (above : ∀ s ∈ start, IsSegment s)
    (read : ∀ s ∈ segments, IsSegment s) : ∀ s ∈ Path.resolve start segments, IsSegment s := by
  intro s mem
  rcases Path.mem_resolveOnto mem with rfl | in_segments | in_start
  · exact isSegment_empty
  · exact read s in_segments
  · exact above s (List.mem_reverse.mp in_start)

lemma isSegment_of_mem_absoluteSegments {cs : List Char} :
    ∀ s ∈ absoluteSegments .web cs, IsSegment s :=
  isSegment_of_mem_resolve (List.forall_mem_nil _) fun _ mem => isSegment_of_mem_readSegments mem

/-! Segments written out. -/

lemma toList_text_segments (list : List String) : (Path.segments list).text.toList = spelled list :=
  toList_segmentsText list

lemma spelled_cons (s : String) (rest : List String) :
    spelled (s :: rest) = '/' :: (s.toList ++ spelled rest) := rfl

lemma spelled_append (front back : List String) :
    spelled (front ++ back) = spelled front ++ spelled back := List.flatMap_append

lemma spelled_replicate (n : Nat) : spelled (List.replicate n "") = List.replicate n '/' := by
  induction n with
  | zero => rfl
  | succ n ih =>
    rw [List.replicate_succ, List.replicate_succ, ← ih]
    rfl

lemma exists_spelled {list : List String} (present : list ≠ []) :
    ∃ front, '/' :: front = spelled list := by
  obtain ⟨s, rest, rfl⟩ := List.exists_cons_of_ne_nil present
  exact ⟨s.toList ++ spelled rest, rfl⟩

lemma eq_slash_or_of_mem_spelled {list : List String} {c : Char} (mem : c ∈ spelled list) :
    c = '/' ∨ ∃ s ∈ list, c ∈ s.toList := by
  obtain ⟨s, in_list, here⟩ := List.mem_flatMap.mp mem
  exact (List.mem_cons.mp here).imp_right fun in_segment => ⟨s, in_list, in_segment⟩

lemma solid_of_keeps {c : Char} (kept : Path.keeps c = true) :
    isControlOrBlank c = false ∧ endsPath c = false := by
  have graphic : c.toNat < 128 := by
    simp only [Path.keeps, Text.Percent.isGraphic, Bool.and_eq_true, decide_eq_true_eq] at kept
    omega
  have plain := forall_of_ascii (p := Path.keeps)
    (q := fun c => isControlOrBlank c = false ∧ endsPath c = false) (by decide +kernel) graphic kept
  exact of_decide_eq_true plain

/-- Nothing in a path that is written out is dropped, or ends it. -/
lemma solid_of_mem_spelled {list : List String} (segments : ∀ s ∈ list, IsSegment s) {c : Char}
    (mem : c ∈ spelled list) : isControlOrBlank c = false ∧ endsPath c = false := by
  rcases eq_slash_or_of_mem_spelled mem with rfl | ⟨s, in_list, in_segment⟩
  · decide
  · exact solid_of_keeps (segments s in_list c in_segment).1

/-- Segments that are written out are read back. -/
lemma readSegments_of_spelled {front : List Char} {list : List String}
    (front_eq : '/' :: front = spelled list) (segments : ∀ s ∈ list, IsSegment s) :
    Path.readSegments (isSlash .web) front = list := by
  have encode_eq : ∀ s ∈ list, String.ofList (Text.Percent.encode Path.keeps s.toList) = s := by
    intro s mem
    rw [Text.Percent.encode_of_forall fun c in_segment => (segments s mem c in_segment).1,
      String.ofList_toList]
  rw [readSegments_eq, splitBy_of_spelled front_eq (IsSegment.slashless segments), List.map_map]
  exact (List.map_congr_left encode_eq).trans (List.map_id list)

/-- A path that is written out leads where its segments lead from the root. -/
lemma absoluteSegments_spelled {list : List String} (present : list ≠ [])
    (segments : ∀ s ∈ list, IsSegment s) :
    absoluteSegments .web (spelled list) = Path.resolve [] list := by
  obtain ⟨front, front_eq⟩ := exists_spelled present
  rw [← front_eq, absoluteSegments, dropSlash, if_pos (by decide),
    readSegments_of_spelled front_eq segments]

/-- Where segments lead nowhere but to themselves, there are no dots among them. -/
lemma straight_of_resolve_eq {list : List String} (same : Path.resolve [] list = list) :
    Path.Straight list := by
  have resolved : Path.resolveOnto [] list = list := same
  refine (Path.sum_resolveOnto_le (fun _ dots => weight_of_dots dots) [] list).2 ?_
  rw [resolved, List.map_nil, List.sum_nil, Nat.zero_add]

/-! Empty segments at the end. -/

lemma splitBy_replicate (n : Nat) :
    Text.splitBy (isSlash .web) (List.replicate n '/') = List.replicate (n + 1) [] := by
  induction n with
  | zero => rfl
  | succ n ih =>
    rw [List.replicate_succ, Text.splitBy_cons_of_pos (by decide), ih]
    rfl

/-- Slashes behind a path are empty segments. -/
lemma readSegments_append_replicate (cs : List Char) (n : Nat) :
    Path.readSegments (isSlash .web) (cs ++ List.replicate n '/') =
      Path.readSegments (isSlash .web) cs ++ List.replicate n "" := by
  cases n with
  | zero => simp
  | succ n =>
    rw [List.replicate_succ, readSegments_eq, Text.splitBy_append_cons (by decide),
      splitBy_replicate, List.map_append, ← readSegments_eq]
    simp [Text.Percent.encode]

lemma readSegments_ne_nil (cs : List Char) : Path.readSegments (isSlash .web) cs ≠ [] := by
  rw [readSegments_eq, Ne, List.map_eq_nil_iff]
  exact Text.splitBy_ne_nil _ _

lemma absoluteSegments_cons {c : Char} (slash : isSlash .web c = true) (path : List Char)
    (n : Nat) : absoluteSegments .web (c :: path ++ List.replicate n '/') =
      Path.resolve [] (Path.readSegments (isSlash .web) path ++ List.replicate n "") := by
  rw [absoluteSegments, List.cons_append, dropSlash, if_pos slash, readSegments_append_replicate]

lemma absoluteSegments_ne_nil (cs : List Char) : absoluteSegments .web cs ≠ [] :=
  Path.resolveOnto_ne_nil (readSegments_ne_nil _) []

/-- What is dropped from the end was there some number of times. -/
lemma exists_replicate {α : Type} [DecidableEq α] (x : α) (list : List α) :
    ∃ n, list = list.rdropWhile (· = x) ++ List.replicate n x := by
  have dropped : list.rtakeWhile (· = x) = List.replicate (list.rtakeWhile (· = x)).length x := by
    rw [List.eq_replicate_iff]
    exact ⟨rfl, fun y mem => of_decide_eq_true (List.mem_rtakeWhile_imp (p := (· = x)) mem)⟩
  exact ⟨_, by rw [← dropped, List.rdropWhile_append_rtakeWhile]⟩

lemma rdropWhile_append_replicate (cs : List Char) (n : Nat) :
    (cs ++ List.replicate n '/').rdropWhile (· = '/') = cs.rdropWhile (· = '/') := by
  have slashes : ∀ c ∈ List.replicate n '/', decide (c = '/') = true := by
    intro c mem
    exact decide_eq_true (List.eq_of_mem_replicate mem)
  rw [List.rdropWhile, List.reverse_append, List.reverse_replicate,
    List.dropWhile_append_of_pos slashes, List.rdropWhile]

/-- A text without the slashes at its end. -/
def bare (s : String) : String := String.ofList (s.toList.reverse.dropWhile (· = '/')).reverse

lemma toList_bare (s : String) : (bare s).toList = s.toList.rdropWhile (· = '/') := by
  rw [bare, String.toList_ofList, List.rdropWhile]

/-- No slash is dropped behind a text that holds none. -/
lemma rdropWhile_append_of_slashless {back : List Char} (present : back ≠ [])
    (slashless : ∀ c ∈ back, isSlash .web c = false) (front : List Char) :
    (front ++ back).rdropWhile (· = '/') = front ++ back := by
  rw [List.rdropWhile_eq_self_iff]
  intro whole last
  rw [List.getLast_append_of_ne_nil whole present] at last
  have no_slash := slashless _ (List.getLast_mem present)
  rw [of_decide_eq_true last] at no_slash
  exact absurd no_slash (by decide)

end Shakedown.Url
