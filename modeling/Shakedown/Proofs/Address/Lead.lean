import Shakedown.Address
import Shakedown.Proofs.Url.Cleaning

/-!
Web addresses that open with their lead.

A lead is a web scheme in some letter case, a colon and two slashes. None of its characters is
dropped when an address is read, so what follows it is read under its scheme, whatever the rest is;
and as a base the address is read the same way.
-/

namespace Shakedown

open Url

namespace Address

/-- The scheme of a web address with what stands between it and the host. -/
def lead (secure : Bool) : String := if secure then "https://" else "http://"

/-- The lead of a web address in some letter case. -/
def SpellsLead (secure : Bool) (s : String) : Prop := s.toLower = lead secure

lemma spellsLead_iff {secure : Bool} {s : String} :
    SpellsLead secure s ↔ s.toList.map Char.toLower = (lead secure).toList := by
  rw [SpellsLead, ← String.toList_inj, Text.toList_toLower]

instance (secure : Bool) (s : String) : Decidable (SpellsLead secure s) :=
  decidable_of_iff _ spellsLead_iff.symm

variable {secure : Bool} {s : String}

lemma SpellsLead.ne_nil (spells : SpellsLead secure s) :
    s.toList ≠ [] := by
  intro empty
  have := spellsLead_iff.mp spells
  rw [empty] at this
  cases secure <;> cases this

lemma spellsLead_lead (secure : Bool) : SpellsLead secure (lead secure) := by
  cases secure <;> decide

/-- No text opens with both leads. -/
lemma leads_differ {s t : String} {rest rest' : List Char} (plain : SpellsLead false s)
    (secure : SpellsLead true t) : s.toList ++ rest ≠ t.toList ++ rest' := by
  intro same
  have lower := congrArg (List.map Char.toLower) same
  rw [List.map_append, List.map_append, spellsLead_iff.mp plain, spellsLead_iff.mp secure] at lower
  have http_prefix : (lead false).toList <+: (lead true).toList ++ rest'.map Char.toLower :=
    ⟨_, lower⟩
  have inside : (lead false).toList <+: (lead true).toList :=
    List.prefix_of_prefix_length_le http_prefix (List.prefix_append _ _) (by decide)
  exact absurd inside (by decide)

/-- What holds of the capitals holds of every character that is not its own lower case. -/
lemma toLower_eq_or {q : Char → Bool}
    (capitals : ((List.range 26).all fun n => q (Char.ofNat (n + 65))) = true) (c : Char) :
    c.toLower = c ∨ q c = true := by
  by_cases capital : 65 ≤ c.toNat ∧ c.toNat ≤ 90
  · right
    have found := List.all_eq_true.mp capitals (c.toNat - 65) (List.mem_range.mpr (by omega))
    rwa [Nat.sub_add_cancel capital.1, Char.ofNat_toNat] at found
  · left
    exact dif_neg capital

lemma eq_of_toLower_eq {c d : Char} (mark : d ∈ "://".toList) (lower : c.toLower = d) : c = d := by
  rcases toLower_eq_or (q := fun c => c.toLower ∉ "://".toList) (by decide +kernel) c with
    same | letter
  · exact same.symm.trans lower
  · rw [lower] at letter
    exact absurd mark (of_decide_eq_true letter)

lemma letter_of_toLower {c : Char} (lower : c.toLower ∈ "https".toList) :
    c.isAlpha = true ∧ isControlOrBlank c = false := by
  rcases toLower_eq_or (q := fun c => c.isAlpha = true ∧ isControlOrBlank c = false)
    (by decide +kernel) c with same | letter
  · have letters : ∀ d ∈ "https".toList, d.isAlpha = true ∧ isControlOrBlank d = false := by decide
    rw [same] at lower
    exact letters c lower
  · exact of_decide_eq_true letter

/-- A letter takes as many bytes in either case. -/
lemma utf8Size_toLower (c : Char) : c.toLower.utf8Size = c.utf8Size := by
  rcases toLower_eq_or (q := fun c => c.toLower.utf8Size = c.utf8Size) (by decide +kernel) c with
    same | letter
  · rw [same]
  · exact of_decide_eq_true letter

lemma length_bytes_map_toLower (cs : List Char) :
    (Text.Utf8.bytes (cs.map Char.toLower)).length = (Text.Utf8.bytes cs).length := by
  induction cs with
  | nil => rfl
  | cons c cs ih =>
    rw [List.map_cons, Text.Utf8.length_bytes_cons, Text.Utf8.length_bytes_cons, utf8Size_toLower,
      ih]

/-- However it is spelled, a lead takes the same bytes. -/
lemma SpellsLead.length_bytes (spells : SpellsLead secure s) :
    (Text.Utf8.bytes s.toList).length = (lead secure).utf8ByteSize := by
  rw [← length_bytes_map_toLower, spellsLead_iff.mp spells]
  cases secure <;> decide

/-- The lead is a scheme in some letter case, a colon and two slashes. -/
lemma SpellsLead.exists_scheme (spells : SpellsLead secure s) : ∃ w : List Char,
    s.toList = w ++ "://".toList ∧ w.map Char.toLower = (Base.schemeOf secure).toList := by
  have lower := spellsLead_iff.mp spells
  have lead_eq : (lead secure).toList = (Base.schemeOf secure).toList ++ "://".toList := by
    cases secure <;> rfl
  rw [lead_eq, List.map_eq_append_iff] at lower
  obtain ⟨w, marks, split, w_lower, marks_lower⟩ := lower
  have marks_eq : marks = marks.map Char.toLower := by
    rw [← List.map_id marks, List.map_map]
    refine List.map_congr_left fun c mem => eq_of_toLower_eq ?_ rfl
    rw [← marks_lower]
    exact List.mem_map_of_mem mem
  exact ⟨w, by rw [split, marks_eq, marks_lower], w_lower⟩

lemma mem_https_of_mem_schemeOf (secure : Bool) {c : Char}
    (mem : c ∈ (Base.schemeOf secure).toList) : c ∈ "https".toList := by
  have included : ∀ d ∈ (Base.schemeOf secure).toList, d ∈ "https".toList := by
    cases secure <;> decide
  exact included c mem

lemma SpellsLead.splitScheme_append (spells : SpellsLead secure s) (rest : List Char) :
    splitScheme (s.toList ++ rest) = some (Base.schemeOf secure, '/' :: '/' :: rest) := by
  obtain ⟨w, s_eq, w_lower⟩ := spells.exists_scheme
  have letters : ∀ c ∈ w, c.isAlpha = true := by
    intro c mem
    refine (letter_of_toLower (mem_https_of_mem_schemeOf secure ?_)).1
    rw [← w_lower]
    exact List.mem_map_of_mem mem
  have scheme_chars : ∀ c ∈ w, isSchemeChar c = true := by
    intro c mem
    simp [isSchemeChar, Char.isAlphanum, letters c mem]
  have whole : s.toList ++ rest = w ++ ':' :: '/' :: '/' :: rest := by
    rw [s_eq, List.append_assoc]
    rfl
  have scheme_eq : (s.toList ++ rest).takeWhile isSchemeChar = w := by
    rw [whole, List.takeWhile_append_of_pos scheme_chars, List.takeWhile_cons_of_neg (by decide),
      List.append_nil]
  have behind_eq : (s.toList ++ rest).dropWhile isSchemeChar = ':' :: '/' :: '/' :: rest := by
    rw [whole, List.dropWhile_append_of_pos scheme_chars, List.dropWhile_cons_of_neg (by decide)]
  obtain ⟨first, more, rfl⟩ : ∃ first more, w = first :: more := by
    refine List.exists_cons_of_ne_nil fun empty => ?_
    rw [empty] at w_lower
    cases secure <;> cases w_lower
  have head_eq : (s.toList ++ rest).head? = some first := by rw [whole]; rfl
  simp only [splitScheme, head_eq, behind_eq, scheme_eq, letters first List.mem_cons_self, if_true,
    w_lower, String.ofList_toList]

/-- No character of a lead is dropped. -/
lemma SpellsLead.not_isControlOrBlank (spells : SpellsLead secure s) :
    ∀ c ∈ s.toList, isControlOrBlank c = false := by
  obtain ⟨w, s_eq, w_lower⟩ := spells.exists_scheme
  intro c mem
  rw [s_eq, List.mem_append] at mem
  rcases mem with letter | mark
  · refine (letter_of_toLower (mem_https_of_mem_schemeOf secure ?_)).2
    rw [← w_lower]
    exact List.mem_map_of_mem letter
  · have marks : ∀ d ∈ "://".toList, isControlOrBlank d = false := by decide
    exact marks c mark

/-! Reading what follows a lead. -/

/-- What is left of the text after a lead, without slashes at its start and what cleaning drops. -/
def cleanRest (cs : List Char) : List Char :=
  ((cs.rdropWhile isControlOrBlank).filter stays).dropWhile (isSlash .web)

lemma cleanRest_of_endsSolid {cs : List Char} (solid : EndsSolid cs) :
    cleanRest cs = (cs.filter stays).dropWhile (isSlash .web) := by
  rw [cleanRest, rdropWhile_eq_self_iff_endsSolid.mpr solid]

/-- Whatever follows a lead is read under its scheme. -/
lemma read_of_lead (spells : SpellsLead secure s) (rest : String) :
    Url.read (s ++ rest) = readHierarchical (Base.schemeOf secure) (cleanRest rest.toList) := by
  have cleaned : clean (s ++ rest) =
      s.toList ++ (rest.toList.rdropWhile isControlOrBlank).filter stays :=
    clean_append spells.ne_nil spells.not_isControlOrBlank String.toList_append
  have kind : SchemeKind.of (Base.schemeOf secure) = .web := by cases secure <;> decide
  simp only [Url.read, cleaned, spells.splitScheme_append, ofScheme, kind]
  rfl

lemma read_of_lead_of_endsSolid (spells : SpellsLead secure s) {rest : String}
    (solid : EndsSolid (s ++ rest).toList) : Url.read (s ++ rest) =
      readHierarchical (Base.schemeOf secure)
        ((rest.toList.filter stays).dropWhile (isSlash .web)) := by
  rw [String.toList_append] at solid
  rw [read_of_lead spells, cleanRest_of_endsSolid solid.behind]

end Address

namespace Url.Base

/-- Reads a base after its lead. -/
def read (secure : Bool) (cs : List Char) : Except Problem Base := do
  let (authority, rest) ← readAuthority (schemeOf secure) cs
  let (path, tail) := spanPath rest
  pure ⟨secure, authority, absoluteSegments .web path, (readTail .web tail).1⟩

/-- An address read after its lead is the base read there. -/
lemma ofUrl_readHierarchical (secure : Bool) (cs : List Char) :
    (readHierarchical (schemeOf secure) cs >>= ofUrl) = read secure cs := by
  have kind : SchemeKind.of (schemeOf secure) = .web := by cases secure <;> decide
  have web (a : Authority) (list : List String) (query fragment : Option String) :
      ofUrl ⟨schemeOf secure, some a, .segments list, query, fragment⟩ =
        .ok ⟨secure, a, list, query⟩ := by
    cases secure <;> rfl
  unfold readHierarchical read
  rw [kind]
  cases readAuthority (schemeOf secure) cs with
  | error problem => rfl
  | ok parts => exact web _ _ _ _

end Url.Base

namespace Address

variable {secure : Bool} {s : String}

/-- A host that stands for an address with a lead is read after it. -/
lemma base_of_addressText {host : String} (spells : SpellsLead secure s) {rest : String}
    (text_eq : addressText host = s ++ rest) :
    base host = Base.read secure (cleanRest rest.toList) := by
  rw [base, text_eq, read_of_lead spells, Base.ofUrl_readHierarchical]

end Address
end Shakedown
