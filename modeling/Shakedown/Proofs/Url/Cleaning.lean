import Mathlib.Data.List.DropRight
import Mathlib.Tactic.Lemma
import Shakedown.Url.Reader

/-!
What is left of a text once it is cleaned.

Blanks and control characters go from both ends, tabs and line ends from everywhere. Characters that
are none of these keep their place, and so does everything between two of them but the tabs and line
ends.
-/

namespace Shakedown.Url

/-- What is asked of the characters of a text is decided one after another. -/
instance (priority := 2000) decidableForallChar {p : Char → Prop} [DecidablePred p]
    (cs : List Char) : Decidable (∀ c ∈ cs, p c) :=
  List.decidableBAll p cs

/-- What holds of a character need only be seen in ASCII, if it holds of no other. -/
lemma forall_of_ascii {p q : Char → Bool}
    (all : ∀ n ∈ List.range 128, p (Char.ofNat n) = true → q (Char.ofNat n) = true) {c : Char}
    (small : c.toNat < 128) (has : p c = true) : q c = true := by
  have found := all c.toNat (List.mem_range.mpr small)
  rw [Char.ofNat_toNat] at found
  exact found has

/-- Dropping from the end leaves the front. -/
lemma rdropWhile_cons_of_neg {p : Char → Bool} {c : Char} (solid : p c = false) (cs : List Char) :
    (c :: cs).rdropWhile p = c :: cs.rdropWhile p := by
  rw [List.rdropWhile, List.reverse_cons, List.dropWhile_append]
  split
  · next all => simp [List.rdropWhile, List.isEmpty_iff.mp all, solid]
  · simp [List.rdropWhile]

lemma rdropWhile_eq_nil_or_cons (p : Char → Bool) (c : Char) (cs : List Char) :
    (c :: cs).rdropWhile p = [] ∨ ∃ kept, (c :: cs).rdropWhile p = c :: kept := by
  rcases List.prefix_cons_iff.mp (List.rdropWhile_prefix p (c :: cs)) with nothing | ⟨kept, eq, _⟩
  · exact .inl nothing
  · exact .inr ⟨kept, eq⟩

/-- A front of which nothing is dropped stays whole in front of anything. -/
lemma rdropWhile_append_of_neg {p : Char → Bool} {front : List Char}
    (solid : ∀ c ∈ front, p c = false) (rest : List Char) :
    (front ++ rest).rdropWhile p = front ++ rest.rdropWhile p := by
  induction front with
  | nil => rfl
  | cons c front ih =>
    obtain ⟨c_solid, front_solid⟩ := List.forall_mem_cons.mp solid
    rw [List.cons_append, rdropWhile_cons_of_neg c_solid, ih front_solid, List.cons_append]

/-- Neither a tab nor a line end. -/
def stays (c : Char) : Bool := c ≠ '\t' && c ≠ '\n' && c ≠ '\r'

lemma stays_of_solid {c : Char} (solid : isControlOrBlank c = false) : stays c = true := by
  have above : ¬ c.toNat ≤ 0x20 := of_decide_eq_false solid
  have differs : c ≠ '\t' ∧ c ≠ '\n' ∧ c ≠ '\r' := by
    refine ⟨?_, ?_, ?_⟩ <;> rintro rfl <;> exact above (by decide)
  simp [stays, differs]

lemma clean_eq (text : String) : clean text =
    ((text.toList.dropWhile isControlOrBlank).rdropWhile isControlOrBlank).filter stays := rfl

/-- The text does not end in a character that is dropped from the end of a reference. -/
def EndsSolid (cs : List Char) : Prop := ∀ c ∈ cs.getLast?, isControlOrBlank c = false

instance (cs : List Char) : Decidable (EndsSolid cs) :=
  Option.decidableForallMem cs.getLast?

lemma rdropWhile_eq_self_iff_endsSolid {cs : List Char} :
    cs.rdropWhile isControlOrBlank = cs ↔ EndsSolid cs := by
  rw [List.rdropWhile_eq_self_iff, EndsSolid]
  constructor
  · intro solid c last
    obtain ⟨present, rfl⟩ := List.mem_getLast?_eq_getLast last
    rw [← Bool.not_eq_true]
    exact solid present
  · intro solid present
    rw [solid _ (List.getLast?_eq_some_getLast present)]
    exact Bool.false_ne_true

lemma EndsSolid.of_forall {cs : List Char} (solid : ∀ c ∈ cs, isControlOrBlank c = false) :
    EndsSolid cs := fun c last => solid c (List.mem_of_getLast? last)

lemma EndsSolid.append (front : List Char) {behind : List Char} (present : behind ≠ []) :
    EndsSolid (front ++ behind) ↔ EndsSolid behind := by
  rw [EndsSolid, EndsSolid, List.getLast?_append_of_ne_nil front present]

lemma EndsSolid.behind {front behind : List Char} (solid : EndsSolid (front ++ behind)) :
    EndsSolid behind := by
  by_cases present : behind = []
  · rw [present]
    exact EndsSolid.of_forall nofun
  · exact (EndsSolid.append front present).mp solid

/-- Nothing is cleaned off the front of a text that opens with characters that stay. -/
lemma clean_append {front : List Char} (present : front ≠ [])
    (solid : ∀ c ∈ front, isControlOrBlank c = false) {text : String} {rest : List Char}
    (opens : text.toList = front ++ rest) :
    clean text = front ++ (rest.rdropWhile isControlOrBlank).filter stays := by
  have start_eq : text.toList.dropWhile isControlOrBlank = front ++ rest := by
    obtain ⟨c, tail, rfl⟩ := List.exists_cons_of_ne_nil present
    have c_solid := solid c List.mem_cons_self
    rw [opens, List.cons_append, List.dropWhile_cons_of_neg (by simp [c_solid])]
  rw [clean_eq, start_eq, rdropWhile_append_of_neg solid, List.filter_append,
    List.filter_eq_self.mpr fun c mem => stays_of_solid (solid c mem)]

lemma clean_of_slash {reference : String} {rest : List Char}
    (opens : reference.toList = '/' :: rest) :
    clean reference = '/' :: (rest.rdropWhile isControlOrBlank).filter stays :=
  clean_append (List.cons_ne_nil '/' []) (by decide) opens

end Shakedown.Url
