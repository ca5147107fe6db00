import Mathlib.Tactic.Lemma
import Shakedown.Text.Punycode

/-!
The characters of Punycode.

What is written of a text is its ASCII characters, a hyphen and digits. What is read holds, of
ASCII, only characters that stand in the written form: a number leads to a character outside ASCII.
-/

namespace Shakedown.Text.Punycode

/-- A digit of base 36. -/
def IsDigit (c : Char) : Prop := ∃ d < 36, c = digit d

/-! Writing. -/

lemma isDigit_of_mem_digits {bias position n : Nat} {c : Char}
    (written : c ∈ digits bias position n) : IsDigit c := by
  have small := threshold_le bias position
  rw [digits] at written
  split at written
  · next last => exact ⟨n, by omega, List.mem_singleton.mp written⟩
  · next goes_on =>
    rcases List.mem_cons.mp written with rfl | later
    · have remainder_lt := Nat.mod_lt (n - threshold bias position)
        (show 0 < 36 - threshold bias position by omega)
      exact ⟨_, by omega, rfl⟩
    · exact isDigit_of_mem_digits later
termination_by n
decreasing_by
  have := threshold_pos bias position
  have := Nat.div_le_self (n - threshold bias position) (36 - threshold bias position)
  omega

/-- Passing a character writes digits or nothing. -/
lemma Writing.isDigit_pass {w : Writing} (digits : ∀ e ∈ w.text, IsDigit e) (c d : Char) :
    ∀ e ∈ (w.pass c d).text, IsDigit e := by
  unfold pass
  split
  · exact digits
  · split
    · intro e mem
      rcases List.mem_append.mp mem with earlier | new
      · exact digits e earlier
      · exact isDigit_of_mem_digits new
    · exact digits

lemma isDigit_of_mem_places {cs rest : List Char} {n : Nat} {w : Writing}
    (digits : ∀ e ∈ w.text, IsDigit e) : ∀ e ∈ places cs rest n w, IsDigit e := by
  induction rest generalizing n w with
  | nil => exact digits
  | cons c rest ih =>
    have passed : ∀ (ds : List Char) (w : Writing), (∀ e ∈ w.text, IsDigit e) →
        ∀ e ∈ (ds.foldl (Writing.pass c) w).text, IsDigit e := by
      intro ds
      induction ds with
      | nil => exact fun w digits => digits
      | cons d ds pass_ih => exact fun w digits => pass_ih _ (w.isDigit_pass digits c d)
    rw [places]
    exact ih (passed cs _ digits)

lemma mem_encode {cs : List Char} {c : Char} (written : c ∈ encode cs) :
    c ∈ cs ∧ isBasic c = true ∨ c = '-' ∨ IsDigit c := by
  rw [encode, List.mem_append, List.mem_append] at written
  rcases written with (basic | mark) | place
  · exact .inl (List.mem_filter.mp basic)
  · split at mark
    · cases mark
    · exact .inr (.inl (List.mem_singleton.mp mark))
  · exact .inr (.inr (isDigit_of_mem_places (List.forall_mem_nil _) c place))

/-! Reading. -/

/-- Nothing has been read but the ASCII characters in front and characters outside ASCII. -/
structure Reading.From (basic : List Char) (r : Reading) : Prop where
  text : ∀ c ∈ r.text, c ∈ basic ∨ isBasic c = false
  codePoint : 0x80 ≤ r.codePoint

namespace Reading
variable {basic : List Char} {r s : Reading}

lemma From.place (from_basic : r.From basic) (placed : r.place = some s) : s.From basic := by
  rw [Reading.place] at placed
  have outside : 0x80 ≤ r.codePoint + r.index / (r.text.length + 1) :=
    Nat.le_add_right_of_le from_basic.codePoint
  split at placed
  · next valid =>
    obtain rfl := Option.some.inj placed
    refine ⟨fun c mem => ?_, outside⟩
    rcases List.mem_append.mp mem with before | mem
    · exact from_basic.text c (List.mem_of_mem_take before)
    · rcases List.mem_cons.mp mem with rfl | behind
      · right
        rw [isBasic, Char.ofNat, dif_pos valid]
        exact decide_eq_false (Nat.not_lt.mpr outside)
      · exact from_basic.text c (List.mem_of_mem_drop behind)
  · cases placed

lemma From.step {c : Char} (from_basic : r.From basic) (stepped : r.step c = some s) :
    s.From basic := by
  rw [Reading.step] at stepped
  split at stepped
  · cases stepped
  · dsimp only at stepped
    split at stepped
    · refine From.place ?_ stepped
      exact ⟨from_basic.text, from_basic.codePoint⟩
    · obtain rfl := Option.some.inj stepped
      exact ⟨from_basic.text, from_basic.codePoint⟩

lemma From.foldlM {cs : List Char} (from_basic : r.From basic)
    (stepped : cs.foldlM Reading.step r = some s) : s.From basic := by
  induction cs generalizing r with
  | nil =>
    obtain rfl := Option.some.inj stepped
    exact from_basic
  | cons c cs ih =>
    rw [List.foldlM_cons] at stepped
    obtain ⟨next, first, later⟩ := Option.bind_eq_some_iff.mp stepped
    exact ih (from_basic.step first) later

lemma From.ofBasic (basic : List Char) : (ofBasic basic).From basic :=
  ⟨fun _ mem => .inl mem, Nat.le_refl _⟩

end Reading

/-- What is read holds nothing of ASCII that was not written. -/
lemma mem_of_decode {cs shown : List Char} (read : decode? cs = some shown) {c : Char}
    (mem : c ∈ shown) : c ∈ cs ∨ isBasic c = false := by
  rw [decode?] at read
  split at read
  · split at read
    · next r numbers =>
      split at read
      · obtain rfl := Option.some.inj read
        exact (((Reading.From.ofBasic _).foldlM numbers).text c mem).imp_left List.mem_of_mem_take
      · cases read
    · cases read
  · cases read

end Shakedown.Text.Punycode
