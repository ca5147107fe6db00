import Mathlib.Tactic.Lemma
import Shakedown.Text.Percent

/-!
Reading percent-encoded text back.

What is encoded with percent signs among it is read back whole. A text that keeps its percent signs
is read as if nothing had been encoded: the escapes that stand in it are taken for what they stand
for, and it comes back whole just when there are none.
-/

namespace Shakedown.Text

namespace Utf8

lemma bytes_cons (c : Char) (cs : List Char) :
    bytes (c :: cs) = String.utf8EncodeChar c ++ bytes cs := List.flatMap_cons

lemma bytes_append (cs ds : List Char) : bytes (cs ++ ds) = bytes cs ++ bytes ds :=
  List.flatMap_append

/-- Different texts have different bytes. -/
lemma bytes_inj {cs ds : List Char} : bytes cs = bytes ds ↔ cs = ds := by
  constructor
  · intro same
    rw [← decode_bytes cs, same, decode_bytes]
  · rintro rfl
    rfl

end Utf8

namespace Percent

variable {keep : Char → Bool}

lemma hexValue_hexDigit {n : Nat} (small : n < 16) : hexValue (hexDigit n) = some n := by
  have all : ∀ m ∈ List.range 16, hexValue (hexDigit m) = some m := by decide
  exact all n (List.mem_range.mpr small)

/-- The text starts with two digits, so a percent sign in front of it would open an escape. -/
def OpensDigits (cs : List Char) : Prop :=
  ∃ a b rest, cs = a :: b :: rest ∧ (hexValue a).isSome = true ∧ (hexValue b).isSome = true

lemma exists_decode_of_digits {a b : Char} (a_digit : (hexValue a).isSome = true)
    (b_digit : (hexValue b).isSome = true) :
    ∃ byte, ∀ rest, decode ('%' :: a :: b :: rest) = byte :: decode rest := by
  obtain ⟨x, x_eq⟩ := Option.isSome_iff_exists.mp a_digit
  obtain ⟨y, y_eq⟩ := Option.isSome_iff_exists.mp b_digit
  refine ⟨UInt8.ofNat (16 * x + y), fun rest => ?_⟩
  simp only [decode, x_eq, y_eq]

lemma decode_percent {cs : List Char} (plain : ¬ OpensDigits cs) :
    decode ('%' :: cs) = 37 :: decode cs := by
  match cs with
  | [] => rfl
  | [a] => rfl
  | a :: b :: rest =>
    rw [decode]
    cases first : hexValue a with
    | none => rfl
    | some x =>
      cases second : hexValue b with
      | none => rfl
      | some y => exact absurd ⟨a, b, rest, rfl, by rw [first]; rfl, by rw [second]; rfl⟩ plain

lemma decode_cons {c : Char} (plain : c ≠ '%') (rest : List Char) :
    decode (c :: rest) = String.utf8EncodeChar c ++ decode rest := by
  rw [decode]
  rintro a b tail rfl
  contradiction

/-- How reading starts: with an escape that stands for one byte, or with a character that stands for
itself. -/
lemma decode_cons_cases (c : Char) (cs : List Char) :
    (c = '%' ∧ ∃ a b rest byte, cs = a :: b :: rest ∧ (hexValue a).isSome = true ∧
      (hexValue b).isSome = true ∧ decode (c :: cs) = byte :: decode rest) ∨
    ((c = '%' → ¬ OpensDigits cs) ∧ decode (c :: cs) = String.utf8EncodeChar c ++ decode cs) := by
  by_cases percent : c = '%'
  · subst percent
    by_cases opens : OpensDigits cs
    · obtain ⟨a, b, rest, rfl, a_digit, b_digit⟩ := opens
      obtain ⟨byte, decode_eq⟩ := exists_decode_of_digits a_digit b_digit
      exact .inl ⟨rfl, a, b, rest, byte, rfl, a_digit, b_digit, decode_eq rest⟩
    · exact .inr ⟨fun _ => opens, decode_percent opens⟩
  · exact .inr ⟨fun percent' => absurd percent' percent, decode_cons percent cs⟩

lemma decode_ne_nil {cs : List Char} (present : cs ≠ []) : decode cs ≠ [] := by
  obtain ⟨c, cs, rfl⟩ := List.exists_cons_of_ne_nil present
  rcases decode_cons_cases c cs with ⟨_, _, _, _, _, _, _, _, decode_eq⟩ | ⟨_, decode_eq⟩
  · rw [decode_eq]
    exact List.cons_ne_nil _ _
  · rw [decode_eq]
    exact List.append_ne_nil_of_left_ne_nil String.utf8EncodeChar_ne_nil _

lemma decode_escape (b : UInt8) (rest : List Char) :
    decode (escape b ++ rest) = b :: decode rest := by
  have b_lt := b.toNat_lt
  have high := hexValue_hexDigit (show b.toNat / 16 < 16 by omega)
  have low := hexValue_hexDigit (show b.toNat % 16 < 16 by omega)
  have whole : UInt8.ofNat (16 * (b.toNat / 16) + b.toNat % 16) = b := by
    rw [Nat.div_add_mod, UInt8.ofNat_toNat]
  simp only [escape, List.cons_append, List.nil_append, decode, high, low, whole]

lemma decode_escapes (bs : List UInt8) (rest : List Char) :
    decode (bs.flatMap escape ++ rest) = bs ++ decode rest := by
  induction bs with
  | nil => rfl
  | cons b bs ih => rw [List.flatMap_cons, List.append_assoc, decode_escape, ih, List.cons_append]

/-- What an encoding is made of: percent signs, digits and the characters that are kept. -/
lemma mem_encodeChar {c d : Char} (written : d ∈ encodeChar keep c) :
    d = '%' ∨ (∃ n < 16, d = hexDigit n) ∨ d = c ∧ keep c = true := by
  by_cases kept : keep c = true
  · rw [encodeChar, if_pos kept, List.mem_singleton] at written
    exact .inr (.inr ⟨written, kept⟩)
  · rw [encodeChar, if_neg kept, List.mem_flatMap] at written
    obtain ⟨b, _, in_escape⟩ := written
    have b_lt := b.toNat_lt
    simp only [escape, List.mem_cons, List.not_mem_nil, or_false] at in_escape
    rcases in_escape with percent | high | low
    · exact .inl percent
    · exact .inr (.inl ⟨_, by omega, high⟩)
    · exact .inr (.inl ⟨_, by omega, low⟩)

lemma mem_encode {cs : List Char} {d : Char} (written : d ∈ encode keep cs) :
    d = '%' ∨ (∃ n < 16, d = hexDigit n) ∨ d ∈ cs ∧ keep d = true := by
  obtain ⟨c, mem, written⟩ := List.mem_flatMap.mp written
  rcases mem_encodeChar written with percent | digit | ⟨rfl, kept⟩
  · exact .inl percent
  · exact .inr (.inl digit)
  · exact .inr (.inr ⟨mem, kept⟩)

/-- A character is read back from its encoding, unless it is a percent sign kept as it is. -/
lemma decode_encodeChar {c : Char} (told : keep c = true → c ≠ '%') (rest : List Char) :
    decode (encodeChar keep c ++ rest) = String.utf8EncodeChar c ++ decode rest := by
  by_cases kept : keep c = true
  · rw [encodeChar, if_pos kept]
    exact decode_cons (told kept) rest
  · rw [encodeChar, if_neg kept]
    exact decode_escapes _ rest

/-- The percent sign and the digits are kept. -/
def KeepsEscapes (keep : Char → Bool) : Prop :=
  keep '%' = true ∧ ∀ c, (hexValue c).isSome = true → keep c = true

/-- A kept digit that opens an encoded text opens the text. -/
lemma eq_cons_of_encode {cs rest : List Char} {a : Char} (digit : (hexValue a).isSome = true)
    (opens : encode keep cs = a :: rest) : ∃ tail, cs = a :: tail ∧ encode keep tail = rest := by
  have no_percent : a ≠ '%' := by
    rintro rfl
    exact absurd digit (by decide)
  cases cs with
  | nil => cases opens
  | cons c cs =>
    have opens' : encodeChar keep c ++ encode keep cs = a :: rest := opens
    by_cases kept : keep c = true
    · rw [encodeChar, if_pos kept, List.singleton_append] at opens'
      obtain ⟨rfl, rest_eq⟩ := List.cons.inj opens'
      exact ⟨cs, rfl, rest_eq⟩
    · rw [encodeChar, if_neg kept] at opens'
      obtain ⟨b, bs, bytes_eq⟩ := List.exists_cons_of_ne_nil (String.utf8EncodeChar_ne_nil (c := c))
      rw [bytes_eq, List.flatMap_cons, escape] at opens'
      exact absurd (List.cons.inj opens').1.symm no_percent

lemma OpensDigits.of_encode {cs : List Char} (opens : OpensDigits (encode keep cs)) :
    OpensDigits cs := by
  obtain ⟨a, b, rest, eq, a_digit, b_digit⟩ := opens
  obtain ⟨tail, rfl, tail_eq⟩ := eq_cons_of_encode a_digit eq
  obtain ⟨tail, rfl, _⟩ := eq_cons_of_encode b_digit tail_eq
  exact ⟨a, b, tail, rfl, a_digit, b_digit⟩

lemma encode_cons (c : Char) (cs : List Char) :
    encode keep (c :: cs) = encodeChar keep c ++ encode keep cs := List.flatMap_cons

lemma encode_cons_of_pos {c : Char} (kept : keep c = true) (cs : List Char) :
    encode keep (c :: cs) = c :: encode keep cs := by
  rw [encode_cons, encodeChar, if_pos kept, List.singleton_append]

/-- Text without a character to encode is left as it is. -/
lemma encode_of_forall {cs : List Char} (kept : ∀ c ∈ cs, keep c = true) : encode keep cs = cs := by
  induction cs with
  | nil => rfl
  | cons c cs ih =>
    obtain ⟨c_kept, cs_kept⟩ := List.forall_mem_cons.mp kept
    rw [encode_cons_of_pos c_kept, ih cs_kept]

/-- Text that keeps its escapes is read as if it had not been encoded. -/
lemma decode_encode (keeps : KeepsEscapes keep) (cs : List Char) :
    decode (encode keep cs) = decode cs := by
  -- by length: an escape is three characters read at once
  match cs with
  | [] => rfl
  | c :: cs =>
    by_cases percent : c = '%'
    · subst percent
      rw [encode_cons_of_pos keeps.1]
      by_cases opens : OpensDigits cs
      · obtain ⟨a, b, rest, rfl, a_digit, b_digit⟩ := opens
        obtain ⟨byte, decode_eq⟩ := exists_decode_of_digits a_digit b_digit
        rw [encode_cons_of_pos (keeps.2 a a_digit), encode_cons_of_pos (keeps.2 b b_digit),
          decode_eq, decode_eq, decode_encode keeps rest]
      · rw [decode_percent opens, decode_percent fun still => opens still.of_encode,
          decode_encode keeps cs]
    · rw [encode_cons, decode_encodeChar fun _ => percent, decode_cons percent,
        decode_encode keeps cs]
termination_by cs.length

/-- No escape stands in the text. -/
def Unescaped (cs : List Char) : Prop := ∀ rest, '%' :: rest <:+ cs → ¬ OpensDigits rest

lemma unescaped_cons_iff {c : Char} {cs : List Char} :
    Unescaped (c :: cs) ↔ (c = '%' → ¬ OpensDigits cs) ∧ Unescaped cs := by
  constructor
  · intro plain
    constructor
    · rintro rfl
      exact plain cs (List.suffix_refl _)
    · intro rest behind
      exact plain rest (behind.trans (List.suffix_cons c cs))
  · rintro ⟨front, plain⟩ rest behind
    rcases List.suffix_cons_iff.mp behind with eq | behind
    · obtain ⟨rfl, rfl⟩ := List.cons.inj eq
      exact front rfl
    · exact plain rest behind

lemma one_le_length_utf8EncodeChar (c : Char) : 1 ≤ (String.utf8EncodeChar c).length :=
  List.length_pos_iff.mpr String.utf8EncodeChar_ne_nil

/-- An escape stands for less than it is written with. -/
lemma length_decode_le (cs : List Char) : (decode cs).length ≤ (Utf8.bytes cs).length ∧
    ((decode cs).length = (Utf8.bytes cs).length → Unescaped cs) := by
  match cs with
  | [] => exact ⟨Nat.le_refl 0, fun _ _ behind => by cases List.suffix_nil.mp behind⟩
  | c :: cs =>
    rcases decode_cons_cases c cs with ⟨_, a, b, rest, _, rfl, _, _, decode_eq⟩ | ⟨front, decode_eq⟩
    · have rest_shorter := (length_decode_le rest).1
      have c_le := one_le_length_utf8EncodeChar c
      have a_le := one_le_length_utf8EncodeChar a
      have b_le := one_le_length_utf8EncodeChar b
      have strict : (decode (c :: a :: b :: rest)).length <
          (Utf8.bytes (c :: a :: b :: rest)).length := by
        rw [decode_eq]
        simp only [Utf8.bytes_cons, List.length_append, List.length_cons]
        omega
      exact ⟨Nat.le_of_lt strict, fun same => absurd same (Nat.ne_of_lt strict)⟩
    · obtain ⟨shorter, plain⟩ := length_decode_le cs
      rw [decode_eq, Utf8.bytes_cons, List.length_append, List.length_append]
      constructor
      · omega
      · intro same
        exact unescaped_cons_iff.mpr ⟨front, plain (by omega)⟩
termination_by cs.length

/-- A text is read as itself just when no escape stands in it. -/
lemma decode_eq_bytes_iff {cs : List Char} : decode cs = Utf8.bytes cs ↔ Unescaped cs := by
  constructor
  · intro same
    exact (length_decode_le cs).2 (by rw [same])
  · intro plain
    induction cs with
    | nil => rfl
    | cons c cs ih =>
      obtain ⟨front, behind⟩ := unescaped_cons_iff.mp plain
      rcases decode_cons_cases c cs with ⟨percent, a, b, rest, _, eq, digits⟩ | ⟨_, decode_eq⟩
      · exact absurd ⟨a, b, rest, eq, digits.1, digits.2.1⟩ (front percent)
      · rw [decode_eq, ih behind, Utf8.bytes_cons]

instance (cs : List Char) : Decidable (Unescaped cs) := decidable_of_iff _ decode_eq_bytes_iff

end Percent
end Shakedown.Text
