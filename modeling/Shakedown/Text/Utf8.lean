/-!
Reading UTF-8 bytes that may be damaged.

`decode` never fails: each longest run of bytes that begins a character without finishing it, and
each byte that begins none, becomes one U+FFFD. `bytes` writes a text's UTF-8 bytes, and `front?`
cuts a text after a number of them.
-/

namespace Shakedown.Text.Utf8

/-- The UTF-8 bytes of a text. -/
def bytes (cs : List Char) : List UInt8 := cs.flatMap String.utf8EncodeChar

/-- One step of reading: the character found, and how many bytes it takes. -/
structure Step where
  char : Char
  width : Nat

def replacement : Char := '\ufffd'

private def within (lo hi b : UInt8) : Bool := lo ≤ b && b ≤ hi

private def trail (b : UInt8) : Bool := within 0x80 0xBF b

private def low (b : UInt8) : Nat := b.toNat % 64

/-- The bytes that may follow a lead byte of a three-byte character. -/
private def second3 (lead b : UInt8) : Bool :=
  if lead == 0xE0 then within 0xA0 0xBF b
  else if lead == 0xED then within 0x80 0x9F b
  else trail b

/-- The bytes that may follow a lead byte of a four-byte character. -/
private def second4 (lead b : UInt8) : Bool :=
  if lead == 0xF0 then within 0x90 0xBF b
  else if lead == 0xF4 then within 0x80 0x8F b
  else trail b

/-- Reads one character from a byte and those after it. -/
def step (lead : UInt8) (rest : List UInt8) : Step :=
  if lead < 0x80 then ⟨Char.ofNat lead.toNat, 1⟩
  else if within 0xC2 0xDF lead then
    match rest with
    | b :: _ =>
      if trail b then ⟨Char.ofNat (lead.toNat % 32 * 64 + low b), 2⟩ else ⟨replacement, 1⟩
    | [] => ⟨replacement, 1⟩
  else if within 0xE0 0xEF lead then
    match rest with
    | b :: c :: _ =>
      if !second3 lead b then ⟨replacement, 1⟩
      else if trail c then
        ⟨Char.ofNat (lead.toNat % 16 * 4096 + low b * 64 + low c), 3⟩
      else ⟨replacement, 2⟩
    | [b] => if second3 lead b then ⟨replacement, 2⟩ else ⟨replacement, 1⟩
    | [] => ⟨replacement, 1⟩
  else if within 0xF0 0xF4 lead then
    match rest with
    | b :: c :: d :: _ =>
      if !second4 lead b then ⟨replacement, 1⟩
      else if !trail c then ⟨replacement, 2⟩
      else if trail d then
        ⟨Char.ofNat (lead.toNat % 8 * 262144 + low b * 4096 + low c * 64 + low d), 4⟩
      else ⟨replacement, 3⟩
    | [b, c] =>
      if !second4 lead b then ⟨replacement, 1⟩
      else if trail c then ⟨replacement, 3⟩ else ⟨replacement, 2⟩
    | [b] => if second4 lead b then ⟨replacement, 2⟩ else ⟨replacement, 1⟩
    | [] => ⟨replacement, 1⟩
  else ⟨replacement, 1⟩

/-- Reads on after passing over the `skip` bytes that belong to the character just read. -/
def decodeFrom : (skip : Nat) → List UInt8 → List Char
  | _, [] => []
  | skip + 1, _ :: rest => decodeFrom skip rest
  | 0, b :: rest =>
    let s := step b rest
    s.char :: decodeFrom (s.width - 1) rest

def decode (bs : List UInt8) : List Char := decodeFrom 0 bs

/-- The text of bytes that are valid UTF-8, nothing for any others. -/
def decode? (bs : List UInt8) : Option (List Char) :=
  let cs := decode bs
  if bytes cs = bs then some cs else none

/-- The text in the first `n` bytes of another, if they are there and the last ends a character. -/
def front? : (n : Nat) → List Char → Option (List Char)
  | 0, _ => some []
  | _ + 1, [] => none
  | n + 1, c :: cs =>
    if c.utf8Size ≤ n + 1 then (front? (n + 1 - c.utf8Size) cs).map (c :: ·) else none

theorem length_bytes_cons (c : Char) (cs : List Char) :
    (bytes (c :: cs)).length = c.utf8Size + (bytes cs).length := by
  rw [bytes, List.flatMap_cons, List.length_append, String.length_utf8EncodeChar, ← bytes]

/-- A front is there when some characters at the start make up its bytes. -/
theorem front?_eq_some_iff {n : Nat} {cs front : List Char} : front? n cs = some front ↔
    ∃ rest, cs = front ++ rest ∧ (bytes front).length = n := by
  induction cs generalizing n front with
  | nil => cases n <;> cases front <;> simp [front?, bytes]
  | cons c cs ih =>
    have filled := c.utf8Size_pos
    cases front with
    | nil => cases n <;> simp [front?, bytes]
    | cons d front =>
      have length_eq := length_bytes_cons d front
      have d_filled := d.utf8Size_pos
      cases n with
      | zero =>
        refine iff_of_false (by simp [front?]) ?_
        rintro ⟨_, _, length_front⟩
        omega
      | succ n =>
        simp only [front?, Option.ite_none_right_eq_some, Option.map_eq_some_iff, ih]
        constructor
        · rintro ⟨fits, _, ⟨rest, rfl, length_front⟩, cons_eq⟩
          obtain ⟨rfl, rfl⟩ := List.cons.inj cons_eq
          exact ⟨rest, rfl, by omega⟩
        · rintro ⟨rest, cons_eq, length_front⟩
          obtain ⟨rfl, rfl⟩ := List.cons.inj cons_eq
          exact ⟨by omega, front, ⟨rest, rfl, by omega⟩, rfl⟩

/-! What is written is read back. -/

private theorem within_iff {lo hi b : UInt8} :
    within lo hi b = true ↔ lo.toNat ≤ b.toNat ∧ b.toNat ≤ hi.toNat := by
  rw [within, Bool.and_eq_true, decide_eq_true_eq, decide_eq_true_eq, UInt8.le_iff_toNat_le,
    UInt8.le_iff_toNat_le]

private theorem trail_ofNat {n : Nat} (small : n < 64) : trail (UInt8.ofNat (n + 128)) = true := by
  rw [trail, within_iff]
  simp only [UInt8.toNat_ofNat', UInt8.reduceToNat]
  omega

private theorem low_ofNat {n : Nat} (small : n < 64) : low (UInt8.ofNat (n + 128)) = n := by
  simp only [low, UInt8.toNat_ofNat']
  omega

/-- The second of three bytes keeps short forms and the halves of surrogate pairs out. -/
private theorem second3_ofNat {a b : Nat} (a_lt : a < 16) (b_lt : b < 64) (long : a = 0 → 32 ≤ b)
    (whole : a = 13 → b < 32) :
    second3 (UInt8.ofNat (a + 224)) (UInt8.ofNat (b + 128)) = true := by
  unfold second3
  simp only [beq_iff_eq, ← UInt8.toNat_inj, UInt8.toNat_ofNat', UInt8.reduceToNat]
  split
  · simp only [within_iff, UInt8.toNat_ofNat', UInt8.reduceToNat]
    omega
  · split
    · simp only [within_iff, UInt8.toNat_ofNat', UInt8.reduceToNat]
      omega
    · exact trail_ofNat b_lt

/-- The second of four bytes keeps short forms and what is beyond the last character out. -/
private theorem second4_ofNat {a b : Nat} (a_lt : a < 5) (b_lt : b < 64) (long : a = 0 → 16 ≤ b)
    (valid : a = 4 → b < 16) :
    second4 (UInt8.ofNat (a + 240)) (UInt8.ofNat (b + 128)) = true := by
  unfold second4
  simp only [beq_iff_eq, ← UInt8.toNat_inj, UInt8.toNat_ofNat', UInt8.reduceToNat]
  split
  · simp only [within_iff, UInt8.toNat_ofNat', UInt8.reduceToNat]
    omega
  · split
    · simp only [within_iff, UInt8.toNat_ofNat', UInt8.reduceToNat]
      omega
    · exact trail_ofNat b_lt

private theorem not_ascii {n : Nat} (large : 128 ≤ n) (n_lt : n < 256) :
    ¬ UInt8.ofNat n < 0x80 := by
  rw [UInt8.lt_iff_toNat_lt]
  simp only [UInt8.toNat_ofNat', UInt8.reduceToNat]
  omega

private theorem step_one {n : Nat} (n_lt : n < 128) (rest : List UInt8) :
    step (UInt8.ofNat n) rest = ⟨Char.ofNat n, 1⟩ := by
  have ascii : UInt8.ofNat n < 0x80 := by
    rw [UInt8.lt_iff_toNat_lt]
    simp only [UInt8.toNat_ofNat', UInt8.reduceToNat]
    omega
  have lead_eq : (UInt8.ofNat n).toNat = n := by
    simp only [UInt8.toNat_ofNat']
    omega
  simp only [step, if_pos ascii, lead_eq]

private theorem step_two {a b : Nat} (two_le : 2 ≤ a) (a_lt : a < 32) (b_lt : b < 64)
    (rest : List UInt8) :
    step (UInt8.ofNat (a + 192)) (UInt8.ofNat (b + 128) :: rest) =
      ⟨Char.ofNat (a * 64 + b), 2⟩ := by
  have not_one : ¬ UInt8.ofNat (a + 192) < 0x80 := not_ascii (by omega) (by omega)
  have two : within 0xC2 0xDF (UInt8.ofNat (a + 192)) = true := by
    simp only [within_iff, UInt8.toNat_ofNat', UInt8.reduceToNat]
    omega
  have lead_eq : (UInt8.ofNat (a + 192)).toNat % 32 = a := by
    simp only [UInt8.toNat_ofNat']
    omega
  simp only [step, if_neg not_one, two, trail_ofNat b_lt, low_ofNat b_lt, lead_eq, if_true]

private theorem step_three {a b c : Nat} (a_lt : a < 16) (b_lt : b < 64) (c_lt : c < 64)
    (long : a = 0 → 32 ≤ b) (whole : a = 13 → b < 32) (rest : List UInt8) :
    step (UInt8.ofNat (a + 224)) (UInt8.ofNat (b + 128) :: UInt8.ofNat (c + 128) :: rest) =
      ⟨Char.ofNat (a * 4096 + b * 64 + c), 3⟩ := by
  have not_one : ¬ UInt8.ofNat (a + 224) < 0x80 := not_ascii (by omega) (by omega)
  have not_two : ¬ within 0xC2 0xDF (UInt8.ofNat (a + 224)) = true := by
    simp only [within_iff, UInt8.toNat_ofNat', UInt8.reduceToNat]
    omega
  have three : within 0xE0 0xEF (UInt8.ofNat (a + 224)) = true := by
    simp only [within_iff, UInt8.toNat_ofNat', UInt8.reduceToNat]
    omega
  have lead_eq : (UInt8.ofNat (a + 224)).toNat % 16 = a := by
    simp only [UInt8.toNat_ofNat']
    omega
  simp only [step, if_neg not_one, if_neg not_two, three, second3_ofNat a_lt b_lt long whole,
    trail_ofNat c_lt, low_ofNat b_lt, low_ofNat c_lt, lead_eq, if_true, Bool.not_true,
    Bool.false_eq_true, if_false]

private theorem step_four {a b c d : Nat} (a_lt : a < 5) (b_lt : b < 64) (c_lt : c < 64)
    (d_lt : d < 64) (long : a = 0 → 16 ≤ b) (valid : a = 4 → b < 16) (rest : List UInt8) :
    step (UInt8.ofNat (a + 240))
        (UInt8.ofNat (b + 128) :: UInt8.ofNat (c + 128) :: UInt8.ofNat (d + 128) :: rest) =
      ⟨Char.ofNat (a * 262144 + b * 4096 + c * 64 + d), 4⟩ := by
  have not_one : ¬ UInt8.ofNat (a + 240) < 0x80 := not_ascii (by omega) (by omega)
  have not_two : ¬ within 0xC2 0xDF (UInt8.ofNat (a + 240)) = true := by
    simp only [within_iff, UInt8.toNat_ofNat', UInt8.reduceToNat]
    omega
  have not_three : ¬ within 0xE0 0xEF (UInt8.ofNat (a + 240)) = true := by
    simp only [within_iff, UInt8.toNat_ofNat', UInt8.reduceToNat]
    omega
  have four : within 0xF0 0xF4 (UInt8.ofNat (a + 240)) = true := by
    simp only [within_iff, UInt8.toNat_ofNat', UInt8.reduceToNat]
    omega
  have lead_eq : (UInt8.ofNat (a + 240)).toNat % 8 = a := by
    simp only [UInt8.toNat_ofNat']
    omega
  simp only [step, if_neg not_one, if_neg not_two, if_neg not_three, four,
    second4_ofNat a_lt b_lt long valid, trail_ofNat c_lt, trail_ofNat d_lt, low_ofNat b_lt,
    low_ofNat c_lt, low_ofNat d_lt, lead_eq, if_true, Bool.not_true, Bool.false_eq_true, if_false]

/-- The bytes of a character are one step of reading. -/
theorem step_utf8EncodeChar (c : Char) (rest : List UInt8) :
    ∃ lead more, String.utf8EncodeChar c = lead :: more ∧
      step lead (more ++ rest) = ⟨c, more.length + 1⟩ := by
  have c_eq : c = Char.ofNat c.toNat := (Char.ofNat_toNat c).symm
  have valid : c.toNat < 0xD800 ∨ 0xDFFF < c.toNat ∧ c.toNat < 0x110000 := c.valid
  have toNat_eq : c.val.toNat = c.toNat := rfl
  simp only [String.utf8EncodeChar, toNat_eq]
  generalize c.toNat = n at c_eq valid
  split
  · refine ⟨_, [], rfl, ?_⟩
    rw [c_eq, List.nil_append, step_one (by omega), List.length_nil]
  · split
    · refine ⟨_, _, rfl, ?_⟩
      rw [List.cons_append, List.nil_append, step_two (by omega) (by omega) (by omega), c_eq]
      simp only [List.length_cons, List.length_nil, Step.mk.injEq, and_true]
      congr 1
      omega
    · split
      · refine ⟨_, _, rfl, ?_⟩
        simp only [List.cons_append, List.nil_append]
        rw [step_three (by omega) (by omega) (by omega) (by omega) (by omega), c_eq]
        simp only [List.length_cons, List.length_nil, Step.mk.injEq, and_true]
        congr 1
        omega
      · refine ⟨_, _, rfl, ?_⟩
        simp only [List.cons_append, List.nil_append]
        rw [step_four (by omega) (by omega) (by omega) (by omega) (by omega) (by omega), c_eq]
        simp only [List.length_cons, List.length_nil, Step.mk.injEq, and_true]
        congr 1
        omega

theorem decodeFrom_skip (skipped rest : List UInt8) :
    decodeFrom skipped.length (skipped ++ rest) = decodeFrom 0 rest := by
  induction skipped with
  | nil => rfl
  | cons b skipped ih => exact ih

theorem decode_utf8EncodeChar_append (c : Char) (rest : List UInt8) :
    decode (String.utf8EncodeChar c ++ rest) = c :: decode rest := by
  obtain ⟨lead, more, bytes_eq, step_eq⟩ := step_utf8EncodeChar c rest
  rw [decode, bytes_eq, List.cons_append, decodeFrom, step_eq]
  simp only [Nat.add_sub_cancel, decodeFrom_skip, decode]

/-- Every text is read back from its bytes. -/
theorem decode_bytes (cs : List Char) : decode (bytes cs) = cs := by
  induction cs with
  | nil => rfl
  | cons c cs ih =>
    have bytes_cons : bytes (c :: cs) = String.utf8EncodeChar c ++ bytes cs := List.flatMap_cons
    rw [bytes_cons, decode_utf8EncodeChar_append, ih]

example : decode [0x41, 0xC3, 0xA9, 0xFF] = ['A', 'é', '\ufffd'] := by decide
example : decode [0xE2, 0x82, 0x41] = ['\ufffd', 'A'] := by decide
example : decode? [0xED, 0xA0, 0x80] = none := by decide
example : front? 3 "aéb".toList = some ['a', 'é'] ∧ front? 2 "aéb".toList = none := by decide
example : decode? (bytes "é😀".toList) = some ['é', '😀'] := by decide

end Shakedown.Text.Utf8
