import Mathlib.Tactic.Lemma
import Shakedown.Calendar

/-!
What the text of a date or of a time of day tells.

A number is read back from its digits whatever zeros stand before them, and a year from its sign and
digits. The other fields have two digits each, so they are told apart from the end of the text: the
last mark and field, then the ones before them, and what is left is the year. A date ends in a
hyphen and its day, a time in a colon and its second.
-/

namespace Shakedown

namespace Calendar

/-- Zeros before a number do not change what its digits say. -/
lemma ofDigitChars_padded (width n : Nat) :
    Nat.ofDigitChars 10 (padded width n).toList 0 = n := by
  unfold padded
  rw [String.toList_ofList, List.leftpad, Nat.ofDigitChars_append, Nat.ofDigitChars_replicate_zero,
    Nat.mul_zero, Nat.ofDigitChars_ten_toDigits]

lemma eq_of_padded_eq {width m n : Nat} (same : (padded width m).toList = (padded width n).toList) :
    m = n := by
  have read_alike := congrArg (Nat.ofDigitChars 10 · 0) same
  simpa only [ofDigitChars_padded] using read_alike

lemma length_padded_two {n : Nat} (short : n < 100) : (padded 2 n).toList.length = 2 := by
  have digits_le : (Nat.toDigits 10 n).length ≤ 2 :=
    (Nat.length_toDigits_le_iff (by decide) (by decide)).mpr short
  unfold padded
  rw [String.toList_ofList, List.length_leftpad]
  omega

lemma isDigit_of_mem_padded {width n : Nat} {c : Char} (mem : c ∈ (padded width n).toList) :
    c.isDigit = true := by
  unfold padded at mem
  rw [String.toList_ofList, List.leftpad] at mem
  rcases List.mem_append.mp mem with filler | digit
  · obtain rfl := List.eq_of_mem_replicate filler
    rfl
  · exact Nat.isDigit_of_mem_toDigits (by decide) (by decide) digit

/-- A padded number does not begin with a sign. -/
lemma head?_padded_ne {c : Char} (sign : c.isDigit = false) (width n : Nat) :
    (padded width n).toList.head? ≠ some c := by
  intro first
  have digit := isDigit_of_mem_padded (List.mem_of_mem_head? first)
  rw [sign] at digit
  cases digit

/-- The year that a text of a year stands for. -/
def readYear (cs : List Char) : Int :=
  if cs.head? = some '-' then -(Nat.ofDigitChars 10 cs.tail 0 : Int)
  else if cs.head? = some '+' then Nat.ofDigitChars 10 cs.tail 0
  else Nat.ofDigitChars 10 cs 0

lemma readYear_yearText (year : Int) : readYear (yearText year).toList = year := by
  have digits_eq := ofDigitChars_padded 4 year.natAbs
  unfold yearText
  rw [String.toList_append]
  by_cases before : year < 0
  · have minus : readYear ("-".toList ++ (padded 4 year.natAbs).toList) = -(year.natAbs : Int) := by
      simp [readYear, digits_eq]
    rw [if_pos before, minus]
    omega
  · by_cases late : 9999 < year
    · have plus : readYear ("+".toList ++ (padded 4 year.natAbs).toList) = year.natAbs := by
        simp [readYear, digits_eq]
      rw [if_neg before, if_pos late, plus]
      omega
    · have plain : readYear ("".toList ++ (padded 4 year.natAbs).toList) = year.natAbs := by
        rw [String.toList_empty, List.nil_append, readYear, if_neg (head?_padded_ne rfl 4 _),
          if_neg (head?_padded_ne rfl 4 _), digits_eq]
      rw [if_neg before, if_neg late, plain]
      omega

lemma eq_of_yearText_eq {y z : Int} (same : yearText y = yearText z) : y = z := by
  have read_alike := congrArg (fun s => readYear s.toList) same
  simpa only [readYear_yearText] using read_alike

/-- A field of two digits at the end of a text, the mark before it and the text before that are
told by the whole. -/
lemma append_padded_inj {front front' mark mark' : String} {m n : Nat}
    (marks : mark.toList.length = mark'.toList.length) (m_short : m < 100) (n_short : n < 100)
    (same : front ++ mark ++ padded 2 m = front' ++ mark' ++ padded 2 n) :
    front = front' ∧ mark = mark' ∧ m = n := by
  have lists := congrArg String.toList same
  rw [String.toList_append, String.toList_append, String.toList_append, String.toList_append]
    at lists
  have widths : (padded 2 m).toList.length = (padded 2 n).toList.length := by
    rw [length_padded_two m_short, length_padded_two n_short]
  obtain ⟨before, digits⟩ := List.append_inj' lists widths
  obtain ⟨fronts, marks_eq⟩ := List.append_inj' before marks
  exact ⟨String.toList_inj.mp fronts, String.toList_inj.mp marks_eq, eq_of_padded_eq digits⟩

lemma daysInMonth_le (year : Int) (month : Nat) : daysInMonth year month ≤ 31 := by
  unfold daysInMonth
  split
  · split <;> omega
  · split <;> omega

end Calendar

open Calendar

namespace Date
variable {d e : Date}

lemma day_lt (d : Date) : d.day < 100 := by
  have := d.day_range.2
  have := daysInMonth_le d.year d.month
  omega

lemma month_lt (d : Date) : d.month < 100 := by
  have := d.month_range.2
  omega

lemma eq_of_text_eq (same : d.text = e.text) : d = e := by
  obtain ⟨to_month, _, day_eq⟩ := append_padded_inj rfl d.day_lt e.day_lt same
  obtain ⟨years, _, month_eq⟩ := append_padded_inj rfl d.month_lt e.month_lt to_month
  have year_eq := eq_of_yearText_eq years
  obtain ⟨year, month, day, _, _, _⟩ := d
  obtain ⟨year', month', day', _, _, _⟩ := e
  obtain rfl : year = year' := year_eq
  obtain rfl : month = month' := month_eq
  obtain rfl : day = day' := day_eq
  rfl

end Date

namespace DateTime
variable {t u : DateTime}

/-- Times that are the same but for fractions of a second. A leap second is a second of its own. -/
structure SameToTheSecond (t u : DateTime) : Prop where
  year_eq : t.date.year = u.date.year
  month_eq : t.date.month = u.date.month
  day_eq : t.date.day = u.date.day
  hour_eq : t.hour = u.hour
  minute_eq : t.minute = u.minute
  second_eq : t.shownSecond = u.shownSecond

/-- A leap second is shown as one more than the second it follows. -/
lemma shownSecond_eq (t : DateTime) :
    t.shownSecond = if t.nanosecond < 1000000000 then t.second else t.second + 1 := by
  have := t.nanosecond_range
  unfold shownSecond
  split <;> omega

/-- After the last second of a minute that is second 60. -/
lemma shownSecond_of_last (last : t.second = 59) (leap : 1000000000 ≤ t.nanosecond) :
    t.shownSecond = 60 := by
  rw [shownSecond_eq, if_neg (by omega), last]

lemma shownSecond_lt (t : DateTime) : t.shownSecond < 100 := by
  have := t.second_range
  rw [shownSecond_eq]
  split <;> omega

lemma text_eq_iff : t.text = u.text ↔ t.SameToTheSecond u := by
  constructor
  · intro same
    have t_hour := t.hour_range
    have u_hour := u.hour_range
    have t_minute := t.minute_range
    have u_minute := u.minute_range
    obtain ⟨to_minute, _, second_eq⟩ :=
      append_padded_inj rfl t.shownSecond_lt u.shownSecond_lt same
    obtain ⟨to_hour, _, minute_eq⟩ := append_padded_inj rfl (by omega) (by omega) to_minute
    obtain ⟨dates, _, hour_eq⟩ := append_padded_inj rfl (by omega) (by omega) to_hour
    have date_eq := Date.eq_of_text_eq dates
    exact {
      year_eq := congrArg Date.year date_eq
      month_eq := congrArg Date.month date_eq
      day_eq := congrArg Date.day date_eq
      hour_eq, minute_eq, second_eq }
  · intro same
    unfold text Date.text
    rw [same.year_eq, same.month_eq, same.day_eq, same.hour_eq, same.minute_eq, same.second_eq]

/-- Before its last field a date has a hyphen and a time a colon. -/
lemma date_text_ne_text (d : Date) (t : DateTime) : d.text ≠ t.text := by
  intro same
  obtain ⟨_, marks, _⟩ := append_padded_inj (by decide) d.day_lt t.shownSecond_lt same
  exact absurd marks (by decide)

end DateTime
end Shakedown
