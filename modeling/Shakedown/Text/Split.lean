/-!
Cutting a text at separators and putting pieces together with one between every two.
-/

namespace Shakedown.Text

/-- The pieces between separators: one more than there are separators. -/
def splitBy (isSeparator : Char → Bool) : List Char → List (List Char)
  | [] => [[]]
  | c :: cs =>
    if isSeparator c then [] :: splitBy isSeparator cs
    else match splitBy isSeparator cs with
      | [] => [[c]]
      | piece :: rest => (c :: piece) :: rest

theorem splitBy_ne_nil (isSeparator : Char → Bool) (cs : List Char) :
    splitBy isSeparator cs ≠ [] := by
  cases cs with
  | nil => simp [splitBy]
  | cons c cs => unfold splitBy; split <;> (try split) <;> simp

variable {isSeparator : Char → Bool}

theorem splitBy_cons_of_pos {c : Char} (separates : isSeparator c = true) (cs : List Char) :
    splitBy isSeparator (c :: cs) = [] :: splitBy isSeparator cs := by
  rw [splitBy, if_pos separates]

theorem splitBy_cons_of_neg {c : Char} {cs piece : List Char} {rest : List (List Char)}
    (stays : isSeparator c = false) (split : splitBy isSeparator cs = piece :: rest) :
    splitBy isSeparator (c :: cs) = (c :: piece) :: rest := by
  simp only [splitBy, stays, split, Bool.false_eq_true, if_false]

theorem splitBy_append_cons {c : Char} (separates : isSeparator c = true) (front back : List Char) :
    splitBy isSeparator (front ++ c :: back) =
      splitBy isSeparator front ++ splitBy isSeparator back := by
  induction front with
  | nil => exact splitBy_cons_of_pos separates back
  | cons d front ih =>
    cases found : isSeparator d with
    | true => rw [List.cons_append, splitBy_cons_of_pos found, splitBy_cons_of_pos found, ih,
        List.cons_append]
    | false =>
      obtain ⟨piece, rest, split⟩ := List.exists_cons_of_ne_nil (splitBy_ne_nil isSeparator front)
      rw [split, List.cons_append] at ih
      rw [List.cons_append, splitBy_cons_of_neg found ih, splitBy_cons_of_neg found split,
        List.cons_append]

theorem splitBy_of_forall_neg {cs : List Char} (whole : ∀ c ∈ cs, isSeparator c = false) :
    splitBy isSeparator cs = [cs] := by
  induction cs with
  | nil => rfl
  | cons c cs ih =>
    obtain ⟨stays, whole⟩ := List.forall_mem_cons.mp whole
    exact splitBy_cons_of_neg stays (ih whole)

/-- No separator stands in a piece. -/
theorem neg_of_mem_splitBy {cs piece : List Char} (cut : piece ∈ splitBy isSeparator cs) :
    ∀ c ∈ piece, isSeparator c = false := by
  induction cs generalizing piece with
  | nil =>
    obtain rfl := List.mem_singleton.mp cut
    exact List.forall_mem_nil _
  | cons d cs ih =>
    cases found : isSeparator d with
    | true =>
      rw [splitBy_cons_of_pos found, List.mem_cons] at cut
      rcases cut with rfl | cut
      · exact List.forall_mem_nil _
      · exact ih cut
    | false =>
      obtain ⟨first, rest, split⟩ := List.exists_cons_of_ne_nil (splitBy_ne_nil isSeparator cs)
      rw [splitBy_cons_of_neg found split, List.mem_cons] at cut
      rw [split] at ih
      rcases cut with rfl | cut
      · exact List.forall_mem_cons.mpr ⟨found, ih List.mem_cons_self⟩
      · exact ih (List.mem_cons_of_mem _ cut)

/-- A piece holds nothing that did not stand in the text. -/
theorem mem_of_mem_splitBy {cs piece : List Char} (cut : piece ∈ splitBy isSeparator cs) {c : Char}
    (mem : c ∈ piece) : c ∈ cs := by
  induction cs generalizing piece with
  | nil =>
    obtain rfl := List.mem_singleton.mp cut
    cases mem
  | cons d cs ih =>
    cases found : isSeparator d with
    | true =>
      rw [splitBy_cons_of_pos found, List.mem_cons] at cut
      rcases cut with rfl | cut
      · cases mem
      · exact List.mem_cons_of_mem d (ih cut mem)
    | false =>
      obtain ⟨first, rest, split⟩ := List.exists_cons_of_ne_nil (splitBy_ne_nil isSeparator cs)
      rw [splitBy_cons_of_neg found split, List.mem_cons] at cut
      rw [split] at ih
      rcases cut with rfl | cut
      · rcases List.mem_cons.mp mem with rfl | mem
        · exact List.mem_cons_self
        · exact List.mem_cons_of_mem d (ih List.mem_cons_self mem)
      · exact List.mem_cons_of_mem d (ih (List.mem_cons_of_mem first cut) mem)

/-- The pieces with `between` after every one but the last. -/
def joinWith (between : String) : List String → String
  | [] => ""
  | [piece] => piece
  | piece :: rest => piece ++ between ++ joinWith between rest

example : splitBy (· == '/') "a//b".toList = [['a'], [], ['b']] := by decide
example : joinWith ", " ["a", "b"] = "a, b" := by decide

end Shakedown.Text
