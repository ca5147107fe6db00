import Shakedown.Proofs.Text.Percent
import Shakedown.Text.Form

/-!
What a form-encoded query says once a pair is added to it.

Nothing in a name or a value is taken for a separator, and each is read back as it was, whatever
text it is. So a query with one more pair is read as the pairs it had, followed by that one.
-/

namespace Shakedown.Text.Form

/-- A plus sign stands for a blank. -/
def blankOfPlus (c : Char) : Char := if c = '+' then ' ' else c

lemma decodeText_eq (cs : List Char) :
    decodeText cs = Utf8.decode (Percent.decode (cs.map blankOfPlus)) := rfl

lemma encode_blank (cs : List Char) : encode (' ' :: cs) = '+' :: encode cs := rfl

lemma encode_cons {c : Char} (solid : c ≠ ' ') (cs : List Char) :
    encode (c :: cs) = Percent.encodeChar keeps c ++ encode cs := by
  rw [encode]
  rintro rfl
  contradiction

lemma keeps_hexDigit {n : Nat} (small : n < 16) : keeps (Percent.hexDigit n) = true := by
  have all : ∀ m ∈ List.range 16, keeps (Percent.hexDigit m) = true := by decide
  exact all n (List.mem_range.mpr small)

lemma mem_encodeChar {c d : Char} (written : d ∈ Percent.encodeChar keeps c) :
    d = '%' ∨ keeps d = true := by
  rcases Percent.mem_encodeChar written with percent | ⟨n, small, rfl⟩ | ⟨rfl, kept⟩
  · exact .inl percent
  · exact .inr (keeps_hexDigit small)
  · exact .inr kept

lemma mem_encode {cs : List Char} {d : Char} (written : d ∈ encode cs) :
    d = '+' ∨ d = '%' ∨ keeps d = true := by
  induction cs with
  | nil => cases written
  | cons c cs ih =>
    by_cases blank : c = ' '
    · rw [blank, encode_blank, List.mem_cons] at written
      exact written.imp_right ih |>.elim .inl id
    · rw [encode_cons blank, List.mem_append] at written
      rcases written with written | written
      · exact .inr (mem_encodeChar written)
      · exact ih written

/-- No separator stands in encoded text. -/
lemma notMem_encode {d : Char} (separates : d = '&' ∨ d = '=') (cs : List Char) :
    d ∉ encode cs := by
  intro written
  have impossible : ¬ (d = '+' ∨ d = '%' ∨ keeps d = true) := by
    rcases separates with rfl | rfl <;> decide
  exact impossible (mem_encode written)

/-- No plus sign stands in what is written for one character. -/
lemma map_blankOfPlus_encodeChar (c : Char) :
    (Percent.encodeChar keeps c).map blankOfPlus = Percent.encodeChar keeps c := by
  refine (List.map_congr_left fun d written => ?_).trans (List.map_id _)
  have no_plus : d ≠ '+' := by
    rintro rfl
    exact absurd (mem_encodeChar written) (by decide)
  exact if_neg no_plus

lemma decode_encode (cs : List Char) :
    Percent.decode ((encode cs).map blankOfPlus) = Utf8.bytes cs := by
  induction cs with
  | nil => rfl
  | cons c cs ih =>
    by_cases blank : c = ' '
    · rw [blank, encode_blank, List.map_cons, Utf8.bytes_cons, ← ih]
      exact Percent.decode_cons (by decide) _
    · have told : keeps c = true → c ≠ '%' := by
        rintro kept rfl
        exact absurd kept (by decide)
      rw [encode_cons blank, List.map_append, map_blankOfPlus_encodeChar,
        Percent.decode_encodeChar told, ih, Utf8.bytes_cons]

/-- Every text is read back from its encoding. -/
lemma decodeText_encode (cs : List Char) : decodeText (encode cs) = cs := by
  rw [decodeText_eq, decode_encode, Utf8.decode_bytes]

/-- The first equals sign of a pair ends its name. -/
lemma decodePair_encode (name value : List Char) :
    decodePair (encode name ++ '=' :: encode value) = (name, value) := by
  have in_name : ∀ c ∈ encode name, decide (c ≠ '=') = true := by
    intro c written
    refine decide_eq_true ?_
    rintro rfl
    exact notMem_encode (.inr rfl) name written
  have name_eq : (encode name ++ '=' :: encode value).takeWhile (· ≠ '=') = encode name := by
    rw [List.takeWhile_append_of_pos in_name, List.takeWhile_cons_of_neg (by decide),
      List.append_nil]
  have value_eq : (encode name ++ '=' :: encode value).dropWhile (· ≠ '=') =
      '=' :: encode value := by
    rw [List.dropWhile_append_of_pos in_name, List.dropWhile_cons_of_neg (by decide)]
  rw [decodePair, name_eq, value_eq, List.drop_one, List.tail_cons, decodeText_encode,
    decodeText_encode]

lemma decode_nil : decode [] = [] := rfl

/-- An ampersand divides the pairs of a query. -/
lemma decode_append_cons (front back : List Char) :
    decode (front ++ '&' :: back) = decode front ++ decode back := by
  rw [decode, splitBy_append_cons (by decide), List.filter_append, List.map_append, decode, decode]

/-- What is encoded as a pair is read as that one pair. -/
lemma decode_pair (name value : List Char) :
    decode (encode name ++ '=' :: encode value) = [(name, value)] := by
  have whole : ∀ c ∈ encode name ++ '=' :: encode value, (c == '&') = false := by
    intro c mem
    refine beq_false_of_ne ?_
    rintro rfl
    rw [List.mem_append, List.mem_cons] at mem
    rcases mem with written | equal | written
    · exact notMem_encode (.inl rfl) name written
    · exact absurd equal (by decide)
    · exact notMem_encode (.inl rfl) value written
  rw [decode, splitBy_of_forall_neg whole, List.filter_cons_of_pos (by simp), List.filter_nil,
    List.map_singleton, decodePair_encode]

/-- A query with one more pair is read as its own pairs and that one behind them. -/
lemma decode_append (query name value : List Char) :
    decode (append query name value) = decode query ++ [(name, value)] := by
  by_cases empty : query = []
  · rw [append, if_pos empty, List.nil_append, decode_pair, empty, decode_nil, List.nil_append]
  · rw [append, if_neg empty, List.append_assoc, List.append_assoc, List.singleton_append,
      decode_append_cons, decode_pair]

end Shakedown.Text.Form
