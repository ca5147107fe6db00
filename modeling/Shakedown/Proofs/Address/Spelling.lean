import Shakedown.Proofs.Address
import Shakedown.Proofs.Address.Lead

/-!
Spellings of a host.

White space around a host and the letter case of its scheme say nothing, and a host without a scheme
stands for the same one over HTTPS. Whether there is a scheme is seen in the first bytes, and a lead
takes as many bytes in every letter case, so no other character is cut in two by looking there.
-/

namespace Shakedown

namespace Text

/-- White space only, or nothing. -/
def Blank (s : String) : Prop := ∀ c ∈ s.toList, isBlank c = true

instance (s : String) : Decidable (Blank s) :=
  decidable_of_iff (s.toList.all isBlank = true) List.all_eq_true

lemma toLower_of_isBlank {c : Char} (blank : isBlank c = true) : c.toLower = c := by
  have no_capital : ¬ (65 ≤ c.toNat ∧ c.toNat ≤ 90) := by
    simp only [isBlank, Bool.or_eq_true, Bool.and_eq_true, decide_eq_true_eq, beq_iff_eq] at blank
    omega
  unfold Char.toLower
  exact dif_neg no_capital

variable {cs rest : List Char}

lemma trimStart_blank_append {s : String} (blank : Blank s) (cs : List Char) :
    trimStart (s.toList ++ cs) = trimStart cs :=
  List.dropWhile_append_of_pos blank

/-- A text without white space stays in front of one whose end is trimmed. -/
lemma trimEnd_append (solid : ∀ c ∈ cs, isBlank c = false) :
    trimEnd (cs ++ rest) = cs ++ trimEnd rest :=
  Url.rdropWhile_append_of_neg solid rest

lemma trimEnd_append_blank {s : String} (blank : Blank s) (cs : List Char) :
    trimEnd (cs ++ s.toList) = trimEnd cs := by
  have reversed : ∀ c ∈ s.toList.reverse, isBlank c = true := by
    intro c mem
    exact blank c (List.mem_reverse.mp mem)
  rw [trimEnd, List.reverse_append, List.dropWhile_append_of_pos reversed, trimEnd]

lemma trim_append_blank {s : String} (blank : Blank s) (cs : List Char) :
    trim (cs ++ s.toList) = trim cs := by
  have start_eq : trimStart (cs ++ s.toList) =
      if (trimStart cs).isEmpty then trimStart s.toList else trimStart cs ++ s.toList :=
    List.dropWhile_append
  have nothing : trimStart s.toList = [] := by
    have := trimStart_blank_append blank []
    rwa [List.append_nil] at this
  rw [trim, start_eq, trim]
  split
  · next empty => rw [nothing, List.isEmpty_iff.mp empty]
  · rw [trimEnd_append_blank blank]

/-- White space around a text is trimmed. -/
lemma trim_surrounded {before after : String} (before_blank : Blank before)
    (after_blank : Blank after) (cs : List Char) :
    trim (before.toList ++ (cs ++ after.toList)) = trim cs := by
  have start_eq := trimStart_blank_append before_blank (cs ++ after.toList)
  rw [trim, start_eq, ← trim, trim_append_blank after_blank]

lemma trimEnd_idempotent (cs : List Char) : trimEnd (trimEnd cs) = trimEnd cs := by
  rw [trimEnd, trimEnd, List.reverse_reverse, List.dropWhile_idempotent]

lemma trimStart_append (present : cs ≠ []) (solid : ∀ c ∈ cs, isBlank c = false) :
    trimStart (cs ++ rest) = cs ++ rest := by
  obtain ⟨c, tail, rfl⟩ := List.exists_cons_of_ne_nil present
  exact List.dropWhile_cons_of_neg (by simp [solid c])

/-- A text that starts with something else than white space loses it only at the end. -/
lemma trim_append_solid (present : cs ≠ []) (solid : ∀ c ∈ cs, isBlank c = false) :
    trim (cs ++ rest) = cs ++ trimEnd rest := by
  rw [trim, trimStart_append present solid, trimEnd_append solid]

lemma trimStart_trim (text : List Char) : trimStart (trim text) = trim text := by
  have stops := List.head?_dropWhile_not isBlank text
  rw [← trimStart] at stops
  rw [trim]
  cases start_eq : trimStart text with
  | nil => rfl
  | cons c tail =>
    rw [start_eq] at stops
    have solid : isBlank c = false := by simpa using stops
    have end_eq : trimEnd (c :: tail) = c :: trimEnd tail := Url.rdropWhile_cons_of_neg solid tail
    rw [end_eq, trimStart, List.dropWhile_cons_of_neg (by simp [solid])]

end Text

namespace Address

open Text

lemma SpellsLead.solid {secure : Bool} {s : String} (spells : SpellsLead secure s) :
    ∀ c ∈ s.toList, isBlank c = false := by
  intro c mem
  have lower_mem : c.toLower ∈ (lead secure).toList := by
    rw [← spellsLead_iff.mp spells]
    exact List.mem_map_of_mem mem
  have lead_solid : (lead secure).toList.all (!isBlank ·) = true := by
    cases secure <;> decide
  cases blank : isBlank c with
  | false => rfl
  | true =>
    have stays := List.all_eq_true.mp lead_solid c.toLower lower_mem
    rw [toLower_of_isBlank blank, blank] at stays
    cases stays

/-- A host has a scheme when a front of it, cut after as many bytes as a lead takes, spells it. -/
lemma hasWebScheme_iff_trimStart {host : String} : hasWebScheme host = true ↔
    ∃ secure s rest, SpellsLead secure s ∧ trimStart host.toList = s.toList ++ rest := by
  rw [hasWebScheme, List.any_eq_true]
  constructor
  · rintro ⟨word, mem, spelled⟩
    obtain ⟨front, found, same⟩ := (Option.any_eq_true _ _).mp spelled
    obtain ⟨rest, start_eq, _⟩ := Utf8.front?_eq_some_iff.mp found
    obtain ⟨secure, rfl⟩ : ∃ secure, word = lead secure := by
      rcases List.mem_pair.mp mem with rfl | rfl
      · exact ⟨false, rfl⟩
      · exact ⟨true, rfl⟩
    refine ⟨secure, String.ofList front, rest, ?_, by rw [String.toList_ofList, start_eq]⟩
    rw [spellsLead_iff, String.toList_ofList]
    exact spells_iff.mp same
  · rintro ⟨secure, s, rest, spelled, start_eq⟩
    have mem : lead secure ∈ leads := by cases secure <;> decide
    have found : Utf8.front? (lead secure).utf8ByteSize (trimStart host.toList) = some s.toList :=
      Utf8.front?_eq_some_iff.mpr ⟨rest, start_eq, spelled.length_bytes⟩
    refine ⟨lead secure, mem, ?_⟩
    rw [found, Option.any_some]
    exact spells_iff.mpr (spellsLead_iff.mp spelled)

/-- A host has a scheme when it opens with the lead of a web address, white space aside. -/
lemma hasWebScheme_iff {host : String} : hasWebScheme host = true ↔
    ∃ blanks s rest secure, Blank blanks ∧ SpellsLead secure s ∧ host = blanks ++ s ++ rest := by
  rw [hasWebScheme_iff_trimStart]
  constructor
  · rintro ⟨secure, s, rest, spells, start_eq⟩
    refine ⟨String.ofList (host.toList.takeWhile isBlank), s, String.ofList rest, secure, ?_,
      spells, ?_⟩
    · intro c mem
      rw [String.toList_ofList] at mem
      exact List.mem_takeWhile_imp mem
    · rw [← String.toList_inj, String.toList_append, String.toList_append, String.toList_ofList,
        String.toList_ofList, List.append_assoc, ← start_eq, trimStart,
        List.takeWhile_append_dropWhile]
  · rintro ⟨blanks, s, rest, secure, blank, spells, rfl⟩
    refine ⟨secure, s, rest.toList, spells, ?_⟩
    rw [String.toList_append, String.toList_append, List.append_assoc, trimStart_blank_append blank,
      trimStart_append spells.ne_nil spells.solid]

/-- Trimming the end takes nothing from the lead of a host. -/
lemma hasWebScheme_trimmed (host : String) : hasWebScheme (trimmed host) = hasWebScheme host := by
  rw [Bool.eq_iff_iff, hasWebScheme_iff_trimStart, hasWebScheme_iff_trimStart, trimmed,
    String.toList_ofList, trimStart_trim]
  constructor
  · rintro ⟨secure, s, rest, spells, trim_eq⟩
    -- what is left of the host after trimming is a front of it, and the lead a front of that
    obtain ⟨cut, start_eq⟩ : trim host.toList <+: trimStart host.toList :=
      List.rdropWhile_prefix isBlank _
    exact ⟨secure, s, rest ++ cut, spells, by rw [← start_eq, trim_eq, List.append_assoc]⟩
  · rintro ⟨secure, s, rest, spells, start_eq⟩
    refine ⟨secure, s, trimEnd rest, spells, ?_⟩
    rw [trim, start_eq, trimEnd_append spells.solid]

lemma hasWebScheme_of_spelled {s rest : String} {secure : Bool} (spells : SpellsLead secure s) :
    hasWebScheme (s ++ rest) = true := by
  refine hasWebScheme_iff_trimStart.mpr ⟨secure, s, rest.toList, spells, ?_⟩
  rw [String.toList_append, trimStart_append spells.ne_nil spells.solid]

lemma addressText_of_spelled {host s rest : String} {secure : Bool} (spells : SpellsLead secure s)
    (trimmed_eq : trimmed host = s ++ rest) : addressText host = s ++ rest := by
  rw [addressText, trimmed_eq, if_pos (hasWebScheme_of_spelled spells)]

lemma addressText_of_bare {host : String} (bare : hasWebScheme host = false) :
    addressText host = lead true ++ trimmed host := by
  rw [addressText, hasWebScheme_trimmed, if_neg (by simp [bare])]
  rfl

lemma exists_trimmed_of_hasWebScheme {host : String} (opens : hasWebScheme host = true) :
    ∃ secure s rest, SpellsLead secure s ∧ trimmed host = s ++ rest := by
  rw [← hasWebScheme_trimmed, hasWebScheme_iff_trimStart, trimmed, String.toList_ofList,
    trimStart_trim] at opens
  obtain ⟨secure, s, rest, spells, trim_eq⟩ := opens
  refine ⟨secure, s, String.ofList rest, spells, ?_⟩
  rw [trimmed, trim_eq, String.ofList_append, String.ofList_toList]

lemma trimmed_surrounded {before host after : String} (before_blank : Blank before)
    (after_blank : Blank after) : trimmed (before ++ host ++ after) = trimmed host := by
  rw [trimmed, String.toList_append, String.toList_append, List.append_assoc,
    trim_surrounded before_blank after_blank, trimmed]

lemma trimmed_of_spelled {s : String} {secure : Bool} (spells : SpellsLead secure s)
    (rest : String) : trimmed (s ++ rest) = s ++ String.ofList (trimEnd rest.toList) := by
  rw [trimmed, String.toList_append, trim_append_solid spells.ne_nil spells.solid,
    String.ofList_append, String.ofList_toList]

lemma base_of_spelled {before s rest after : String} {secure : Bool} (before_blank : Blank before)
    (after_blank : Blank after) (spells : SpellsLead secure s) :
    base (before ++ s ++ rest ++ after) =
      Url.Base.read secure (cleanRest (trimEnd rest.toList)) := by
  have whole : before ++ s ++ rest ++ after = before ++ (s ++ rest) ++ after := by
    simp only [String.append_assoc]
  have trimmed_eq : trimmed (before ++ s ++ rest ++ after) =
      s ++ String.ofList (trimEnd rest.toList) := by
    rw [whole, trimmed_surrounded before_blank after_blank, trimmed_of_spelled spells]
  rw [base_of_addressText spells (addressText_of_spelled spells trimmed_eq), String.toList_ofList]

lemma base_of_lead {s : String} {secure : Bool} (spells : SpellsLead secure s) (rest : String) :
    base (s ++ rest) = Url.Base.read secure (cleanRest (trimEnd rest.toList)) := by
  have none : Blank "" := nofun
  have surrounded : base ("" ++ s ++ rest ++ "") =
      Url.Base.read secure (cleanRest (trimEnd rest.toList)) := base_of_spelled none none spells
  rwa [String.empty_append, String.append_empty] at surrounded

/-- A slash behind the host keeps everything in front of it. -/
lemma base_of_lead_slash {s : String} {secure : Bool} (spells : SpellsLead secure s)
    (rest : String) : base (s ++ rest ++ "/") =
      Url.Base.read secure
        ((rest.toList.filter Url.stays ++ ['/']).dropWhile (Url.isSlash .web)) := by
  have rest_eq : (rest ++ "/").toList = rest.toList ++ ['/'] := String.toList_append
  have trim_eq : trimEnd (rest.toList ++ ['/']) = rest.toList ++ ['/'] :=
    List.rdropWhile_concat_neg _ _ _ (by decide)
  have drop_eq : (rest.toList ++ ['/']).rdropWhile Url.isControlOrBlank = rest.toList ++ ['/'] :=
    List.rdropWhile_concat_neg _ _ _ (by decide)
  rw [String.append_assoc, base_of_lead spells, rest_eq, trim_eq, cleanRest, drop_eq,
    List.filter_append]
  rfl

/-- A host without a scheme is read as the same text behind the secure lead. -/
lemma base_of_schemeless {before host after : String} (before_blank : Blank before)
    (after_blank : Blank after) (bare : hasWebScheme host = false) :
    base (before ++ host ++ after) = base (lead true ++ trimmed host) := by
  have trimmed_eq : trimmed (before ++ host ++ after) = trimmed host :=
    trimmed_surrounded before_blank after_blank
  have still_bare : hasWebScheme (before ++ host ++ after) = false := by
    rw [← hasWebScheme_trimmed, trimmed_eq, hasWebScheme_trimmed, bare]
  have trimmed_whole : trimmed (lead true ++ trimmed host) = lead true ++ trimmed host := by
    rw [trimmed_of_spelled (spellsLead_lead true), trimmed, String.toList_ofList, trim,
      trimEnd_idempotent]
  have text_eq :
      addressText (before ++ host ++ after) = addressText (lead true ++ trimmed host) := by
    rw [addressText_of_bare still_bare, trimmed_eq,
      addressText_of_spelled (spellsLead_lead true) trimmed_whole]
  rw [base, base, text_eq]

/-- Two hosts answer a reference with the same address, or fail for the same reason. -/
def AnswerAlike (reference host other : String) : Prop :=
  (∃ u, resolve host reference = .ok u ∧ resolve other reference = .ok u) ∨
    ∃ reason, resolve host reference = .error (.invalidUrl host reference reason) ∧
      resolve other reference = .error (.invalidUrl other reference reason)

lemma answerAlike_of_base_eq {host other : String} (same : base host = base other)
    (reference : String) : AnswerAlike reference host other := by
  have url_eq : url host reference = url other reference := by rw [url, url, same]
  unfold AnswerAlike resolve
  rw [← url_eq]
  cases url host reference with
  | ok u => exact .inl ⟨u, rfl, rfl⟩
  | error problem => exact .inr ⟨problem.message, rfl, rfl⟩

/-- A host has a scheme just when it spells one after its white space; neither white space nor the
letter case of the scheme makes a difference, and without a scheme HTTPS is meant. -/
theorem host_spellings_answer_alike :
    (∀ host, hasWebScheme host = true ↔ ∃ blanks s rest secure,
      Blank blanks ∧ SpellsLead secure s ∧ host = blanks ++ s ++ rest) ∧
    (∀ reference before s rest after secure, Blank before → Blank after → SpellsLead secure s →
      AnswerAlike reference (before ++ s ++ rest ++ after) (s.toLower ++ rest)) ∧
    (∀ reference before host after, Blank before → Blank after → hasWebScheme host = false →
      AnswerAlike reference (before ++ host ++ after) ("https://" ++ trimmed host)) := by
  refine ⟨?_, ?_, ?_⟩
  · intro host
    exact hasWebScheme_iff
  · intro reference before s rest after secure before_blank after_blank spells
    apply answerAlike_of_base_eq
    have lower_eq : s.toLower = lead secure := spells
    rw [base_of_spelled before_blank after_blank spells, lower_eq,
      base_of_lead (spellsLead_lead secure)]
  · intro reference before host after before_blank after_blank bare
    apply answerAlike_of_base_eq
    exact base_of_schemeless before_blank after_blank bare

/-- A scheme in capitals, a host typed without one, and white space around both. -/
theorem host_spellings_answer_alike_typed :
    (Blank "\t" ∧ Blank "\u2003\n" ∧ SpellsLead false "HttP://" ∧
      AnswerAlike "/status" ("\t" ++ "HttP://" ++ "wds.test:80/x" ++ "\u2003\n")
        ("HttP://".toLower ++ "wds.test:80/x")) ∧
    (hasWebScheme "wds.test " = false ∧
      AnswerAlike "/status" ("\t" ++ "wds.test " ++ "\u2003\n")
        ("https://" ++ trimmed "wds.test ")) := by
  have before_blank : Blank "\t" := by decide
  have after_blank : Blank "\u2003\n" := by decide
  have spells : SpellsLead false "HttP://" := by decide
  have bare : hasWebScheme "wds.test " = false := by decide
  obtain ⟨_, spelled_alike, schemeless_alike⟩ := host_spellings_answer_alike
  exact ⟨⟨before_blank, after_blank, spells, spelled_alike "/status" "\t" "HttP://" "wds.test:80/x"
    "\u2003\n" false before_blank after_blank spells⟩, bare,
    schemeless_alike "/status" "\t" "wds.test " "\u2003\n" before_blank after_blank bare⟩

end Address
end Shakedown
