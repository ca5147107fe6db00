import Shakedown.Proofs.Address.Spelling

/-!
What a reference from the root of a host leads to.

It is there whenever the root itself is, and asks the same authority over the same scheme. The host
gives these and nothing else: path, query and fragment are read off the reference alone, and there
is a query just when the reference asks one before its fragment.
-/

namespace Shakedown

namespace Url

/-- A question mark stands in the text, and no hash before it. -/
def AsksQuery (cs : List Char) : Prop := ∃ before after, cs = before ++ '?' :: after ∧ '#' ∉ before

variable {cs : List Char}

lemma not_asksQuery_nil : ¬ AsksQuery [] := by
  rintro ⟨before, after, split, _⟩
  cases before <;> cases split

lemma asksQuery_cons_iff {c : Char} :
    AsksQuery (c :: cs) ↔ c = '?' ∨ c ≠ '#' ∧ AsksQuery cs := by
  constructor
  · rintro ⟨before, after, split, no_hash⟩
    cases before with
    | nil =>
      left
      exact (List.cons.inj split).1
    | cons first before =>
      obtain ⟨rfl, rest_eq⟩ := List.cons.inj split
      rw [List.mem_cons, not_or] at no_hash
      exact .inr ⟨fun hash => no_hash.1 hash.symm, before, after, rest_eq, no_hash.2⟩
  · rintro (rfl | ⟨no_hash, before, after, rfl, none_before⟩)
    · exact ⟨[], cs, rfl, List.not_mem_nil⟩
    · refine ⟨c :: before, after, rfl, ?_⟩
      rw [List.mem_cons, not_or]
      exact ⟨fun hash => no_hash hash.symm, none_before⟩

lemma asksQuery_cons_of_plain {c : Char} (plain : endsPath c = false) :
    AsksQuery (c :: cs) ↔ AsksQuery cs := by
  simp only [endsPath, Bool.or_eq_false_iff, decide_eq_false_iff_not] at plain
  rw [asksQuery_cons_iff, or_iff_right plain.1, and_iff_right plain.2]

/-- Characters that are neither a question mark nor a hash say nothing in front. -/
lemma asksQuery_append_iff {front : List Char} (plain : ∀ c ∈ front, endsPath c = false) :
    AsksQuery (front ++ cs) ↔ AsksQuery cs := by
  induction front with
  | nil => rfl
  | cons c front ih =>
    obtain ⟨c_plain, front_plain⟩ := List.forall_mem_cons.mp plain
    rw [List.cons_append, asksQuery_cons_of_plain c_plain, ih front_plain]

/-- Nor do they behind. -/
lemma asksQuery_append_iff_left {back : List Char} (plain : '?' ∉ back) :
    AsksQuery (cs ++ back) ↔ AsksQuery cs := by
  induction cs with
  | nil =>
    refine iff_of_false ?_ not_asksQuery_nil
    rintro ⟨before, after, rfl, _⟩
    exact plain (by simp)
  | cons c cs ih => rw [List.cons_append, asksQuery_cons_iff, asksQuery_cons_iff, ih]

lemma asksQuery_filter_iff {p : Char → Bool} (keeps : ∀ c, endsPath c = true → p c = true) :
    AsksQuery (cs.filter p) ↔ AsksQuery cs := by
  induction cs with
  | nil => rfl
  | cons c cs ih =>
    by_cases kept : p c = true
    · rw [List.filter_cons_of_pos kept, asksQuery_cons_iff, asksQuery_cons_iff, ih]
    · have plain : endsPath c = false := by
        rw [← Bool.not_eq_true]
        exact fun ends => kept (keeps c ends)
      rw [List.filter_cons_of_neg kept, ih, asksQuery_cons_of_plain plain]

lemma endsPath_plain {c : Char} (blank : isControlOrBlank c = true) : endsPath c = false := by
  rw [← Bool.not_eq_true]
  intro ends
  simp only [endsPath, Bool.or_eq_true, decide_eq_true_eq] at ends
  rcases ends with rfl | rfl <;> exact absurd blank (by decide)

/-- Cleaning drops neither question marks nor hashes. -/
lemma asksQuery_clean_iff {reference : String} :
    AsksQuery (clean reference) ↔ AsksQuery reference.toList := by
  let front := reference.toList.dropWhile isControlOrBlank
  have filtered : AsksQuery (clean reference) ↔ AsksQuery (front.rdropWhile isControlOrBlank) := by
    refine asksQuery_filter_iff ?_
    intro c ends
    simp only [endsPath, Bool.or_eq_true, decide_eq_true_eq] at ends
    rcases ends with rfl | rfl <;> decide
  have end_dropped : AsksQuery (front.rdropWhile isControlOrBlank) ↔ AsksQuery front := by
    have plain : '?' ∉ front.rtakeWhile isControlOrBlank := by
      intro mem
      exact absurd (List.mem_rtakeWhile_imp mem) (by decide)
    rw [← asksQuery_append_iff_left plain, List.rdropWhile_append_rtakeWhile]
  have start_dropped : AsksQuery front ↔ AsksQuery reference.toList := by
    have plain : ∀ c ∈ reference.toList.takeWhile isControlOrBlank, endsPath c = false := by
      intro c mem
      exact endsPath_plain (List.mem_takeWhile_imp mem)
    rw [← asksQuery_append_iff plain, List.takeWhile_append_dropWhile]
  exact filtered.trans (end_dropped.trans start_dropped)

lemma spanPath_snd (cs : List Char) : (spanPath cs).2 = cs.dropWhile (!endsPath ·) := rfl

/-- A text has a query when it asks one. -/
lemma query_isSome_iff : (readTail .web (spanPath cs).2).1.isSome = true ↔ AsksQuery cs := by
  induction cs with
  | nil => exact iff_of_false (by decide) not_asksQuery_nil
  | cons c cs ih =>
    cases ends : endsPath c with
    | true =>
      have stops : (spanPath (c :: cs)).2 = c :: cs := by
        rw [spanPath_snd, List.dropWhile_cons_of_neg (by simp [ends])]
      rw [stops, asksQuery_cons_iff]
      simp only [endsPath, Bool.or_eq_true, decide_eq_true_eq] at ends
      rcases ends with rfl | rfl
      · exact iff_of_true rfl (.inl rfl)
      · exact iff_of_false Bool.false_ne_true (by simp)
    | false =>
      have passes : (spanPath (c :: cs)).2 = (spanPath cs).2 := by
        rw [spanPath_snd, spanPath_snd, List.dropWhile_cons_of_pos (by simp [ends])]
      rw [passes, asksQuery_cons_of_plain ends]
      exact ih

namespace Base

lemma read_secure {secure : Bool} {cs : List Char} {b : Base} (found : read secure cs = .ok b) :
    b.secure = secure := by
  unfold read at found
  cases authority : readAuthority (schemeOf secure) cs with
  | error problem =>
    rw [authority] at found
    cases found
  | ok parts =>
    rw [authority] at found
    cases found
    rfl

end Base
end Url

namespace Address

open Url

/-- A host opens with a scheme of its own that is not the secure one. -/
def OpensPlain (host : String) : Prop :=
  ∃ s rest, SpellsLead false s ∧ trimmed host = s ++ rest

lemma opensPlain_iff_of_spelled {host s rest : String} {secure : Bool}
    (spells : SpellsLead secure s) (trimmed_eq : trimmed host = s ++ rest) :
    OpensPlain host ↔ secure = false := by
  constructor
  · rintro ⟨t, rest', plain, also_eq⟩
    cases secure with
    | false => rfl
    | true =>
      have same := congrArg String.toList (also_eq.symm.trans trimmed_eq)
      rw [String.toList_append, String.toList_append] at same
      exact absurd same (leads_differ plain spells)
  · rintro rfl
    exact ⟨s, rest, spells, trimmed_eq⟩

lemma not_opensPlain_of_bare {host : String} (bare : hasWebScheme host = false) :
    ¬ OpensPlain host := by
  rintro ⟨s, rest, spells, trimmed_eq⟩
  have opens : hasWebScheme host = true := by
    rw [← hasWebScheme_trimmed, trimmed_eq]
    exact hasWebScheme_of_spelled spells
  rw [bare] at opens
  cases opens

lemma secure_of_base {host : String} {b : Base} (found : base host = .ok b) :
    b.secure = false ↔ OpensPlain host := by
  cases opens : hasWebScheme host with
  | false =>
    rw [base_of_addressText (spellsLead_lead true) (addressText_of_bare opens)] at found
    simp [Base.read_secure found, not_opensPlain_of_bare opens]
  | true =>
    obtain ⟨secure, s, rest, spells, trimmed_eq⟩ := exists_trimmed_of_hasWebScheme opens
    rw [base_of_addressText spells (addressText_of_spelled spells trimmed_eq)] at found
    rw [Base.read_secure found, opensPlain_iff_of_spelled spells trimmed_eq]

/-- What a reference leads to on a host, beside the address of the host's root. -/
structure KeepsHome (host reference : String) (u home : Url) : Prop where
  scheme_eq : u.scheme = home.scheme
  authority_eq : ∃ a, u.authority = some a ∧ home.authority = some a
  http_iff : u.scheme = "http" ↔ OpensPlain host
  https_iff : u.scheme = "https" ↔ ¬ OpensPlain host
  elsewhere_alike : ∀ other v, resolve other reference = .ok v →
    v.path = u.path ∧ v.query = u.query ∧ v.fragment = u.fragment
  query_iff : u.query.isSome = true ↔ AsksQuery reference.toList

/-- What becomes of a reference that follows the base, for every host that can be read. -/
lemma follow_of_resolve {reference : String} {tail : List Char}
    (joined : ∀ b : Base, b.join reference = .ok (b.follow [] tail)) {other : String} {v : Url}
    (found : resolve other reference = .ok v) : ∃ b : Base, v = b.follow [] tail := by
  cases read : base other with
  | error problem =>
    rw [resolve_of_unread read] at found
    cases found
  | ok b =>
    rw [resolve_of_read read (joined b)] at found
    exact ⟨b, (Except.ok.inj found).symm⟩

lemma keepsHome_of_clean {host reference : String} {tail : List Char} {b : Base}
    (cleaned : clean reference = '/' :: tail)
    (joined : ∀ b : Base, b.join reference = .ok (b.follow [] tail)) (read : base host = .ok b) :
    KeepsHome host reference (b.follow [] tail) (b.follow [] []) where
  scheme_eq := rfl
  authority_eq := ⟨b.authority, rfl, rfl⟩
  http_iff := by
    rw [← secure_of_base read, Base.follow_scheme, Base.scheme]
    cases b.secure <;> decide
  https_iff := by
    rw [← secure_of_base read, Base.follow_scheme, Base.scheme]
    cases b.secure <;> decide
  elsewhere_alike := by
    intro other v found
    obtain ⟨b', rfl⟩ := follow_of_resolve joined found
    exact ⟨rfl, rfl, rfl⟩
  query_iff := by
    rw [← asksQuery_clean_iff, cleaned, asksQuery_cons_of_plain (by decide)]
    exact query_isSome_iff

/-- A reference that starts at the root and with no second slash leads to an address of the same
authority as the root, or fails for the same reason. -/
theorem rooted_reference_keeps_home {reference : String} (rooted : Rooted reference)
    (host : String) :
    (∃ reason, resolve host reference = .error (.invalidUrl host reference reason) ∧
      resolve host "/" = .error (.invalidUrl host "/" reason)) ∨
    ∃ u home, resolve host reference = .ok u ∧ resolve host "/" = .ok home ∧
      KeepsHome host reference u home := by
  obtain ⟨tail, cleaned, plain⟩ := clean_of_rooted rooted
  have joined := Base.join_of_clean cleaned plain
  cases read : base host with
  | error problem =>
    left
    exact ⟨problem.message, resolve_of_unread read reference, resolve_of_unread read "/"⟩
  | ok b =>
    right
    exact ⟨b.follow [] tail, b.follow [] [], resolve_of_read read (joined b),
      resolve_of_read read b.join_root, keepsHome_of_clean cleaned joined read⟩

private def oldHome : String := " Http://me:pw@wds.test:8080/old?q#f"

private def hostile : String := "/.//http://evil.test/?a#b?c"

/-- Whatever follows the first character of the path changes nothing about who is asked. -/
theorem rooted_reference_keeps_home_hostile : Rooted hostile ∧
    ∃ u home, resolve oldHome hostile = .ok u ∧ resolve oldHome "/" = .ok home ∧
      KeepsHome oldHome hostile u home := by
  have rooted : Rooted hostile := ⟨'.', _, rfl, by decide⟩
  have readable : (resolve oldHome "/").toBool = true := by decide +kernel
  refine ⟨rooted, ?_⟩
  rcases rooted_reference_keeps_home rooted oldHome with ⟨_, _, failed⟩ | led
  · rw [failed] at readable
    cases readable
  · exact led

end Address
end Shakedown
