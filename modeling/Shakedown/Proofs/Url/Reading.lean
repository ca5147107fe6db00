import Shakedown.Proofs.Address.Names
import Shakedown.Proofs.Url.Authority

/-!
Reading addresses and references, one part at a time.

An address with an authority is read as that authority and what follows it; whichever way an address
is read, it keeps its scheme. A reference that opens with neither a scheme, a slash nor a mark is
followed from the directory of its base.
-/

namespace Shakedown.Url

/-- The front of a text that is read as an authority, and what follows it. -/
lemma exists_authority_front (cs : List Char) : ∃ front rest, cs = front ++ rest ∧
    WithinAuthority front ∧ EndsAuthority rest := by
  refine ⟨cs.takeWhile (!endsAuthority .web ·), cs.dropWhile (!endsAuthority .web ·),
    List.takeWhile_append_dropWhile.symm, ?_, ?_⟩
  · intro c mem
    simpa using List.mem_takeWhile_imp mem
  · intro c mem
    have stops := List.head?_dropWhile_not (!endsAuthority .web ·) cs
    rw [Option.mem_def.mp mem] at stops
    simpa using stops

/-- Without query and fragment the whole text is path. -/
lemma spanPath_of_no_tail {cs : List Char} (no_query : (readTail .web (spanPath cs).2).1 = none)
    (no_fragment : (readTail .web (spanPath cs).2).2 = none) :
    spanPath cs = (cs, []) ∧ ∀ c ∈ cs, endsPath c = false := by
  have no_tail : cs.dropWhile (!endsPath ·) = [] := by
    rw [spanPath_snd] at no_query no_fragment
    have stops := List.head?_dropWhile_not (!endsPath ·) cs
    cases tail_eq : cs.dropWhile (!endsPath ·) with
    | nil => rfl
    | cons c tail =>
      rw [tail_eq] at no_query no_fragment stops
      have mark : c = '?' ∨ c = '#' := by simpa [endsPath, or_iff_not_imp_left] using stops
      rcases mark with rfl | rfl
      · cases no_query
      · cases no_fragment
  have passed := List.dropWhile_eq_nil_iff.mp no_tail
  refine ⟨by rw [spanPath, List.takeWhile_eq_self_iff.mpr passed, no_tail], fun c mem => ?_⟩
  simpa using passed c mem

/-! Addresses with an authority. -/

lemma readHierarchical_of_authority {scheme : String} (web : SchemeKind.of scheme = .web)
    {cs rest : List Char} {a : Authority} (read : readAuthority scheme cs = .ok (a, rest)) :
    readHierarchical scheme cs = .ok ⟨scheme, some a,
      .segments (absoluteSegments .web (spanPath rest).1), (readTail .web (spanPath rest).2).1,
      (readTail .web (spanPath rest).2).2⟩ := by
  simp only [readHierarchical, web, read, bind, Except.bind]
  rfl

lemma readHierarchical_of_no_authority {scheme : String} {cs : List Char} {problem : Problem}
    (read : readAuthority scheme cs = .error problem) :
    readHierarchical scheme cs = .error problem := by
  simp only [readHierarchical, read, bind, Except.bind]

/-- An address is read from its authority on. -/
lemma exists_authority_of_readHierarchical {scheme : String} {cs : List Char} {u : Url}
    (read : readHierarchical scheme cs = .ok u) :
    ∃ parts, readAuthority scheme cs = .ok parts := by
  cases found : readAuthority scheme cs with
  | error problem =>
    rw [readHierarchical_of_no_authority found] at read
    cases read
  | ok parts => exact ⟨parts, rfl⟩

lemma Base.read_of_authority {secure : Bool} {cs rest : List Char} {a : Authority}
    (read : readAuthority (schemeOf secure) cs = .ok (a, rest)) :
    Base.read secure cs = .ok ⟨secure, a, absoluteSegments .web (spanPath rest).1,
      (readTail .web (spanPath rest).2).1⟩ := by
  simp only [Base.read, read, bind, Except.bind]
  rfl

/-! Schemes. -/

lemma scheme_of_readHierarchical {scheme : String} {cs : List Char} {u : Url}
    (read : readHierarchical scheme cs = .ok u) : u.scheme = scheme := by
  obtain ⟨parts, found⟩ := exists_authority_of_readHierarchical read
  simp only [readHierarchical, found, bind, Except.bind] at read
  obtain rfl := Except.ok.inj read
  rfl

lemma scheme_of_readFile {cs : List Char} {u : Url} (read : readFile cs = .ok u) :
    u.scheme = "file" := by
  simp only [readFile] at read
  split at read
  · split at read
    · split at read
      · obtain rfl := Except.ok.inj read
        rfl
      · simp only [bind, Except.bind] at read
        split at read
        · cases read
        · obtain rfl := Except.ok.inj read
          rfl
    · obtain rfl := Except.ok.inj read
      rfl
  · obtain rfl := Except.ok.inj read
    rfl

/-- An address of its own keeps its scheme. -/
lemma scheme_of_ofScheme {scheme : String} {cs : List Char} {u : Url}
    (read : ofScheme scheme cs = .ok u) : u.scheme = scheme := by
  cases kind : SchemeKind.of scheme with
  | web =>
    simp only [ofScheme, kind] at read
    exact scheme_of_readHierarchical read
  | file =>
    have is_file : scheme = "file" := by
      by_contra other
      rw [SchemeKind.of, if_neg other] at kind
      split at kind <;> cases kind
    simp only [ofScheme, kind] at read
    rw [is_file]
    exact scheme_of_readFile read
  | other =>
    simp only [ofScheme, kind] at read
    split at read
    · exact scheme_of_readHierarchical read
    · obtain rfl := Except.ok.inj read
      rfl

/-- An address that can be asked for over HTTP has an authority and a path of segments. -/
lemma exists_authority_of_read {text : String} {u : Url} (read : Url.read text = .ok u)
    (web : u.isWeb = true) : ∃ secure a path, u.scheme = Base.schemeOf secure ∧
      (∃ cs rest, readAuthority u.scheme cs = .ok (a, rest)) ∧ u.authority = some a ∧
      u.path = .segments (absoluteSegments .web path) := by
  rw [Url.read] at read
  split at read
  · next scheme behind _ =>
    obtain rfl := scheme_of_ofScheme read
    obtain ⟨secure, scheme_eq⟩ : ∃ secure, u.scheme = Base.schemeOf secure := by
      rw [isWeb, Bool.or_eq_true, decide_eq_true_eq, decide_eq_true_eq] at web
      exact web.elim (fun http => ⟨false, http⟩) fun https => ⟨true, https⟩
    have kind : SchemeKind.of u.scheme = .web := by
      rw [scheme_eq]
      cases secure <;> decide
    simp only [ofScheme, kind] at read
    obtain ⟨⟨a, rest⟩, found⟩ := exists_authority_of_readHierarchical read
    rw [readHierarchical_of_authority kind found] at read
    obtain u_eq := Except.ok.inj read
    exact ⟨secure, a, _, scheme_eq, ⟨_, rest, found⟩, by rw [← u_eq], by rw [← u_eq]⟩
  · cases read

/-! References. -/

/-- A text without characters that are dropped is read as it is. -/
lemma clean_of_solid {cs : List Char} (solid : ∀ c ∈ cs, isControlOrBlank c = false) :
    clean (String.ofList cs) = cs := by
  have cleaned : clean (String.ofList cs) =
      ((cs.dropWhile isControlOrBlank).rdropWhile isControlOrBlank).filter stays := by
    rw [clean, String.toList_ofList]
    rfl
  have start_eq : cs.dropWhile isControlOrBlank = cs := by
    cases cs with
    | nil => rfl
    | cons c cs => exact List.dropWhile_cons_of_neg (by simp [solid c])
  rw [cleaned, start_eq, rdropWhile_eq_self_iff_endsSolid.mpr (EndsSolid.of_forall solid),
    List.filter_eq_self.mpr fun c mem => stays_of_solid (solid c mem)]

lemma splitScheme_of_no_colon {cs : List Char} (no_colon : ':' ∉ cs) : splitScheme cs = none := by
  unfold splitScheme
  split
  · next behind =>
    have mem : ':' ∈ cs := by
      refine (List.dropWhile_sublist isSchemeChar).subset ?_
      rw [behind]
      exact List.mem_cons_self
    exact absurd mem no_colon
  · rfl

namespace Base

/-- A reference without a scheme is resolved as it is once cleaned. -/
lemma join_of_no_scheme {reference : String} (no_scheme : splitScheme (clean reference) = none)
    (b : Base) : b.join reference = b.resolve (clean reference) := by
  simp only [join, no_scheme]

/-- A reference that starts with neither a slash nor a mark is followed from the base's
directory. -/
lemma resolve_of_plain {c : Char} (no_slash : isSlash .web c = false) (no_mark : endsPath c = false)
    (b : Base) (rest : List Char) :
    b.resolve (c :: rest) = .ok (b.follow b.segments.dropLast (c :: rest)) := by
  have no_authority : opensAuthority (c :: rest) = false := by
    cases rest with
    | nil => rfl
    | cons d rest => rw [opensAuthority, no_slash, Bool.false_and]
  rw [endsPath, Bool.or_eq_false_iff, decide_eq_false_iff_not, decide_eq_false_iff_not] at no_mark
  rw [resolve]
  · simp only [no_authority, no_slash]
    rfl
  · exact no_mark.1
  · exact no_mark.2

end Base
end Shakedown.Url
