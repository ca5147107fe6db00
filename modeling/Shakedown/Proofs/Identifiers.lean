import Shakedown.Proofs.Address.Names
import Shakedown.Proofs.Question

/-!
Workspaces in the addresses that checks ask.

A check is named after an endpoint, and some endpoints have the names of a workspace in their paths.
These are written there as they were given. So the address that is asked says the endpoint just when
they are plain, and a workspace at the very end of an address must not end in a blank either. With
any other name the check asks something else than what it is named after.
-/

namespace Shakedown

open Url

/-- What a check is named after: the names on a path, and a query. -/
structure Endpoint where
  names : List String
  query : Option String := none

namespace Endpoint

def reference (e : Endpoint) : String := Path.segmentsText e.names ++ tailText e.query none

/-- The address says the endpoint. -/
structure SaidBy (e : Endpoint) (u : Url) : Prop where
  names_eq : u.names = e.names.map fun s => Text.Utf8.bytes s.toList
  query_eq : u.query = e.query

lemma toList_reference (e : Endpoint) :
    e.reference.toList = spelled e.names ++ (tailText e.query none).toList := by
  rw [reference, String.toList_append, toList_segmentsText]

lemma rooted_of_isUnreserved {e : Endpoint} {c : Char} {rest : List Char}
    (unreserved : isUnreserved c = true) (opens : spelled e.names = '/' :: c :: rest) :
    Rooted e.reference := by
  refine ⟨c, rest ++ (tailText e.query none).toList, ?_, fun mark => ?_⟩
  · rw [toList_reference, opens]
    rfl
  · have included : ∀ d ∈ "/\\\t\n\r".toList, d ∈ "/\\?#\t\n\r%:".toList := by decide
    exact (plain_of_isUnreserved unreserved).1 (included c mark)

/-- The reference of an endpoint says it just when its names are plain and its end is not
dropped. -/
lemma saidBy_iff {e : Endpoint} {host : String} {b : Base} (read : Address.base host = .ok b)
    (named : e.names ≠ []) (rooted : Rooted e.reference) (plain_query : PlainQuery e.query) :
    ∃ u, Address.url host e.reference = .ok u ∧
      (e.SaidBy u ↔
        (∀ s ∈ e.names, PlainName s) ∧ (e.query = none → EndsSolid (spelled e.names))) := by
  obtain ⟨front, front_eq⟩ : ∃ front, '/' :: front = spelled e.names := by
    obtain ⟨s, rest, names_eq⟩ := List.exists_cons_of_ne_nil named
    exact ⟨s.toList ++ spelled rest, by rw [names_eq]; rfl⟩
  have opens : e.reference.toList = '/' :: (front ++ (tailText e.query none).toList) := by
    rw [toList_reference, ← front_eq, List.cons_append]
  obtain ⟨tail, cleaned, plain_head⟩ := clean_of_rooted rooted
  have url_eq : Address.url host e.reference = .ok (b.follow [] tail) := by
    rw [Address.url, read]
    exact Base.join_of_clean cleaned plain_head b
  obtain rfl : _ = tail := (List.cons.inj ((clean_of_slash opens).symm.trans cleaned)).2
  refine ⟨_, url_eq, Iff.trans ?_ (follow_tells_iff b plain_query front_eq)⟩
  exact ⟨fun said => ⟨said.names_eq, said.query_eq⟩, fun both => ⟨both.1, both.2⟩⟩

end Endpoint

namespace Uuid

lemma isUnreserved_of_mem_digits {id : Uuid} {c : Char} (mem : c ∈ id.digits) :
    isUnreserved c = true := by
  rcases List.mem_append.mp mem with filler | digit
  · obtain rfl := List.eq_of_mem_replicate filler
    decide
  · exact Url.isUnreserved_of_mem_toDigits (by decide) (by decide) digit

/-- An identifier is written with digits and hyphens only. -/
lemma isUnreserved_of_mem_text {id : Uuid} {c : Char} (mem : c ∈ id.text.toList) :
    isUnreserved c = true := by
  have either : c ∈ id.digits ∨ c = '-' := by
    simp only [text, String.toList_ofList, List.append_assoc, List.cons_append, List.mem_append,
      List.mem_cons] at mem
    rcases mem with taken | mark | taken | mark | taken | mark | taken | mark | taken
    · exact .inl (List.mem_of_mem_take taken)
    · exact .inr mark
    · exact .inl (List.mem_of_mem_drop (List.mem_of_mem_take taken))
    · exact .inr mark
    · exact .inl (List.mem_of_mem_drop (List.mem_of_mem_take taken))
    · exact .inr mark
    · exact .inl (List.mem_of_mem_drop (List.mem_of_mem_take taken))
    · exact .inr mark
    · exact .inl (List.mem_of_mem_drop taken)
  rcases either with digit | rfl
  · exact isUnreserved_of_mem_digits digit
  · decide

lemma hyphen_mem_text (id : Uuid) : '-' ∈ id.text.toList := by
  simp [text]

lemma text_ne_of_notMem {s : String} (no_hyphen : '-' ∉ s.toList) (id : Uuid) : id.text ≠ s := by
  rintro rfl
  exact no_hyphen id.hyphen_mem_text

lemma plainName_text (id : Uuid) : PlainName id.text :=
  .of_unreserved (fun _ mem => isUnreserved_of_mem_text mem)
    ⟨text_ne_of_notMem (by decide) id, text_ne_of_notMem (by decide) id⟩

lemma endsSolid_text (id : Uuid) : EndsSolid id.text.toList :=
  EndsSolid.of_forall fun _ mem => (plain_of_isUnreserved (isUnreserved_of_mem_text mem)).2.2

end Uuid

namespace Check
variable {s : Settings} {id : Uuid} {check : Check}

/-- The endpoint that a check is named after, if the settings hold all that goes into it. -/
def endpoint? (s : Settings) (id : Uuid) : Check → Option Endpoint
  | .statusCode => some ⟨["status"], none⟩
  | .statusUp => some ⟨["status"], none⟩
  | .versionCode => some ⟨["version"], none⟩
  | .versionPresent => some ⟨["version"], none⟩
  | .jobListing => s.workspace.map fun workspace => ⟨["job", "v1", "instance", workspace], none⟩
  | .randomJob => some ⟨["job", "v1", id.text], none⟩
  | .randomImportJob => s.target.map fun target =>
    ⟨["api", "workspaces", target.workspaceNamespace, target.workspaceName, "importJob", id.text],
      none⟩
  | .importJobListing => s.target.map fun target =>
    ⟨["api", "workspaces", target.workspaceNamespace, target.workspaceName, "importJob"],
      some "runningOnly=true"⟩

/-- What the settings say that goes into the address of a check means nothing else there. -/
def TakesPlainNames (s : Settings) : Check → Prop
  | .jobListing => ∀ workspace ∈ s.workspace, PlainName workspace ∧ EndsSolid workspace.toList
  | .randomImportJob => ∀ target ∈ s.target,
      PlainName target.workspaceNamespace ∧ PlainName target.workspaceName
  | .importJobListing => ∀ target ∈ s.target,
      PlainName target.workspaceNamespace ∧ PlainName target.workspaceName
  | _ => True

lemma workspacePath_eq (target : Orchestration) : workspacePath target =
    "/api/workspaces/" ++ target.workspaceNamespace ++ "/" ++ target.workspaceName := rfl

/-- The reference of a check's question is the one of the endpoint it is named after. -/
lemma exists_endpoint {q : Question} (asks : check.question? s id = some q) :
    ∃ e, check.endpoint? s id = some e ∧ q.reference = e.reference := by
  have no_tail : tailText none none = "" := rfl
  have job_path : "/job/v1/" = "/" ++ "job" ++ ("/" ++ "v1" ++ "/") := by decide
  have listing_path : "/job/v1/instance/" =
      "/" ++ "job" ++ ("/" ++ "v1" ++ ("/" ++ "instance" ++ "/")) := by decide
  have workspaces_path : "/api/workspaces/" = "/" ++ "api" ++ ("/" ++ "workspaces" ++ "/") := by
    decide
  have import_path : "/importJob/" = "/" ++ "importJob" ++ "/" := by decide
  have running_path : "/importJob?runningOnly=true" =
      "/" ++ "importJob" ++ tailText (some "runningOnly=true") none := by decide
  cases check with
  | statusCode => obtain rfl := Option.some.inj asks; exact ⟨_, rfl, rfl⟩
  | statusUp => obtain rfl := Option.some.inj asks; exact ⟨_, rfl, rfl⟩
  | versionCode => obtain rfl := Option.some.inj asks; exact ⟨_, rfl, rfl⟩
  | versionPresent => obtain rfl := Option.some.inj asks; exact ⟨_, rfl, rfl⟩
  | jobListing =>
    simp only [question?, Option.bind_eq_bind, Option.bind_eq_some_iff, Option.some.injEq] at asks
    obtain ⟨workspace, named, token, given, rfl⟩ := asks
    refine ⟨_, Option.map_eq_some_iff.mpr ⟨workspace, named, rfl⟩, ?_⟩
    simp only [Endpoint.reference, Path.segmentsText, listing_path, no_tail, String.append_assoc,
      String.append_empty]
  | randomJob =>
    simp only [question?, Option.bind_eq_bind, Option.bind_eq_some_iff, Option.some.injEq] at asks
    obtain ⟨token, given, rfl⟩ := asks
    refine ⟨_, rfl, ?_⟩
    simp only [Endpoint.reference, Path.segmentsText, job_path, no_tail, String.append_assoc,
      String.append_empty]
  | randomImportJob =>
    simp only [question?, Option.bind_eq_bind, Option.bind_eq_some_iff, Option.some.injEq] at asks
    obtain ⟨target, known, rfl⟩ := asks
    refine ⟨_, Option.map_eq_some_iff.mpr ⟨target, known, rfl⟩, ?_⟩
    simp only [Endpoint.reference, Path.segmentsText, workspacePath_eq, workspaces_path,
      import_path, no_tail, String.append_assoc, String.append_empty]
  | importJobListing =>
    simp only [question?, Option.bind_eq_bind, Option.bind_eq_some_iff, Option.some.injEq] at asks
    obtain ⟨target, known, rfl⟩ := asks
    refine ⟨_, Option.map_eq_some_iff.mpr ⟨target, known, rfl⟩, ?_⟩
    simp only [Endpoint.reference, Path.segmentsText, workspacePath_eq, workspaces_path,
      running_path, String.append_assoc, String.append_empty]

/-- The path of an endpoint has one slash in front, and its query stands as it is. -/
lemma endpoint_shape {e : Endpoint} (meant : check.endpoint? s id = some e) :
    e.names ≠ [] ∧ Rooted e.reference ∧ PlainQuery e.query := by
  have shape : ∀ (c : Char) (rest : List Char) (e : Endpoint), isUnreserved c = true →
      spelled e.names = '/' :: c :: rest → (∀ q ∈ e.query, q = "runningOnly=true") →
      e.names ≠ [] ∧ Rooted e.reference ∧ PlainQuery e.query := by
    intro c rest e unreserved opens queried
    refine ⟨?_, Endpoint.rooted_of_isUnreserved unreserved opens, ?_⟩
    · intro unnamed
      rw [unnamed] at opens
      cases opens
    · intro q mem
      obtain rfl := queried q mem
      decide
  cases check with
  | statusCode =>
    obtain rfl := Option.some.inj meant
    exact shape 's' _ _ (by decide) rfl (by simp)
  | statusUp =>
    obtain rfl := Option.some.inj meant
    exact shape 's' _ _ (by decide) rfl (by simp)
  | versionCode =>
    obtain rfl := Option.some.inj meant
    exact shape 'v' _ _ (by decide) rfl (by simp)
  | versionPresent =>
    obtain rfl := Option.some.inj meant
    exact shape 'v' _ _ (by decide) rfl (by simp)
  | jobListing =>
    obtain ⟨workspace, _, rfl⟩ := Option.map_eq_some_iff.mp meant
    exact shape 'j' _ _ (by decide) rfl (by simp)
  | randomJob =>
    obtain rfl := Option.some.inj meant
    exact shape 'j' _ _ (by decide) rfl (by simp)
  | randomImportJob =>
    obtain ⟨target, _, rfl⟩ := Option.map_eq_some_iff.mp meant
    exact shape 'a' _ _ (by decide) rfl (by simp)
  | importJobListing =>
    obtain ⟨target, _, rfl⟩ := Option.map_eq_some_iff.mp meant
    exact shape 'a' _ _ (by decide) rfl (by simp)

/-- The end of a path is the end of its last name, unless that is empty. -/
lemma endsSolid_spelled_concat (front : List String) {last : String} (filled : last ≠ "") :
    EndsSolid (spelled (front ++ [last])) ↔ EndsSolid last.toList := by
  have split : spelled (front ++ [last]) = (spelled front ++ ['/']) ++ last.toList := by
    rw [spelled, List.flatMap_append, List.flatMap_singleton, List.append_assoc]
    rfl
  rw [split, EndsSolid.append _ fun empty => filled (String.toList_inj.mp empty)]

/-- The names of a path for import jobs are plain when the ones from the settings are. -/
lemma importNames_plain_iff (target : Orchestration) {job : List String}
    (job_plain : ∀ n ∈ job, PlainName n) :
    (∀ n ∈ ["api", "workspaces", target.workspaceNamespace, target.workspaceName, "importJob"] ++
      job, PlainName n) ↔ PlainName target.workspaceNamespace ∧ PlainName target.workspaceName := by
  have api_plain : PlainName "api" ∧ PlainName "workspaces" ∧ PlainName "importJob" := by decide
  simp only [List.forall_mem_append, List.forall_mem_cons, api_plain, true_and]
  exact ⟨fun plain => ⟨plain.1.1, plain.1.2.1⟩,
    fun plain => ⟨⟨plain.1, plain.2, List.forall_mem_nil _⟩, job_plain⟩⟩

/-- What makes the reference of an endpoint say it is a matter of the settings only. -/
lemma endpoint_plain_iff {e : Endpoint} (meant : check.endpoint? s id = some e) :
    (∀ n ∈ e.names, PlainName n) ∧ (e.query = none → EndsSolid (spelled e.names)) ↔
      check.TakesPlainNames s := by
  have id_filled : id.text ≠ "" := id.text_ne_of_notMem (by decide)
  have target_plain_iff : ∀ target : Orchestration, s.target = some target →
      ((∀ given ∈ s.target, PlainName given.workspaceNamespace ∧ PlainName given.workspaceName) ↔
        PlainName target.workspaceNamespace ∧ PlainName target.workspaceName) := by
    intro target known
    rw [known]
    exact ⟨fun plain => plain target rfl, fun plain given mem => Option.some.inj mem ▸ plain⟩
  cases check with
  | statusCode =>
    obtain rfl := Option.some.inj meant
    exact iff_of_true (by decide) trivial
  | statusUp =>
    obtain rfl := Option.some.inj meant
    exact iff_of_true (by decide) trivial
  | versionCode =>
    obtain rfl := Option.some.inj meant
    exact iff_of_true (by decide) trivial
  | versionPresent =>
    obtain rfl := Option.some.inj meant
    exact iff_of_true (by decide) trivial
  | jobListing =>
    obtain ⟨workspace, named, rfl⟩ := Option.map_eq_some_iff.mp meant
    have filled : workspace ≠ "" := (Settings.present_eq_some_iff.mp named).2
    have ends := endsSolid_spelled_concat ["job", "v1", "instance"] filled
    have fixed : PlainName "job" ∧ PlainName "v1" ∧ PlainName "instance" := by decide
    constructor
    · rintro ⟨plain, solid⟩ given mem
      obtain rfl := Option.some.inj (named.symm.trans mem)
      exact ⟨plain workspace (by simp), ends.mp (solid rfl)⟩
    · intro taken
      obtain ⟨plain, solid⟩ := taken workspace named
      refine ⟨?_, fun _ => ends.mpr solid⟩
      simp only [List.forall_mem_cons, fixed, plain, true_and]
      exact List.forall_mem_nil _
  | randomJob =>
    obtain rfl := Option.some.inj meant
    have fixed : PlainName "job" ∧ PlainName "v1" := by decide
    refine iff_of_true ⟨?_, fun _ => ?_⟩ trivial
    · simp only [List.forall_mem_cons, fixed, id.plainName_text, true_and]
      exact List.forall_mem_nil _
    · exact (endsSolid_spelled_concat ["job", "v1"] id_filled).mpr id.endsSolid_text
  | randomImportJob =>
    obtain ⟨target, known, rfl⟩ := Option.map_eq_some_iff.mp meant
    have ends := endsSolid_spelled_concat
      ["api", "workspaces", target.workspaceNamespace, target.workspaceName, "importJob"] id_filled
    have names_plain_iff := importNames_plain_iff target
      (List.forall_mem_singleton.mpr id.plainName_text)
    refine Iff.trans (and_iff_left fun _ => ends.mpr id.endsSolid_text) ?_
    exact names_plain_iff.trans (target_plain_iff target known).symm
  | importJobListing =>
    obtain ⟨target, known, rfl⟩ := Option.map_eq_some_iff.mp meant
    have names_plain_iff := importNames_plain_iff target (List.forall_mem_nil _)
    refine Iff.trans (and_iff_left nofun) ?_
    exact names_plain_iff.trans (target_plain_iff target known).symm

/-- On a host that can be read, a check asks the endpoint it is named after just when the names that
go into it are plain. -/
theorem asks_endpoint_iff {q : Question} {b : Base} (asks : check.question? s id = some q)
    (read : Address.base q.host = .ok b) :
    ∃ e f, check.endpoint? s id = some e ∧ check.fetch s id = .ok f ∧
      (e.SaidBy f.url ↔ check.TakesPlainNames s) := by
  obtain ⟨e, meant, reference_eq⟩ := exists_endpoint asks
  obtain ⟨named, rooted, plain_query⟩ := endpoint_shape meant
  obtain ⟨u, url_eq, said⟩ := Endpoint.saidBy_iff read named rooted plain_query
  refine ⟨e, ⟨u, q.bearer⟩, meant, ?_, said.trans (endpoint_plain_iff meant)⟩
  rw [fetch_of_question asks, Question.fetch, reference_eq, url_eq]

private def billed (name : String) : Settings where
  host := "http://wds.test"
  userToken := some "t"
  orchestration := ⟨some "http://orch.test", some "my-billing", some name⟩

/-- A blank within a name does no harm. -/
theorem asks_endpoint_despite_blank : ∃ e f,
    importJobListing.endpoint? (billed "my workspace") ⟨0⟩ = some e ∧
      importJobListing.fetch (billed "my workspace") ⟨0⟩ = .ok f ∧ e.SaidBy f.url := by
  have asks : importJobListing.question? (billed "my workspace") ⟨0⟩ = some ⟨"http://orch.test",
      "/api/workspaces/my-billing/my workspace/importJob?runningOnly=true", some "t"⟩ := rfl
  have read : Address.base "http://orch.test" =
      .ok ⟨false, { host := .name "orch.test" }, [""], none⟩ :=
    Address.base_of_lead (Address.spellsLead_lead false) "orch.test"
  have known : (billed "my workspace").target =
      some ⟨"http://orch.test", "my-billing", "my workspace", "t"⟩ := rfl
  have plain : importJobListing.TakesPlainNames (billed "my workspace") := by
    intro target mem
    obtain rfl := Option.some.inj (known.symm.trans mem)
    decide
  obtain ⟨e, f, meant, found, said_iff⟩ := asks_endpoint_iff asks read
  exact ⟨e, f, meant, found, said_iff.mpr plain⟩

/-- A question mark in a name ends the path there. -/
theorem asks_elsewhere_after_mark : ∃ e f,
    importJobListing.endpoint? (billed "my?ws") ⟨0⟩ = some e ∧
      importJobListing.fetch (billed "my?ws") ⟨0⟩ = .ok f ∧
      f.url.path = .segments ["api", "workspaces", "my-billing", "my"] ∧
      f.url.query = some "ws/importJob?runningOnly=true" ∧ ¬ e.SaidBy f.url := by
  refine ⟨_, ⟨⟨"http", some { host := .name "orch.test" },
    .segments ["api", "workspaces", "my-billing", "my"], some "ws/importJob?runningOnly=true",
    none⟩, some "t"⟩, rfl, by with_unfolding_all rfl, rfl, rfl, ?_⟩
  intro said
  exact absurd said.query_eq (by decide)

end Check
end Shakedown
