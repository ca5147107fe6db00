import Shakedown.Proofs.Load.Calls

/-!
The pieces of a load run.

What a run does falls into pieces that follow its functions: waits, round trips and submissions, the
steps of one workspace, the phase in which it is put to use, and the creation of all workspaces.
Each piece relates deeds to what comes of them.
-/

namespace Shakedown.Load

/-- A wait for an app: it is polled until it is ready, a poll fails or the time is up. -/
inductive Waits (r : Run) (id : String) (app : App) : List Deed → Option String → Prop
  | ended {deeds : List Deed} {state : Option AppState}
      (polled : r.Calls (.poll id app) (·.appState? app) deeds state)
      (unready : state.bind AppState.url? = none) : Waits r id app deeds none
  | ready {deeds : List Deed} {url : String}
      (polled : r.Calls (.poll id app) (·.appState? app) deeds (some (.ready url))) :
      Waits r id app deeds (some url)
  | again {deeds later : List Deed} {state : AppState} {result : Option String} (seconds : UInt64)
      (polled : r.Calls (.poll id app) (·.appState? app) deeds (some state))
      (unready : state.url? = none) (waits : Waits r id app later result) :
      Waits r id app (deeds ++ .slept seconds :: later) result

/-- The upload of the load's own data. -/
inductive Uploads (r : Run) (id wdsUrl : String) : List Deed → Option String → Prop
  | asked {deeds : List Deed} {json : Option Json}
      (uploaded : r.Calls (.upload id wdsUrl .data) (·.json?) deeds json) :
      Uploads r id wdsUrl deeds (json.map Json.text)

/-- A round trip: a record is written, and read back if that succeeds. -/
inductive RoundTrips (r : Run) (id wdsUrl : String) : List Deed → Option String → Prop
  | unwritten {deeds : List Deed} {record : Record}
      (written : r.Calls (.write id wdsUrl record) (·.success?.map fun _ => ()) deeds none) :
      RoundTrips r id wdsUrl deeds none
  | read {writing reading : List Deed} {record : Record} {retrieved : Option Json}
      (written : r.Calls (.write id wdsUrl record) (·.success?.map fun _ => ()) writing (some ()))
      (read : r.Calls (.read id wdsUrl record) (·.json?) reading retrieved) :
      RoundTrips r id wdsUrl (writing ++ reading)
        (retrieved.bind fun json => (Run.judgeRoundTrip record json).toOption)

/-- A submission: the workflow's data are uploaded, the app that takes workflows is waited for, and
the workflow is submitted to it. -/
inductive Submits (r : Run) (id wdsUrl : String) : List Deed → Option String → Prop
  | notUploaded {deeds : List Deed}
      (uploaded : r.Calls (.upload id wdsUrl .workflow) (·.json?) deeds none) :
      Submits r id wdsUrl deeds none
  | notReady {uploading waiting : List Deed} {json : Json}
      (uploaded : r.Calls (.upload id wdsUrl .workflow) (·.json?) uploading (some json))
      (waited : Waits r id .cbas waiting none) :
      Submits r id wdsUrl (uploading ++ .announced (.waiting id .cbas) :: waiting) none
  | asked {uploading waiting asking : List Deed} {json : Json} {url : String}
      {submitted : Option Json}
      (uploaded : r.Calls (.upload id wdsUrl .workflow) (·.json?) uploading (some json))
      (waited : Waits r id .cbas waiting (some url))
      (asked : r.Calls (.submission id url) (·.json?) asking submitted) :
      Submits r id wdsUrl (uploading ++ .announced (.waiting id .cbas) :: (waiting ++ asking))
        (submitted.map Run.submissionDetail)

/-- The request of an app to submit workflows to. -/
inductive RequestsApp (r : Run) (id : String) : List Deed → Option String → Prop
  | asked {deeds : List Deed} {done : Option Unit}
      (requested : r.Calls (.appRequest id) (·.success?.map fun _ => ()) deeds done) :
      RequestsApp r id deeds (done.map fun _ => "requested")

/-- A step: it is skipped, or it is carried out and then announced. -/
inductive Takes (wanted : Bool) (id : String) (kind : Step)
    (acts : List Deed → Option String → Prop) : List Deed → List StepOutcome → Prop
  | skipped (unwanted : wanted = false) : Takes wanted id kind acts [] []
  | taken {deeds : List Deed} {result : Except Fault String} (asked : wanted = true)
      (acted : acts deeds result.toOption) :
      Takes wanted id kind acts (deeds ++ [.announced (.stepFinished id (.of kind result))])
        [.of kind result]

/-- What is done with a workspace once all are created, and the steps that come of it. -/
inductive Phase (r : Run) (id : String) : List Deed → List StepOutcome → Prop
  | idle (unneeded : Run.needsWds r.settings = false) : Phase r id [] []
  | unready {waiting : List Deed} (fault : Fault) (needed : Run.needsWds r.settings = true)
      (waited : Waits r id .wds waiting none) :
      Phase r id (.announced (.waiting id .wds) ::
        (waiting ++ [.announced (.stepFinished id (.of .wdsReady (.error fault)))]))
        [.of .wdsReady (.error fault)]
  | ready {waiting uploading tripping submitting : List Deed} {wdsUrl : String}
      {uploads trips submissions : List StepOutcome} (needed : Run.needsWds r.settings = true)
      (waited : Waits r id .wds waiting (some wdsUrl))
      (uploaded : Takes r.settings.wdsUpload id .tsvUpload (Uploads r id wdsUrl) uploading uploads)
      (tripped : Takes r.settings.recordRoundtrip id .recordRoundTrip (RoundTrips r id wdsUrl)
        tripping trips)
      (submitted : Takes r.settings.cbasSubmitWorkflow id .workflowSubmission
        (Submits r id wdsUrl) submitting submissions) :
      Phase r id (.announced (.waiting id .wds) ::
        (waiting ++ (uploading ++ (tripping ++ submitting)))) (uploads ++ (trips ++ submissions))

/-- The creation of workspaces in turn, with an app requested in each that is created. -/
inductive Provisions (r : Run) : List Deed → List String → List WorkspaceReport → Prop
  | done : Provisions r [] [] []
  | refused {deeds later : List Deed} {failures : List String} {created : List WorkspaceReport}
      (message : String) (asked : r.Calls .creation (·.created?) deeds none)
      (others : Provisions r later failures created) :
      Provisions r (deeds ++ later) (message :: failures) created
  | granted {deeds requesting later : List Deed} {id : String} {steps : List StepOutcome}
      {failures : List String} {created : List WorkspaceReport}
      (asked : r.Calls .creation (·.created?) deeds (some id))
      (requested : Takes r.settings.enableCbas id .cbasRequest (RequestsApp r id) requesting steps)
      (others : Provisions r later failures created) :
      Provisions r (deeds ++ .announced (.created id) :: (requesting ++ later)) failures
        (⟨id, steps⟩ :: created)

/-- Nothing is announced, and all calls are on errands of one kind. -/
def Silent (kind : Errand → Prop) (deeds : List Deed) : Prop :=
  ∀ deed ∈ deeds, (∃ errand request exchange, deed = .call errand request exchange ∧ kind errand) ∨
    ∃ seconds, deed = .slept seconds

namespace Silent
variable {kind : Errand → Prop} {a b : List Deed}

lemma append (silent : Silent kind a) (on : Silent kind b) : Silent kind (a ++ b) := by
  intro deed member
  rcases List.mem_append.mp member with member | member
  · exact silent deed member
  · exact on deed member

lemma slept (seconds : UInt64) (silent : Silent kind a) : Silent kind (.slept seconds :: a) := by
  intro deed member
  rcases List.mem_cons.mp member with rfl | member
  · exact .inr ⟨seconds, rfl⟩
  · exact silent deed member

lemma of_calls {α : Type} {r : Run} {errand : Errand} {reads : Http.Exchange → Option α}
    {result : Option α} (calls : r.Calls errand reads a result) (of_kind : kind errand) :
    Silent kind a := by
  intro deed member
  cases calls with
  | unsent => cases member
  | sent exchange _ =>
    rw [List.mem_singleton] at member
    exact .inl ⟨errand, _, exchange, member, of_kind⟩

/-- A look that takes no notice of such calls finds nothing. -/
lemma filterMap_eq_nil {β : Type} {look : Deed → Option β} (silent : Silent kind a)
    (calls : ∀ errand request exchange, kind errand →
      look (.call errand request exchange) = none)
    (delays : ∀ seconds, look (.slept seconds) = none) : a.filterMap look = [] := by
  rw [List.filterMap_eq_nil_iff]
  intro deed member
  rcases silent deed member with ⟨errand, request, exchange, rfl, of_kind⟩ | ⟨seconds, rfl⟩
  · exact calls errand request exchange of_kind
  · exact delays seconds

lemma eventsOf_eq_nil (silent : Silent kind a) : eventsOf a = [] :=
  silent.filterMap_eq_nil (fun _ _ _ _ => rfl) fun _ => rfl

lemma workflowDataBy_eq_nil (silent : Silent kind a)
    (none_brought : ∀ id wdsUrl, ¬ kind (.upload id wdsUrl .workflow)) : workflowDataBy a = [] := by
  refine silent.filterMap_eq_nil (fun errand _ _ of_kind => ?_) fun _ => rfl
  cases errand with
  | upload id wdsUrl cargo =>
    cases cargo with
    | data => rfl
    | workflow => exact absurd of_kind (none_brought id wdsUrl)
  | _ => rfl

lemma concerns {id : String} (silent : Silent kind a)
    (own : ∀ errand, kind errand → errand.workspace? = some id) : ∀ deed ∈ a, deed.Concerns id := by
  intro deed member
  rcases silent deed member with ⟨errand, _, _, rfl, of_kind⟩ | ⟨_, rfl⟩
  · exact own errand of_kind
  · trivial

end Silent

section Pieces
variable {r : Run} {id wdsUrl : String} {app : App} {deeds : List Deed} {result : Option String}

lemma Waits.silent (waits : Waits r id app deeds result) : Silent (· = .poll id app) deeds := by
  induction waits with
  | ended polled _ | ready polled => exact .of_calls polled rfl
  | again seconds polled _ _ ih =>
    have poll : Silent (· = .poll id app) _ := .of_calls polled rfl
    exact poll.append (ih.slept seconds)

lemma Uploads.silent (uploads : Uploads r id wdsUrl deeds result) :
    Silent (· = .upload id wdsUrl .data) deeds := by
  cases uploads with
  | asked uploaded => exact .of_calls uploaded rfl

lemma RequestsApp.silent (requests : RequestsApp r id deeds result) :
    Silent (· = .appRequest id) deeds := by
  cases requests with
  | asked requested => exact .of_calls requested rfl

lemma RoundTrips.silent (trips : RoundTrips r id wdsUrl deeds result) :
    Silent (fun errand => ∃ record, errand = .write id wdsUrl record ∨
      errand = .read id wdsUrl record) deeds := by
  cases trips with
  | unwritten written => exact .of_calls written ⟨_, .inl rfl⟩
  | read written read =>
    exact .append (.of_calls written ⟨_, .inl rfl⟩) (.of_calls read ⟨_, .inr rfl⟩)

/-- What a wait comes to is what its polls have found. -/
lemma Waits.foundBy_eq (waits : Waits r id app deeds result) :
    foundBy deeds = (result.map fun url => (id, app, url)).toList := by
  have poll {deeds : List Deed} {state : Option AppState}
      (polled : r.Calls (.poll id app) (·.appState? app) deeds state) :
      foundBy deeds = ((state.bind AppState.url?).map fun url => (id, app, url)).toList :=
    polled.filterMap_eq (fun state => (state.bind AppState.url?).map fun url => (id, app, url)) rfl
      fun _ _ => rfl
  induction waits with
  | ended polled unready => rw [poll polled, unready]
  | ready polled => exact poll polled
  | again seconds polled unready _ ih =>
    rw [foundBy_append, poll polled, Option.bind_some, unready]
    exact ih

lemma Takes.forall_deeds {wanted : Bool} {kind : Step} {acts : List Deed → Option String → Prop}
    {steps : List StepOutcome} (takes : Takes wanted id kind acts deeds steps) {P : Deed → Prop}
    (acted : ∀ deeds result, acts deeds result → ∀ deed ∈ deeds, P deed)
    (finished : ∀ outcome, P (.announced (.stepFinished id outcome))) : ∀ deed ∈ deeds, P deed := by
  intro deed member
  cases takes with
  | skipped => cases member
  | taken _ acts =>
    rcases List.mem_append.mp member with member | member
    · exact acted _ _ acts deed member
    · rw [List.mem_singleton.mp member]
      exact finished _

lemma Submits.concerns (submits : Submits r id wdsUrl deeds result) :
    ∀ deed ∈ deeds, deed.Concerns id := by
  have uploads {deeds : List Deed} {json : Option Json}
      (uploaded : r.Calls (.upload id wdsUrl .workflow) (·.json?) deeds json) :
      ∀ deed ∈ deeds, deed.Concerns id :=
    (Silent.of_calls uploaded rfl).concerns fun _ same => same ▸ rfl
  cases submits with
  | notUploaded uploaded => exact uploads uploaded
  | notReady uploaded waited =>
    rw [List.forall_mem_append, List.forall_mem_cons]
    exact ⟨uploads uploaded, rfl, waited.silent.concerns fun _ same => same ▸ rfl⟩
  | asked uploaded waited asked =>
    rw [List.forall_mem_append, List.forall_mem_cons, List.forall_mem_append]
    exact ⟨uploads uploaded, rfl, waited.silent.concerns fun _ same => same ▸ rfl,
      (Silent.of_calls asked rfl).concerns fun _ same => same ▸ rfl⟩

/-- Whatever is done in the phase of a workspace is done for it. -/
lemma Phase.concerns {later : List StepOutcome} (phase : Phase r id deeds later) :
    ∀ deed ∈ deeds, deed.Concerns id := by
  have waits {app : App} {deeds : List Deed} {result : Option String}
      (waited : Waits r id app deeds result) : ∀ deed ∈ deeds, deed.Concerns id :=
    waited.silent.concerns fun _ same => same ▸ rfl
  cases phase with
  | idle => intro deed member; cases member
  | unready fault _ waited =>
    rw [List.forall_mem_cons, List.forall_mem_append]
    exact ⟨rfl, waits waited, by rw [List.forall_mem_singleton]; rfl⟩
  | ready _ waited uploaded tripped submitted =>
    simp only [List.forall_mem_cons, List.forall_mem_append]
    refine ⟨rfl, waits waited, ?_, ?_, ?_⟩
    · exact uploaded.forall_deeds (fun _ _ uploads => uploads.silent.concerns
        fun _ same => same ▸ rfl) fun _ => rfl
    · refine tripped.forall_deeds (fun _ _ trips => trips.silent.concerns ?_) fun _ => rfl
      rintro _ ⟨record, rfl | rfl⟩
      · rfl
      · rfl
    · exact submitted.forall_deeds (fun _ _ submits => submits.concerns) fun _ => rfl

lemma Takes.step_eq {wanted : Bool} {kind : Step} {acts : List Deed → Option String → Prop}
    {steps : List StepOutcome} (takes : Takes wanted id kind acts deeds steps) {o : StepOutcome}
    (member : o ∈ steps) : o.step = kind := by
  cases takes with
  | skipped => cases member
  | taken => rw [List.mem_singleton.mp member]; rfl

lemma Phase.step_ne {later : List StepOutcome} (phase : Phase r id deeds later) {o : StepOutcome}
    (member : o ∈ later) : o.step ≠ .cbasRequest := by
  cases phase with
  | idle => cases member
  | unready => rw [List.mem_singleton.mp member]; exact Step.noConfusion
  | ready _ _ uploaded tripped submitted =>
    rw [List.mem_append, List.mem_append] at member
    rcases member with member | member | member
    · rw [uploaded.step_eq member]; exact Step.noConfusion
    · rw [tripped.step_eq member]; exact Step.noConfusion
    · rw [submitted.step_eq member]; exact Step.noConfusion

lemma Provisions.step_eq {failures : List String} {created : List WorkspaceReport}
    (provisions : Provisions r deeds failures created) :
    ∀ w ∈ created, ∀ o ∈ w.steps, o.step = .cbasRequest := by
  induction provisions with
  | done => intro w member; cases member
  | refused _ _ _ ih => exact ih
  | granted _ requested _ ih =>
    intro w member o taken
    rcases List.mem_cons.mp member with rfl | member
    · exact requested.step_eq taken
    · exact ih w member o taken

end Pieces
end Shakedown.Load
