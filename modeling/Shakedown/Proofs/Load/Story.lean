import Mathlib.Data.List.Perm.Basic
import Shakedown.Proofs.Load.Account

/-!
The events of a load run tell the same story as its report.

First come the workspaces created, each with the step taken at once. Then come the phases: WDS is
waited for, and every step is announced when it is finished. The app that takes workflows is waited
for just before a submission whose data were brought. So every step of the report is announced
once, and whatever is waited for, a step of the same workspace is announced before anything else.
-/

namespace Shakedown.Load

def Event.finished? : Event → Option (String × StepOutcome)
  | .stepFinished id outcome => some (id, outcome)
  | _ => none

/-- The workflow's data are uploaded, and the upload is answered with JSON. -/
def bringsWorkflow (deeds : List Deed) : Bool := !(workflowDataBy deeds).isEmpty

/-- The events that come with a step of a phase. -/
def stepEvents (id : String) (brought : Bool) (o : StepOutcome) : List Event :=
  (if brought && o.step = .workflowSubmission then [.waiting id .cbas] else []) ++
    [.stepFinished id o]

/-- The events of a phase in which the later steps of a workspace are taken. -/
def phaseEvents (s : LoadSettings) (id : String) (later : List StepOutcome) (brought : Bool) :
    List Event :=
  if Run.needsWds s then .waiting id .wds :: later.flatMap (stepEvents id brought) else []

/-- The events that come with the creation of a workspace. -/
def openingEvents (w : WorkspaceReport) : List Event :=
  .created w.workspaceId :: w.firstSteps.map (.stepFinished w.workspaceId)

/-- The report of a workspace is told in its phase. -/
structure WorkspaceReport.ToldIn (s : LoadSettings) (w : WorkspaceReport) (phase : List Deed) :
    Prop where
  own : ∀ deed ∈ phase, deed.Concerns w.workspaceId
  steps_eq : w.steps = w.firstSteps ++ w.laterSteps
  first_names : w.firstSteps.map (fun o => o.step.name) =
    if s.enableCbas then ["cbas request"] else []
  events_eq : eventsOf phase = phaseEvents s w.workspaceId w.laterSteps (bringsWorkflow phase)

/-- Whatever is waited for in a workspace, a step of it is announced before any event of another
workspace. -/
def Attended (events : List Event) : Prop :=
  ∀ before id app after, events = before ++ .waiting id app :: after →
    ∃ gap outcome rest, after = gap ++ .stepFinished id outcome :: rest ∧
      ∀ event ∈ gap, event.workspaceId = id

section Phases
variable {r : Run} {id wdsUrl : String} {deeds : List Deed} {later : List StepOutcome}

lemma workflowDataBy_upload {json : Option Json}
    (uploaded : r.Calls (.upload id wdsUrl .workflow) (·.json?) deeds json) :
    workflowDataBy deeds = json.toList :=
  uploaded.filterMap_eq (fun json => json) rfl fun _ _ => rfl

lemma eventsOf_announced (event : Event) (deeds : List Deed) :
    eventsOf (.announced event :: deeds) = event :: eventsOf deeds := rfl

lemma workflowDataBy_announced (event : Event) (deeds : List Deed) :
    workflowDataBy (.announced event :: deeds) = workflowDataBy deeds := rfl

lemma eventsOf_calls {α : Type} {errand : Errand} {reads : Http.Exchange → Option α}
    {result : Option α} (calls : r.Calls errand reads deeds result) : eventsOf deeds = [] :=
  calls.filterMap_eq (fun _ => none) rfl fun _ _ => rfl

/-- The app that takes workflows is waited for just if the workflow's data were brought. -/
lemma Submits.eventsOf_eq {result : Option String} (submits : Submits r id wdsUrl deeds result) :
    eventsOf deeds = if bringsWorkflow deeds then [.waiting id .cbas] else [] := by
  cases submits with
  | notUploaded uploaded =>
    rw [eventsOf_calls uploaded, bringsWorkflow, workflowDataBy_upload uploaded]
    rfl
  | notReady uploaded waited =>
    rw [eventsOf_append, eventsOf_announced, eventsOf_calls uploaded,
      waited.silent.eventsOf_eq_nil, bringsWorkflow, workflowDataBy_append,
      workflowDataBy_upload uploaded]
    rfl
  | asked uploaded waited asked =>
    rw [eventsOf_append, eventsOf_announced, eventsOf_append, eventsOf_calls uploaded,
      waited.silent.eventsOf_eq_nil, eventsOf_calls asked, bringsWorkflow, workflowDataBy_append,
      workflowDataBy_upload uploaded]
    rfl

section Takes
variable {wanted : Bool} {kind : Step} {acts : List Deed → Option String → Prop}
  {steps : List StepOutcome}

lemma Takes.eventsOf_eq (takes : Takes wanted id kind acts deeds steps)
    (other : kind ≠ .workflowSubmission)
    (silent : ∀ deeds result, acts deeds result → eventsOf deeds = []) (brought : Bool) :
    eventsOf deeds = steps.flatMap (stepEvents id brought) := by
  cases takes with
  | skipped => rfl
  | @taken deeds result _ acted =>
    have ordinary : (StepOutcome.of kind result).step ≠ .workflowSubmission := other
    rw [eventsOf_append, silent _ _ acted, List.flatMap_singleton, stepEvents]
    simp [ordinary, eventsOf, Deed.event?]

lemma Takes.eventsOf_submits
    (takes : Takes wanted id .workflowSubmission (Submits r id wdsUrl) deeds steps) :
    eventsOf deeds = steps.flatMap (stepEvents id (bringsWorkflow deeds)) := by
  cases takes with
  | skipped => rfl
  | @taken deeds result _ submits =>
    have brought : bringsWorkflow (deeds ++
        [.announced (.stepFinished id (.of .workflowSubmission result))]) =
        bringsWorkflow deeds := by
      rw [bringsWorkflow, workflowDataBy_append, workflowDataBy_announced]
      simp [bringsWorkflow, workflowDataBy]
    rw [brought, eventsOf_append, submits.eventsOf_eq, List.flatMap_singleton, stepEvents]
    simp [StepOutcome.of, eventsOf, Deed.event?]

lemma Takes.workflowDataBy_eq_nil (takes : Takes wanted id kind acts deeds steps)
    (silent : ∀ deeds result, acts deeds result → workflowDataBy deeds = []) :
    workflowDataBy deeds = [] := by
  cases takes with
  | skipped => rfl
  | taken _ acted => rw [workflowDataBy_append, silent _ _ acted]; rfl

end Takes

/-- The steps of a phase, and whether it brings a workflow's data, tell its events. -/
lemma Phase.eventsOf_eq (phase : Phase r id deeds later) :
    eventsOf deeds = phaseEvents r.settings id later (bringsWorkflow deeds) := by
  cases phase with
  | idle unneeded => rw [phaseEvents, unneeded]; rfl
  | unready fault needed waited =>
    rw [phaseEvents, needed, eventsOf_announced, eventsOf_append, waited.silent.eventsOf_eq_nil]
    simp [stepEvents, StepOutcome.of, eventsOf, Deed.event?]
  | @ready waiting uploading tripping submitting _ uploads trips submissions needed waited uploaded
      tripped submitted =>
    have brought : bringsWorkflow (.announced (.waiting id .wds) ::
        (waiting ++ (uploading ++ (tripping ++ submitting)))) = bringsWorkflow submitting := by
      have no_wait := waited.silent.workflowDataBy_eq_nil (by simp)
      have no_upload := uploaded.workflowDataBy_eq_nil
        fun _ _ uploads => uploads.silent.workflowDataBy_eq_nil (by simp)
      have no_trip := tripped.workflowDataBy_eq_nil
        fun _ _ trips => trips.silent.workflowDataBy_eq_nil (by simp)
      simp only [bringsWorkflow, workflowDataBy_announced, workflowDataBy_append, no_wait,
        no_upload, no_trip, List.nil_append]
    have first := uploaded.eventsOf_eq (by decide) (fun _ _ uploads => uploads.silent.eventsOf_eq_nil)
      (bringsWorkflow submitting)
    have second := tripped.eventsOf_eq (by decide) (fun _ _ trips => trips.silent.eventsOf_eq_nil)
      (bringsWorkflow submitting)
    rw [brought, phaseEvents, needed, eventsOf_announced]
    simp only [eventsOf_append, waited.silent.eventsOf_eq_nil, first, second,
      submitted.eventsOf_submits, List.flatMap_append, List.nil_append, if_true]

/-- Every step of a phase is announced, in order. -/
lemma Phase.finished_eq (phase : Phase r id deeds later) :
    (eventsOf deeds).filterMap Event.finished? = later.map fun o => (id, o) := by
  have announced (brought : Bool) (o : StepOutcome) :
      (stepEvents id brought o).filterMap Event.finished? = [(id, o)] := by
    unfold stepEvents
    split <;> rfl
  have finished :
      (phaseEvents r.settings id later (bringsWorkflow deeds)).filterMap Event.finished? =
        if Run.needsWds r.settings then later.map fun o => (id, o) else [] := by
    unfold phaseEvents
    split
    · rw [List.filterMap_cons_none rfl, List.filterMap_flatMap]
      simp only [announced]
      exact List.flatMap_pure_eq_map _ _
    · rfl
  rw [phase.eventsOf_eq, finished]
  cases phase with
  | idle unneeded => rw [unneeded]; rfl
  | unready _ needed => rw [needed]; rfl
  | ready needed => rw [needed]; rfl

/-- A phase in which WDS is needed takes a step. -/
lemma Phase.later_ne_nil (phase : Phase r id deeds later)
    (needed : Run.needsWds r.settings = true) : later ≠ [] := by
  intro nothing
  have names := phase.names_eq
  rw [nothing, List.map_nil, laterNames, needed] at names
  revert names needed
  unfold Run.needsWds
  cases wdsUp id deeds <;> cases r.settings.wdsUpload <;> cases r.settings.recordRoundtrip <;>
    cases r.settings.cbasSubmitWorkflow <;> simp

end Phases

section Attended
variable {a b events : List Event} {id : String}

lemma attended_of_no_wait (nothing : ∀ id app, .waiting id app ∉ events) : Attended events := by
  intro before id app after split
  exact absurd (split ▸ List.mem_append_right before List.mem_cons_self) (nothing id app)

lemma Attended.append (attended : Attended a) (on : Attended b) : Attended (a ++ b) := by
  intro before id app after split
  rcases List.append_eq_append_iff.mp split with ⟨more, rfl, b_eq⟩ | ⟨more, a_eq, rest_eq⟩
  · exact on more id app after b_eq
  · cases more with
    | nil =>
      rw [List.nil_append] at rest_eq
      exact on [] id app after rest_eq.symm
    | cons event more =>
      obtain ⟨rfl, rfl⟩ := List.cons.inj rest_eq
      obtain ⟨gap, outcome, rest, rfl, own⟩ := attended before id app more a_eq
      exact ⟨gap, outcome, rest ++ b, List.append_assoc _ _ _, own⟩

/-- Events of one workspace that end with a step. -/
lemma attended_of_last {front : List Event} {outcome : StepOutcome}
    (own : ∀ event ∈ front, event.workspaceId = id) :
    Attended (front ++ [.stepFinished id outcome]) := by
  intro before id' app after split
  -- the last event is no wait, so it comes after the wait and is the step looked for
  rcases List.eq_nil_or_concat' after with rfl | ⟨gap, last, rfl⟩
  · cases (List.append_inj' split rfl).2
  · rw [← List.cons_append, ← List.append_assoc] at split
    obtain ⟨rfl, same⟩ := List.append_inj' split rfl
    rw [← List.cons.inj same |>.1]
    rw [List.forall_mem_append, List.forall_mem_cons] at own
    obtain ⟨-, rfl, own⟩ := own
    exact ⟨gap, outcome, [], rfl, own⟩

lemma Phase.attended {r : Run} {deeds : List Deed} {later : List StepOutcome}
    (phase : Phase r id deeds later) : Attended (eventsOf deeds) := by
  cases needed : Run.needsWds r.settings with
  | false =>
    rw [phase.eventsOf_eq, phaseEvents, needed]
    exact attended_of_no_wait fun _ _ => List.not_mem_nil
  | true =>
    obtain ⟨front, last, rfl⟩ :=
      (List.eq_nil_or_concat' later).resolve_left (phase.later_ne_nil needed)
    have own : ∀ event ∈ eventsOf deeds, event.workspaceId = id := by
      intro event member
      obtain ⟨deed, done, announced⟩ := List.mem_filterMap.mp member
      have concern := phase.concerns deed done
      cases deed with
      | announced event => cases announced; exact concern
      | _ => cases announced
    have events_eq := phase.eventsOf_eq
    rw [phaseEvents, needed, if_pos rfl, List.flatMap_append, List.flatMap_singleton, stepEvents,
      ← List.append_assoc, ← List.cons_append] at events_eq
    rw [events_eq] at own ⊢
    exact attended_of_last fun event member => own event (List.mem_append_left _ member)

lemma attended_phases {r : Run} {workspaces : List WorkspaceReport} {phases : List (List Deed)}
    (exercised : List.Forall₂ (fun w deeds => Phase r w.workspaceId deeds w.laterSteps)
      workspaces phases) : Attended (phases.map eventsOf).flatten := by
  induction exercised with
  | nil => exact attended_of_no_wait fun _ _ => List.not_mem_nil
  | cons phase _ ih => exact phase.attended.append ih

end Attended

/-- The workspaces created are announced in order, each with the step taken at once. -/
lemma Provisions.eventsOf_eq {r : Run} {deeds : List Deed} {failures : List String}
    {created : List WorkspaceReport} (provisions : Provisions r deeds failures created) :
    eventsOf deeds = created.flatMap fun w =>
      .created w.workspaceId :: w.steps.map (.stepFinished w.workspaceId) := by
  induction provisions with
  | done => rfl
  | refused _ asked _ ih => rw [eventsOf_append, eventsOf_calls asked, ih]; rfl
  | @granted _ requesting _ id steps _ _ asked requested _ ih =>
    have step : eventsOf requesting = steps.map (.stepFinished id) := by
      rw [requested.eventsOf_eq (by decide) (fun _ _ acted => acted.silent.eventsOf_eq_nil) false]
      exact List.flatMap_pure_eq_map _ _
    rw [eventsOf_append, eventsOf_announced, eventsOf_append, eventsOf_calls asked, step, ih]
    rfl

namespace Course
variable {r : Run} {probing provisioning : List Deed} {phases : List (List Deed)}

lemma eventsOf_opening (course : Course r probing provisioning phases) :
    eventsOf (probing ++ provisioning) = r.run.1.workspaces.flatMap openingEvents := by
  rw [eventsOf_append, eventsOf_calls course.probed, course.provisioned.eventsOf_eq,
    List.flatMap_map, List.nil_append]
  rfl

lemma createdBy_opening (course : Course r probing provisioning phases) :
    createdBy (probing ++ provisioning) =
      r.run.1.workspaces.map WorkspaceReport.workspaceId := by
  have all := course.createdBy_eq
  rwa [createdBy_append, createdBy_phases course.exercised, List.append_nil] at all

lemma events_eq (course : Course r probing provisioning phases) :
    r.run.2.events = r.run.1.workspaces.flatMap openingEvents ++ (phases.map eventsOf).flatten := by
  have nothing : ({} : Trace).events = [] := rfl
  have flattened : eventsOf phases.flatten = (phases.map eventsOf).flatten := List.filterMap_flatten
  rw [course.goes.events_eq, nothing, eventsOf_append, course.eventsOf_opening, flattened,
    List.nil_append]

lemma told (course : Course r probing provisioning phases) :
    List.Forall₂ (WorkspaceReport.ToldIn r.settings) r.run.1.workspaces phases :=
  course.reports.imp fun _ _ told =>
    ⟨told.2.concerns, told.1.1, told.1.2, told.2.eventsOf_eq⟩

/-- Every step of the report is announced exactly once. -/
lemma finished_perm (course : Course r probing provisioning phases) :
    (r.run.2.events.filterMap Event.finished?).Perm
      (r.run.1.workspaces.flatMap fun w => w.steps.map fun o => (w.workspaceId, o)) := by
  have first : (r.run.1.workspaces.flatMap openingEvents).filterMap Event.finished? =
      r.run.1.workspaces.flatMap fun w => w.firstSteps.map fun o => (w.workspaceId, o) := by
    rw [List.filterMap_flatMap]
    congr 1
    funext w
    rw [openingEvents, List.filterMap_cons_none rfl, List.filterMap_map]
    exact congrFun List.filterMap_eq_map' w.firstSteps
  have later : (phases.map eventsOf).flatten.filterMap Event.finished? =
      r.run.1.workspaces.flatMap fun w => w.laterSteps.map fun o => (w.workspaceId, o) := by
    have exercised := course.exercised
    clear course first
    generalize r.run.1.workspaces = workspaces at exercised ⊢
    induction exercised with
    | nil => rfl
    | cons phase _ ih =>
      rw [List.map_cons, List.flatten_cons, List.filterMap_append, phase.finished_eq, ih]
      rfl
  have steps : (r.run.1.workspaces.flatMap fun w => w.steps.map fun o => (w.workspaceId, o)) =
      r.run.1.workspaces.flatMap fun w => (w.firstSteps.map fun o => (w.workspaceId, o)) ++
        w.laterSteps.map fun o => (w.workspaceId, o) := by
    refine List.flatMap_congr fun w member => ?_
    rw [← List.map_append, ← course.steps_eq w member]
  -- the events have the first steps of all workspaces before the later ones, the report has not
  rw [course.events_eq, List.filterMap_append, first, later, steps]
  exact List.flatMap_append_perm _ _ _

lemma attended (course : Course r probing provisioning phases) : Attended r.run.2.events := by
  rw [course.events_eq]
  refine Attended.append (attended_of_no_wait fun id app member => ?_)
    (attended_phases course.exercised)
  obtain ⟨w, _, opening⟩ := List.mem_flatMap.mp member
  simp [openingEvents] at opening

end Course

/-- The events of a run are the creation of workspaces in order, each with its first steps, and then
the events of their phases, which are told by the later steps of the report. So every step of the
report is announced exactly once, with its outcome, and whatever is waited for in a workspace, a
step of it is announced before any event of another. -/
theorem Run.events_tell_the_report (r : Run) :
    (∃ opening phases, r.Goes {} (opening ++ phases.flatten) r.run.2 ∧
      createdBy opening = r.run.1.workspaces.map WorkspaceReport.workspaceId ∧
      eventsOf opening = r.run.1.workspaces.flatMap openingEvents ∧
      List.Forall₂ (WorkspaceReport.ToldIn r.settings) r.run.1.workspaces phases) ∧
    (r.run.2.events.filterMap Event.finished?).Perm
      (r.run.1.workspaces.flatMap fun w => w.steps.map fun o => (w.workspaceId, o)) ∧
    Attended r.run.2.events := by
  obtain ⟨probing, provisioning, phases, course⟩ := r.exists_course
  exact ⟨⟨_, phases, course.goes, course.createdBy_opening, course.eventsOf_opening, course.told⟩,
    course.finished_perm, course.attended⟩

end Shakedown.Load
