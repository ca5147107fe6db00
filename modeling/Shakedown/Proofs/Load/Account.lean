import Shakedown.Proofs.Load.Course

/-!
A load run accounts for every workspace and every step.

Each attempt to create a workspace ends in a failure or in a report, and the reports stand in the
order in which the workspaces were created. Which steps a report holds is decided by the settings
and by whether WDS is found ready in the phase of the workspace, and by nothing else: no step that
fails takes another one away.
-/

namespace Shakedown.Load

/-- The names of the steps in the phase of a workspace, in which WDS came up or did not. -/
def laterNames (s : LoadSettings) (wdsUp : Bool) : List String :=
  if !Run.needsWds s then []
  else if wdsUp then
    (if s.wdsUpload then ["tsv upload"] else []) ++
      ((if s.recordRoundtrip then ["record round trip"] else []) ++
        if s.cbasSubmitWorkflow then ["workflow submission"] else [])
  else ["wds ready"]

/-- The names of all steps of a workspace. -/
def stepNames (s : LoadSettings) (wdsUp : Bool) : List String :=
  (if s.enableCbas then ["cbas request"] else []) ++ laterNames s wdsUp

/-- WDS of the workspace is found ready in the course of the deeds. -/
def wdsUp (id : String) (deeds : List Deed) : Bool :=
  (foundBy deeds).any fun found => found.1 = id && found.2.1 = .wds

/-- The report of a workspace accounts for its phase. -/
structure WorkspaceReport.Accounts (s : LoadSettings) (w : WorkspaceReport) (phase : List Deed) :
    Prop where
  own : ∀ deed ∈ phase, deed.Concerns w.workspaceId
  names_eq : w.steps.map (fun o => o.step.name) = stepNames s (wdsUp w.workspaceId phase)
  unready_last : ∀ o ∈ w.steps, o.step.name = "wds ready" →
    o.succeeded = false ∧ w.steps.getLast? = some o

lemma StepOutcome.succeeded_iff (o : StepOutcome) :
    o.succeeded = true ↔ ∃ detail, o.result = .ok detail := by
  unfold succeeded
  cases o.result <;> simp

lemma Report.succeeded_iff (report : Report) :
    report.succeeded = true ↔ report.creationFailures = [] ∧
      ∀ w ∈ report.workspaces, ∀ o ∈ w.steps, ∃ detail, o.result = .ok detail := by
  simp only [succeeded, WorkspaceReport.succeeded, Bool.and_eq_true, List.isEmpty_iff,
    List.all_eq_true, StepOutcome.succeeded_iff]

section Phases
variable {r : Run} {id : String} {deeds : List Deed} {later : List StepOutcome}

lemma Takes.map_name {wanted : Bool} {kind : Step} {acts : List Deed → Option String → Prop}
    {steps : List StepOutcome} (takes : Takes wanted id kind acts deeds steps) :
    steps.map (fun o => o.step.name) = if wanted then [kind.name] else [] := by
  cases takes with
  | skipped unwanted => rw [unwanted]; rfl
  | taken asked _ => rw [asked]; rfl

lemma foundBy_announced (event : Event) (deeds : List Deed) :
    foundBy (.announced event :: deeds) = foundBy deeds := rfl

/-- The settings and what became of WDS decide the steps of a phase. -/
lemma Phase.names_eq (phase : Phase r id deeds later) :
    later.map (fun o => o.step.name) = laterNames r.settings (wdsUp id deeds) := by
  cases phase with
  | idle unneeded => simp only [laterNames, unneeded, Bool.not_false, if_true, List.map_nil]
  | @unready waiting fault needed waited =>
    have down : wdsUp id (.announced (.waiting id .wds) ::
        (waiting ++ [.announced (.stepFinished id (.of .wdsReady (.error fault)))])) = false := by
      rw [wdsUp, foundBy_announced, foundBy_append, waited.foundBy_eq]
      rfl
    rw [laterNames, needed, down]
    rfl
  | @ready waiting _ _ _ _ _ _ _ needed waited uploaded tripped submitted =>
    have up (rest : List Deed) :
        wdsUp id (.announced (.waiting id .wds) :: (waiting ++ rest)) = true := by
      rw [wdsUp, foundBy_announced, foundBy_append, waited.foundBy_eq]
      simp
    rw [laterNames, needed, up, List.map_append, List.map_append, uploaded.map_name,
      tripped.map_name, submitted.map_name]
    rfl

/-- The step of an unready WDS is a failure, and the last thing that is done for its workspace. -/
lemma Phase.unready_last (phase : Phase r id deeds later) {o : StepOutcome} (member : o ∈ later)
    (unready : o.step = .wdsReady) : o.succeeded = false ∧ later = [o] ∧
      ∃ waiting, Waits r id .wds waiting none ∧ deeds =
        .announced (.waiting id .wds) :: waiting ++ [.announced (.stepFinished id o)] := by
  cases phase with
  | idle => cases member
  | unready fault _ waited =>
    rw [List.mem_singleton.mp member]
    exact ⟨rfl, rfl, _, waited, rfl⟩
  | ready _ _ uploaded tripped submitted =>
    rw [List.mem_append, List.mem_append] at member
    rcases member with member | member | member
    · rw [uploaded.step_eq member] at unready
      cases unready
    · rw [tripped.step_eq member] at unready
      cases unready
    · rw [submitted.step_eq member] at unready
      cases unready

end Phases

section Opening
variable {r : Run} {deeds : List Deed} {failures : List String} {created : List WorkspaceReport}

/-- What concerns a workspace creates none. -/
lemma createdBy_of_concerns {id : String} (concern : ∀ deed ∈ deeds, deed.Concerns id) :
    createdBy deeds = [] := by
  refine List.filterMap_eq_nil_iff.mpr fun deed member => ?_
  have own := concern deed member
  cases deed with
  | call errand request exchange =>
    cases errand with
    | creation => cases own
    | _ => rfl
  | _ => rfl

/-- The workspaces created are those that answers to their creation name, in order. -/
lemma Provisions.createdBy_eq (provisions : Provisions r deeds failures created) :
    createdBy deeds = created.map WorkspaceReport.workspaceId := by
  have creates {deeds : List Deed} {named : Option String}
      (asked : r.Calls .creation (·.created?) deeds named) : createdBy deeds = named.toList :=
    asked.filterMap_eq (fun named => named) rfl fun _ _ => rfl
  induction provisions with
  | done => rfl
  | refused message asked _ ih => rw [createdBy_append, creates asked, ih]; rfl
  | @granted _ requesting _ id _ _ _ asked requested _ ih =>
    have quiet : createdBy requesting = [] :=
      createdBy_of_concerns (requested.forall_deeds
        (fun _ _ acted => acted.silent.concerns fun _ same => same ▸ rfl) fun _ => rfl)
    have announced (rest : List Deed) :
        createdBy (.announced (.created id) :: rest) = createdBy rest := rfl
    rw [createdBy_append, creates asked, announced, createdBy_append, quiet, ih]
    rfl

lemma Provisions.map_name (provisions : Provisions r deeds failures created) :
    ∀ w ∈ created, w.steps.map (fun o => o.step.name) =
      if r.settings.enableCbas then ["cbas request"] else [] := by
  induction provisions with
  | done => intro w member; cases member
  | refused _ _ _ ih => exact ih
  | granted _ requested _ ih =>
    rw [List.forall_mem_cons]
    exact ⟨requested.map_name, ih⟩

end Opening

lemma createdBy_phases {r : Run} {workspaces : List WorkspaceReport} {phases : List (List Deed)}
    (exercised : List.Forall₂ (fun w deeds => Phase r w.workspaceId deeds w.laterSteps)
      workspaces phases) : createdBy phases.flatten = [] := by
  induction exercised with
  | nil => rfl
  | cons phase _ ih =>
    rw [List.flatten_cons, createdBy_append, createdBy_of_concerns phase.concerns, ih]
    rfl

namespace Course
variable {r : Run} {probing provisioning : List Deed} {phases : List (List Deed)}

lemma createdBy_eq (course : Course r probing provisioning phases) :
    createdBy (probing ++ provisioning ++ phases.flatten) =
      r.run.1.workspaces.map WorkspaceReport.workspaceId := by
  have probe : createdBy probing = [] := by
    rcases course.probed.deeds_eq with rfl | ⟨request, exchange, rfl⟩
    · rfl
    · rfl
  rw [createdBy_append, createdBy_append, probe, createdBy_phases course.exercised,
    course.provisioned.createdBy_eq, List.map_map, List.nil_append, List.append_nil]
  rfl

/-- Every report puts the steps of its phase after those of its creation. -/
lemma reports (course : Course r probing provisioning phases) :
    List.Forall₂ (fun w deeds => (w.steps = w.firstSteps ++ w.laterSteps ∧
      w.firstSteps.map (fun o => o.step.name) =
        if r.settings.enableCbas then ["cbas request"] else []) ∧
      Phase r w.workspaceId deeds w.laterSteps) r.run.1.workspaces phases := by
  refine (List.forall₂_and_left _ _).mpr ⟨fun w member => ⟨course.steps_eq w member, ?_⟩,
    course.exercised⟩
  exact course.provisioned.map_name w.opened (List.mem_map_of_mem member)

/-- Every report accounts for its phase. -/
lemma accounts (course : Course r probing provisioning phases) :
    List.Forall₂ (WorkspaceReport.Accounts r.settings) r.run.1.workspaces phases := by
  refine course.reports.imp ?_
  rintro w deeds ⟨⟨steps_eq, names⟩, phase⟩
  refine ⟨phase.concerns, ?_, fun o member named => ?_⟩
  · rw [steps_eq, List.map_append, names, phase.names_eq, stepNames]
  · have unready : o.step = .wdsReady := by
      revert named
      cases o.step <;> decide
    have later : o ∈ w.laterSteps := by
      rw [WorkspaceReport.laterSteps, List.mem_filter, unready]
      exact ⟨member, rfl⟩
    obtain ⟨failed, alone, _⟩ := phase.unready_last later unready
    rw [steps_eq, alone]
    exact ⟨failed, List.getLast?_concat⟩

end Course

/-- Failures to create a workspace and reports add up to the number of workspaces asked for, and
the reports stand in the order of creation. Every report accounts for its phase. The run is a
success just if nothing in the report failed. -/
theorem Run.every_step_accounted (r : Run) :
    r.run.1.creationFailures.length + r.run.1.workspaces.length =
      r.settings.workspaceCount.toNat ∧
    (∃ opening phases, r.Goes {} (opening ++ phases.flatten) r.run.2 ∧
      createdBy (opening ++ phases.flatten) =
        r.run.1.workspaces.map WorkspaceReport.workspaceId ∧
      List.Forall₂ (WorkspaceReport.Accounts r.settings) r.run.1.workspaces phases) ∧
    (r.run.1.succeeded = true ↔ r.run.1.creationFailures = [] ∧
      ∀ w ∈ r.run.1.workspaces, ∀ o ∈ w.steps, ∃ detail, o.result = .ok detail) := by
  obtain ⟨probing, provisioning, phases, course⟩ := r.exists_course
  exact ⟨course.count_eq, ⟨_, phases, course.goes, course.createdBy_eq, course.accounts⟩,
    r.run.1.succeeded_iff⟩

end Shakedown.Load
