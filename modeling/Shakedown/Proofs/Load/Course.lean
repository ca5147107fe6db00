import Mathlib.Data.List.Forall2
import Shakedown.Proofs.Load.Pieces

/-!
The course of a load run.

Each function of a run goes on by the deeds of its piece, whatever is answered. So every run takes
one course: the probe, then the creation of all workspaces, then the phases of those created, one
after the other.
-/

namespace Shakedown.Load

/-- The phases of workspaces in turn, and the reports with the steps that come of them. -/
inductive Exercises (r : Run) :
    List WorkspaceReport → List (List Deed) → List WorkspaceReport → Prop
  | done : Exercises r [] [] []
  | next {w : WorkspaceReport} {deeds : List Deed} {later : List StepOutcome}
      {rest reports : List WorkspaceReport} {phases : List (List Deed)}
      (phase : Phase r w.workspaceId deeds later) (others : Exercises r rest phases reports) :
      Exercises r (w :: rest) (deeds :: phases) (⟨w.workspaceId, w.steps ++ later⟩ :: reports)

namespace WorkspaceReport

/-- The steps taken when the workspace was created. -/
def firstSteps (w : WorkspaceReport) : List StepOutcome :=
  w.steps.filter fun o => o.step = .cbasRequest

/-- The steps taken in the phase of the workspace. -/
def laterSteps (w : WorkspaceReport) : List StepOutcome :=
  w.steps.filter fun o => o.step ≠ .cbasRequest

/-- The report as it stands once all workspaces are created. -/
def opened (w : WorkspaceReport) : WorkspaceReport := ⟨w.workspaceId, w.firstSteps⟩

variable {id : String} {first later : List StepOutcome}

lemma firstSteps_append (at_first : ∀ o ∈ first, o.step = .cbasRequest)
    (at_last : ∀ o ∈ later, o.step ≠ .cbasRequest) :
    firstSteps ⟨id, first ++ later⟩ = first := by
  have all : first.filter (fun o => o.step = .cbasRequest) = first :=
    List.filter_eq_self.mpr fun o member => decide_eq_true (at_first o member)
  have none_left : later.filter (fun o => o.step = .cbasRequest) = [] :=
    List.filter_eq_nil_iff.mpr fun o member => by simp [at_last o member]
  rw [firstSteps, List.filter_append, all, none_left, List.append_nil]

lemma laterSteps_append (at_first : ∀ o ∈ first, o.step = .cbasRequest)
    (at_last : ∀ o ∈ later, o.step ≠ .cbasRequest) :
    laterSteps ⟨id, first ++ later⟩ = later := by
  have none_yet : first.filter (fun o => o.step ≠ .cbasRequest) = [] :=
    List.filter_eq_nil_iff.mpr fun o member => by simp [at_first o member]
  have all : later.filter (fun o => o.step ≠ .cbasRequest) = later :=
    List.filter_eq_self.mpr fun o member => decide_eq_true (at_last o member)
  rw [laterSteps, List.filter_append, none_yet, all, List.nil_append]

end WorkspaceReport

/-- Phases leave the first steps of each workspace as they are and put their own after them. -/
lemma Exercises.unfold {r : Run} {created reports : List WorkspaceReport}
    {phases : List (List Deed)} (exercises : Exercises r created phases reports)
    (at_first : ∀ w ∈ created, ∀ o ∈ w.steps, o.step = .cbasRequest) :
    created = reports.map WorkspaceReport.opened ∧
      (∀ w ∈ reports, w.steps = w.firstSteps ++ w.laterSteps) ∧
      List.Forall₂ (fun w deeds => Phase r w.workspaceId deeds w.laterSteps) reports phases := by
  induction exercises with
  | done => exact ⟨rfl, by simp, .nil⟩
  | @next w deeds later rest reports phases phase _ ih =>
    obtain ⟨created_eq, steps_eq, in_phases⟩ :=
      ih fun w member => at_first w (List.mem_cons_of_mem _ member)
    have first_eq : WorkspaceReport.firstSteps ⟨w.workspaceId, w.steps ++ later⟩ = w.steps :=
      WorkspaceReport.firstSteps_append (at_first w List.mem_cons_self) fun _ => phase.step_ne
    have later_eq : WorkspaceReport.laterSteps ⟨w.workspaceId, w.steps ++ later⟩ = later :=
      WorkspaceReport.laterSteps_append (at_first w List.mem_cons_self) fun _ => phase.step_ne
    refine ⟨?_, ?_, .cons ?_ in_phases⟩
    · rw [List.map_cons, ← created_eq, WorkspaceReport.opened, first_eq]
    · intro report member
      rcases List.mem_cons.mp member with rfl | member
      · rw [first_eq, later_eq]
      · exact steps_eq report member
    · rw [later_eq]
      exact phase

/-- A whole run: the probe, the creation of workspaces, and their phases. -/
structure Course (r : Run) (probing provisioning : List Deed) (phases : List (List Deed)) :
    Prop where
  goes : r.Goes {} (probing ++ provisioning ++ phases.flatten) r.run.2
  probed : r.Calls .probe (fun x => x.answer?.map Http.Answer.status) probing r.run.1.probeStatus
  provisioned : Provisions r provisioning r.run.1.creationFailures
    (r.run.1.workspaces.map WorkspaceReport.opened)
  count_eq : r.run.1.creationFailures.length + r.run.1.workspaces.length =
    r.settings.workspaceCount.toNat
  steps_eq : ∀ w ∈ r.run.1.workspaces, w.steps = w.firstSteps ++ w.laterSteps
  exercised : List.Forall₂ (fun w deeds => Phase r w.workspaceId deeds w.laterSteps)
    r.run.1.workspaces phases

namespace Run
variable (r : Run) (id : String)

lemma waitFor_does (app : App) : r.Does (r.waitFor id app) fun deeds result =>
    Waits r id app deeds result.toOption := by
  intro t
  unfold waitFor App.wait
  generalize (0 : UInt32) = attempt, (0 : UInt64) = waited
  fun_induction App.waitFrom app id r.settings.readiness (fun s t => t.sleep s)
    (r.client.appState id app) attempt waited t with
  | case1 attempt waited t fault next polled =>
    obtain ⟨deeds, goes, calls⟩ := appState_does r id app t
    rw [polled] at goes calls
    exact ⟨deeds, goes, .ended calls rfl⟩
  | case2 attempt waited t url next polled =>
    obtain ⟨deeds, goes, calls⟩ := appState_does r id app t
    rw [polled] at goes calls
    exact ⟨deeds, goes, .ready calls⟩
  | case3 attempt waited t state next unready polled inTime delay ih =>
    obtain ⟨deeds, goes, calls⟩ := appState_does r id app t
    rw [polled] at goes calls
    obtain ⟨later, on, waits⟩ := ih
    exact ⟨deeds ++ .slept delay :: later, goes.trans ((Goes.sleep delay).trans on),
      .again delay calls (AppState.url?_eq_none unready) waits⟩
  | case4 attempt waited t state next unready polled =>
    obtain ⟨deeds, goes, calls⟩ := appState_does r id app t
    rw [polled] at goes calls
    exact ⟨deeds, goes, .ended calls (AppState.url?_eq_none unready)⟩

lemma roundTrip_does (wdsUrl : String) : r.Does (r.roundTrip wdsUrl id) fun deeds result =>
    RoundTrips r id wdsUrl deeds result.toOption := by
  intro t
  unfold roundTrip
  simp only [Trace.draw]
  generalize Record.probe "smoke_probe" (r.client.world.ids t.drawn).text = record
  obtain ⟨writing, goes, wrote⟩ := putRecord_does r id wdsUrl record t.draw.2
  generalize put : r.client.putRecord wdsUrl id record t.draw.2 = written at goes wrote
  obtain ⟨result, next⟩ := written
  simp only [Trace.draw] at put
  rw [put]
  cases result with
  | error fault => exact ⟨writing, goes.draw, .unwritten wrote⟩
  | ok done =>
    cases done
    obtain ⟨reading, on, read⟩ := getRecord_does r id wdsUrl record next
    simp only [toOption_bind]
    exact ⟨writing ++ reading, goes.draw.trans on, .read wrote read⟩

lemma submit_does (wdsUrl : String) : r.Does (r.submit wdsUrl id) fun deeds result =>
    Submits r id wdsUrl deeds result.toOption := by
  intro t
  obtain ⟨uploading, goes, uploaded⟩ := uploadTsv_does r id wdsUrl .workflow t
  generalize upload : r.client.uploadTsv wdsUrl id (Cargo.workflow.recordType r.settings)
    (Cargo.workflow.file r.settings) t = given at goes uploaded
  obtain ⟨result, next⟩ := given
  simp only [Cargo.recordType, Cargo.file] at upload
  unfold submit
  rw [upload]
  cases result with
  | error fault => exact ⟨uploading, goes, .notUploaded uploaded⟩
  | ok json =>
    obtain ⟨waiting, on, waited⟩ := waitFor_does r id .cbas (next.announce (.waiting id .cbas))
    have onward := (Goes.announce (.waiting id .cbas)).trans on
    generalize wait : r.waitFor id .cbas (next.announce (.waiting id .cbas)) = given
      at on onward waited
    obtain ⟨result, last⟩ := given
    simp only [wait]
    cases result with
    | error fault => exact ⟨_, goes.trans onward, .notReady uploaded waited⟩
    | ok url =>
      obtain ⟨asking, further, asked⟩ := submitWorkflow_does r id url r.settings.workflowRequest last
      simp only [toOption_map]
      exact ⟨_, goes.trans (onward.trans further), .asked uploaded waited asked⟩

/-- A step goes on by the deeds of its act. -/
lemma step_does {act : Trace → Except Fault String × Trace}
    {acts : List Deed → Option String → Prop} (wanted : Bool) (kind : Step)
    (does : r.Does act fun deeds result => acts deeds result.toOption)
    (steps : List StepOutcome) :
    r.Does (step wanted id kind act steps) fun deeds after =>
      ∃ later, after = steps ++ later ∧ Takes wanted id kind acts deeds later := by
  intro t
  cases wanted with
  | false => exact ⟨[], .nothing rfl, [], (List.append_nil steps).symm, .skipped rfl⟩
  | true =>
    obtain ⟨deeds, goes, acted⟩ := does t
    exact ⟨_, goes.trans (.announce _), _, rfl, .taken rfl acted⟩

lemma upload_does (wdsUrl : String) : r.Does (r.upload wdsUrl id) fun deeds result =>
    Uploads r id wdsUrl deeds result.toOption := by
  intro t
  obtain ⟨deeds, goes, uploaded⟩ := uploadTsv_does r id wdsUrl .data t
  unfold upload
  simp only [toOption_map]
  exact ⟨deeds, goes, .asked uploaded⟩

/-- The steps after those already taken, and the deeds of the phase they come from. -/
lemma exercise_does (steps : List StepOutcome) :
    r.Does (r.exercise id steps) fun deeds after =>
      ∃ later, after = steps ++ later ∧ Phase r id deeds later := by
  intro t
  unfold exercise
  cases needed : needsWds r.settings with
  | false => exact ⟨[], .nothing rfl, [], (List.append_nil steps).symm, .idle needed⟩
  | true =>
    obtain ⟨waiting, goes, waited⟩ := waitFor_does r id .wds (t.announce (.waiting id .wds))
    have outset := (Goes.announce (.waiting id .wds)).trans goes
    generalize wait : r.waitFor id .wds (t.announce (.waiting id .wds)) = given at outset waited
    obtain ⟨result, next⟩ := given
    simp only [Bool.not_true, Bool.false_eq_true, if_false]
    cases result with
    | error fault =>
      simp only [finishStep]
      exact ⟨_, outset.trans (.announce _), _, rfl, .unready fault needed waited⟩
    | ok wdsUrl =>
      simp only
      -- each of the three steps goes on from the trace and the steps that the one before has left
      obtain ⟨uploading, first, uploads, uploads_eq, uploaded⟩ :=
        step_does r id r.settings.wdsUpload .tsvUpload (upload_does r id wdsUrl) steps next
      generalize step r.settings.wdsUpload id .tsvUpload (r.upload wdsUrl id) steps next =
        given at first uploads_eq
      obtain ⟨steps₁, t₁⟩ := given
      obtain rfl : steps₁ = _ := uploads_eq
      obtain ⟨tripping, second, trips, trips_eq, tripped⟩ := step_does r id
        r.settings.recordRoundtrip .recordRoundTrip (roundTrip_does r id wdsUrl) (steps ++ uploads) t₁
      generalize step r.settings.recordRoundtrip id .recordRoundTrip (r.roundTrip wdsUrl id)
        (steps ++ uploads) t₁ = given at second trips_eq
      obtain ⟨steps₂, t₂⟩ := given
      obtain rfl : steps₂ = _ := trips_eq
      obtain ⟨submitting, third, submissions, submissions_eq, submitted⟩ := step_does r id
        r.settings.cbasSubmitWorkflow .workflowSubmission (submit_does r id wdsUrl)
        (steps ++ uploads ++ trips) t₂
      refine ⟨_, outset.trans (first.trans (second.trans third)), _, ?_,
        .ready needed waited uploaded tripped submitted⟩
      rw [submissions_eq, List.append_assoc, List.append_assoc]

/-- Workspaces are put to use in phases, one for each. -/
lemma exerciseAll_does (created : List WorkspaceReport) :
    r.Does (r.exerciseAll created) fun deeds reports =>
      ∃ phases, deeds = phases.flatten ∧ Exercises r created phases reports := by
  induction created with
  | nil => exact fun t => ⟨[], .nothing rfl, [], rfl, .done⟩
  | cons w rest ih =>
    intro t
    obtain ⟨deeds, goes, later, steps_eq, phase⟩ := exercise_does r w.workspaceId w.steps t
    obtain ⟨_, on, phases, rfl, others⟩ := ih (r.exercise w.workspaceId w.steps t).2
    refine ⟨_, goes.trans on, deeds :: phases, rfl, ?_⟩
    simp only [exerciseAll, steps_eq]
    exact .next phase others

lemma requestApp_does : r.Does (r.requestApp id) fun deeds steps =>
    Takes r.settings.enableCbas id .cbasRequest (RequestsApp r id) deeds steps := by
  intro t
  unfold requestApp
  cases wanted : r.settings.enableCbas with
  | false => exact ⟨[], .nothing rfl, .skipped rfl⟩
  | true =>
    obtain ⟨deeds, goes, requested⟩ := requestCbas_does r id t
    simp only [if_true, finishStep]
    have acted : RequestsApp r id deeds
        ((r.client.requestCbas id t).1.map fun _ => "requested").toOption := by
      rw [toOption_map]
      exact .asked requested
    exact ⟨_, goes.trans (.announce _), .taken rfl acted⟩

lemma createWorkspaces_of_refused {t next : Trace} {fault : Fault}
    (refused : r.client.createWorkspace r.credentials.billingProject t = (.error fault, next))
    (count : Nat) (report : Report) :
    r.createWorkspaces (count + 1) report t = r.createWorkspaces count
      { report with creationFailures := report.creationFailures ++ [fault.message] } next := by
  rw [createWorkspaces.eq_def]
  simp only [refused]

lemma createWorkspaces_of_granted {t next last : Trace} {id : String} {steps : List StepOutcome}
    (granted : r.client.createWorkspace r.credentials.billingProject t = (.ok id, next))
    (requested : r.requestApp id (next.announce (.created id)) = (steps, last))
    (count : Nat) (report : Report) :
    r.createWorkspaces (count + 1) report t = r.createWorkspaces count
      { report with workspaces := report.workspaces ++ [⟨id, steps⟩] } last := by
  rw [createWorkspaces.eq_def]
  simp only [granted, requested]

/-- Every turn of the creation ends in one more failure or one more workspace. -/
lemma createWorkspaces_does (count : Nat) (report : Report) :
    r.Does (r.createWorkspaces count report) fun deeds after => ∃ failures created,
      after = { report with
        creationFailures := report.creationFailures ++ failures
        workspaces := report.workspaces ++ created } ∧
      failures.length + created.length = count ∧ Provisions r deeds failures created := by
  induction count generalizing report with
  | zero =>
    intro t
    have still : r.createWorkspaces 0 report t = (report, t) := by rw [createWorkspaces.eq_def]
    rw [still]
    exact ⟨[], .nothing rfl, [], [], by simp only [List.append_nil], rfl, .done⟩
  | succ count ih =>
    intro t
    obtain ⟨creating, goes, asked⟩ := createWorkspace_does r t
    generalize made : r.client.createWorkspace r.credentials.billingProject t = given at goes asked
    obtain ⟨result, next⟩ := given
    cases result with
    | error fault =>
      obtain ⟨later, on, failures, created, after_eq, count_eq, others⟩ := ih
        { report with creationFailures := report.creationFailures ++ [fault.message] } next
      rw [createWorkspaces_of_refused r made, after_eq]
      refine ⟨_, goes.trans on, fault.message :: failures, created, ?_, ?_,
        .refused fault.message asked others⟩
      · simp only [List.append_assoc, List.singleton_append]
      · rw [List.length_cons]
        omega
    | ok id =>
      obtain ⟨requesting, first, requested⟩ := requestApp_does r id (next.announce (.created id))
      have outset := (Goes.announce (.created id)).trans first
      generalize app : r.requestApp id (next.announce (.created id)) = given at outset requested
      obtain ⟨steps, last⟩ := given
      obtain ⟨later, on, failures, created, after_eq, count_eq, others⟩ := ih
        { report with workspaces := report.workspaces ++ [⟨id, steps⟩] } last
      rw [createWorkspaces_of_granted r made app, after_eq]
      refine ⟨_, goes.trans (outset.trans on), failures, ⟨id, steps⟩ :: created, ?_, ?_,
        .granted asked requested others⟩
      · simp only [List.append_assoc, List.singleton_append]
      · rw [List.length_cons]
        omega

/-- Every run takes its course. -/
lemma exists_course : ∃ probing provisioning phases, Course r probing provisioning phases := by
  obtain ⟨probing, goes, probed⟩ := probe_does r {}
  obtain ⟨provisioning, on, failures, created, after_eq, count_eq, provisioned⟩ :=
    createWorkspaces_does r r.settings.workspaceCount.toNat
      { probeStatus := (r.client.probe {}).1.toOption } (r.client.probe {}).2
  obtain ⟨_, further, phases, rfl, exercised⟩ := exerciseAll_does r created
    (r.createWorkspaces r.settings.workspaceCount.toNat
      { probeStatus := (r.client.probe {}).1.toOption } (r.client.probe {}).2).2
  obtain ⟨created_eq, steps_eq, in_phases⟩ := exercised.unfold provisioned.step_eq
  refine ⟨probing, provisioning, phases, ?_, ?_, ?_, ?_, ?_, ?_⟩
  all_goals simp only [run, after_eq, List.nil_append]
  · exact (goes.trans on).trans further
  · exact probed
  · rw [← created_eq]
    exact provisioned
  · have lengths := congrArg List.length created_eq
    rw [List.length_map] at lengths
    rw [← lengths]
    exact count_eq
  · exact steps_eq
  · exact in_phases

end Run
end Shakedown.Load
