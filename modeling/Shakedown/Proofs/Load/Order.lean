import Shakedown.Proofs.Load.Story

/-!
The order of the requests of a load run.

The probe comes first, then the creation of workspaces and the requests for their apps, and then the
phases of the workspaces, one after the other. Within a phase every request is permitted by what came
before it: nothing is brought to a data service that has not been found ready, no record is read that
has not been written, and no workflow is submitted whose data have not been brought. Every request
carries the token of the run.
-/

namespace Shakedown.Load

/-- Nothing has been asked yet but whether WDS is ready, and it was not. -/
def StillWaiting (id : String) (before : List Deed) : Prop :=
  ∀ errand request exchange, .call errand request exchange ∈ before →
    errand = .poll id .wds ∧ ∃ state, exchange.appState? .wds = some state ∧ state.url? = none

/-- The workflow's data have been brought. -/
def WorkflowBrought (id : String) (before : List Deed) : Prop :=
  ∃ wdsUrl request exchange, .call (.upload id wdsUrl .workflow) request exchange ∈ before ∧
    exchange.json?.isSome = true

/-- The requests that are permitted in the phase of a workspace after the deeds before. -/
inductive Permitted (id : String) (before : List Deed) : Errand → Http.Request → Prop
  | pollWds {request : Http.Request} (waiting : StillWaiting id before) :
      Permitted id before (.poll id .wds) request
  | pollCbas {request : Http.Request} (brought : WorkflowBrought id before) :
      Permitted id before (.poll id .cbas) request
  | upload {wdsUrl : String} {cargo : Cargo} {request : Http.Request}
      (found : (id, .wds, wdsUrl) ∈ foundBy before) :
      Permitted id before (.upload id wdsUrl cargo) request
  | write {wdsUrl : String} {record : Record} {request : Http.Request}
      (found : (id, .wds, wdsUrl) ∈ foundBy before) :
      Permitted id before (.write id wdsUrl record) request
  | read {wdsUrl : String} {record : Record} {put request : Http.Request}
      {exchange : Http.Exchange} (found : (id, .wds, wdsUrl) ∈ foundBy before)
      (written : .call (.write id wdsUrl record) put exchange ∈ before)
      (succeeded : exchange.success?.isSome = true) (same : put.url = request.url) :
      Permitted id before (.read id wdsUrl record) request
  | submission {wdsUrl cbasUrl : String} {upload request : Http.Request}
      {exchange : Http.Exchange} {first second : List Deed}
      (brought : before = first ++ .call (.upload id wdsUrl .workflow) upload exchange :: second)
      (succeeded : exchange.json?.isSome = true) (found : (id, .cbas, cbasUrl) ∈ foundBy second) :
      Permitted id before (.submission id cbasUrl) request

/-- Each request is permitted after the deeds before it. -/
def Guarded (permits : List Deed → Errand → Http.Request → Prop) :
    (before : List Deed) → List Deed → Prop
  | _, [] => True
  | before, .call errand request exchange :: later =>
    permits before errand request ∧
      Guarded permits (before ++ [.call errand request exchange]) later
  | before, .slept seconds :: later => Guarded permits (before ++ [.slept seconds]) later
  | before, .announced event :: later => Guarded permits (before ++ [.announced event]) later

section Guarded
variable {permits : List Deed → Errand → Http.Request → Prop}

lemma guarded_append (before a b : List Deed) :
    Guarded permits before (a ++ b) ↔
      Guarded permits before a ∧ Guarded permits (before ++ a) b := by
  induction a generalizing before with
  | nil => simp [Guarded]
  | cons deed later ih =>
    have next := ih (before ++ [deed])
    rw [List.append_assoc] at next
    cases deed with
    | call errand request exchange =>
      simp only [List.cons_append, Guarded, next, and_assoc]
      rfl
    | slept seconds => exact next
    | announced event => exact next

variable {r : Run} {id wdsUrl : String} {before deeds : List Deed}

lemma guarded_of_calls {α : Type} {errand : Errand} {reads : Http.Exchange → Option α}
    {result : Option α} (calls : r.Calls errand reads deeds result)
    (permitted : ∀ request, errand.Sends r request → permits before errand request) :
    Guarded permits before deeds := by
  cases calls with
  | unsent => trivial
  | sent exchange sends => exact ⟨permitted _ sends, trivial⟩

/-- A wait keeps on polling as long as what permits it holds on. -/
lemma Waits.guarded {app : App} {result : Option String} {holds : List Deed → Prop}
    (permitted : ∀ before request, holds before → permits before (.poll id app) request)
    (polled : ∀ before request exchange state, holds before →
      exchange.appState? app = some state → state.url? = none →
        holds (before ++ [.call (.poll id app) request exchange]))
    (slept : ∀ before seconds, holds before → holds (before ++ [.slept seconds]))
    (waits : Waits r id app deeds result) (outset : holds before) :
    Guarded permits before deeds := by
  induction waits generalizing before with
  | ended poll _ => exact guarded_of_calls poll fun request _ => permitted before request outset
  | ready poll => exact guarded_of_calls poll fun request _ => permitted before request outset
  | again seconds poll unready _ ih =>
    obtain ⟨request, exchange, rfl, _, state_eq⟩ := poll.eq_of_some
    exact ⟨permitted before request outset,
      ih (slept _ seconds (polled before request exchange _ outset state_eq unready))⟩

lemma Takes.guarded {wanted : Bool} {kind : Step} {acts : List Deed → Option String → Prop}
    {steps : List StepOutcome} (takes : Takes wanted id kind acts deeds steps)
    (acted : ∀ deeds result, acts deeds result → Guarded permits before deeds) :
    Guarded permits before deeds := by
  cases takes with
  | skipped => trivial
  | taken _ acts => exact (guarded_append _ _ _).mpr ⟨acted _ _ acts, trivial⟩

end Guarded

section Phases
variable {r : Run} {id wdsUrl : String} {before deeds : List Deed} {result : Option String}

lemma mem_foundBy_append {found : String × App × String} (earlier : found ∈ foundBy before)
    (later : List Deed) : found ∈ foundBy (before ++ later) := by
  rw [foundBy_append]
  exact List.mem_append_left _ earlier

lemma Waits.wds_guarded (waits : Waits r id .wds deeds result) (outset : StillWaiting id before) :
    Guarded (Permitted id) before deeds := by
  refine waits.guarded (fun _ _ => .pollWds) ?_ ?_ outset
  · intro before request exchange state waiting state_eq unready _ _ _ member
    rcases List.mem_append.mp member with member | member
    · exact waiting _ _ _ member
    · cases List.mem_singleton.mp member
      exact ⟨rfl, state, state_eq, unready⟩
  · intro before seconds waiting errand request exchange member
    rcases List.mem_append.mp member with member | member
    · exact waiting _ _ _ member
    · cases List.mem_singleton.mp member

lemma WorkflowBrought.append (brought : WorkflowBrought id before) (later : List Deed) :
    WorkflowBrought id (before ++ later) := by
  obtain ⟨wdsUrl, request, exchange, member, succeeded⟩ := brought
  exact ⟨wdsUrl, request, exchange, List.mem_append_left _ member, succeeded⟩

lemma Waits.cbas_guarded (waits : Waits r id .cbas deeds result)
    (brought : WorkflowBrought id before) : Guarded (Permitted id) before deeds :=
  waits.guarded (fun _ _ => .pollCbas) (fun _ _ _ _ brought _ _ => brought.append _)
    (fun _ _ brought => brought.append _) brought

lemma Uploads.guarded (uploads : Uploads r id wdsUrl deeds result)
    (found : (id, .wds, wdsUrl) ∈ foundBy before) : Guarded (Permitted id) before deeds := by
  cases uploads with
  | asked uploaded => exact guarded_of_calls uploaded fun _ _ => .upload found

/-- A record is read from where it was written. -/
lemma sends_same_url {record : Record} {put get : Http.Request}
    (written : (Errand.write id wdsUrl record).Sends r put)
    (read : (Errand.read id wdsUrl record).Sends r get) : put.url = get.url := by
  obtain ⟨draft, drafts, sent⟩ := written
  obtain ⟨draft', drafts', sent'⟩ := read
  rw [Http.Request.eq_separateUser_of_prepare sent, Http.Request.eq_separateUser_of_prepare sent']
  refine Http.Request.separateUser_url_congr ?_
  cases drafts with
  | write at_url =>
    cases drafts' with
    | read at_url' => exact Except.ok.inj (at_url.symm.trans at_url')

lemma RoundTrips.guarded (trips : RoundTrips r id wdsUrl deeds result)
    (found : (id, .wds, wdsUrl) ∈ foundBy before) : Guarded (Permitted id) before deeds := by
  cases trips with
  | unwritten written => exact guarded_of_calls written fun _ _ => .write found
  | read written read =>
    refine (guarded_append _ _ _).mpr ⟨guarded_of_calls written fun _ _ => .write found, ?_⟩
    obtain ⟨put, exchange, rfl, sent, answered⟩ := written.eq_of_some
    refine guarded_of_calls read fun get sends => ?_
    exact .read (mem_foundBy_append found _) (List.mem_append_right _ (List.mem_singleton_self _))
      (by simpa using congrArg Option.isSome answered) (sends_same_url sent sends)

lemma Submits.guarded (submits : Submits r id wdsUrl deeds result)
    (found : (id, .wds, wdsUrl) ∈ foundBy before) : Guarded (Permitted id) before deeds := by
  have brought (request : Http.Request) (exchange : Http.Exchange) (json : Json)
      (answered : exchange.json? = some json) : WorkflowBrought id (before ++
        [.call (.upload id wdsUrl .workflow) request exchange] ++
          [.announced (.waiting id .cbas)]) :=
    ⟨wdsUrl, request, exchange, by simp, by rw [answered]; rfl⟩
  cases submits with
  | notUploaded uploaded => exact guarded_of_calls uploaded fun _ _ => .upload found
  | notReady uploaded waited =>
    obtain ⟨upload, exchange, rfl, _, answered⟩ := uploaded.eq_of_some
    exact ⟨.upload found, waited.cbas_guarded (brought upload exchange _ answered)⟩
  | @asked _ waiting asking _ url _ uploaded waited asked =>
    obtain ⟨upload, exchange, rfl, _, answered⟩ := uploaded.eq_of_some
    have cbas_found : (id, App.cbas, url) ∈
        foundBy (.announced (.waiting id .cbas) :: waiting) := by
      rw [foundBy_announced, waited.foundBy_eq]
      exact List.mem_singleton_self _
    have split : before ++ [.call (.upload id wdsUrl .workflow) upload exchange] ++
        [.announced (.waiting id .cbas)] ++ waiting =
        before ++ .call (.upload id wdsUrl .workflow) upload exchange ::
          (.announced (.waiting id .cbas) :: waiting) := by
      simp only [List.append_assoc, List.cons_append, List.nil_append]
    have onward := (guarded_append _ waiting asking).mpr
      ⟨waited.cbas_guarded (brought upload exchange _ answered),
        guarded_of_calls asked fun _ _ => .submission split (by rw [answered]; rfl) cbas_found⟩
    exact ⟨.upload found, onward⟩

/-- Every request of a phase is permitted. -/
lemma Phase.guarded {later : List StepOutcome} (phase : Phase r id deeds later) :
    Guarded (Permitted id) [] deeds := by
  have outset : StillWaiting id [.announced (.waiting id .wds)] := by
    intro errand request exchange member
    cases List.mem_singleton.mp member
  cases phase with
  | idle => trivial
  | unready fault _ waited =>
    exact (guarded_append [.announced (.waiting id .wds)] _ _).mpr
      ⟨waited.wds_guarded outset, trivial⟩
  | @ready waiting uploading tripping submitting wdsUrl _ _ _ _ waited uploaded tripped submitted =>
    have found : (id, App.wds, wdsUrl) ∈
        foundBy ([.announced (.waiting id .wds)] ++ waiting) := by
      rw [List.singleton_append, foundBy_announced, waited.foundBy_eq]
      exact List.mem_singleton_self _
    have submission := submitted.guarded fun _ _ submits => submits.guarded
      (mem_foundBy_append (mem_foundBy_append found uploading) tripping)
    have trip := tripped.guarded fun _ _ trips => trips.guarded
      (mem_foundBy_append found uploading)
    have upload := uploaded.guarded fun _ _ uploads => uploads.guarded found
    have steps := (guarded_append _ uploading (tripping ++ submitting)).mpr
      ⟨upload, (guarded_append _ tripping submitting).mpr ⟨trip, submission⟩⟩
    exact (guarded_append [.announced (.waiting id .wds)] waiting _).mpr
      ⟨waited.wds_guarded outset, steps⟩

/-- Once WDS is given up, nothing more is done for the workspace. -/
lemma Phase.given_up {later : List StepOutcome} (phase : Phase r id deeds later)
    {before after : List Deed} {o : StepOutcome}
    (split : deeds = before ++ .announced (.stepFinished id o) :: after)
    (unready : o.step = .wdsReady) : after = [] := by
  have taken : o ∈ later := by
    have finished : (id, o) ∈ (eventsOf deeds).filterMap Event.finished? := by
      rw [split, eventsOf_append, eventsOf_announced, List.filterMap_append]
      exact List.mem_append_right _ List.mem_cons_self
    rw [phase.finished_eq] at finished
    obtain ⟨o', member, same⟩ := List.mem_map.mp finished
    cases same
    exact member
  obtain ⟨_, _, waiting, waited, deeds_eq⟩ := phase.unready_last taken unready
  -- were there anything after the step, it would be announced before the last deed as well
  rcases List.eq_nil_or_concat' after with rfl | ⟨more, last, rfl⟩
  · rfl
  · rw [deeds_eq, ← List.cons_append, ← List.append_assoc] at split
    have front := congrArg eventsOf (List.append_inj' split rfl).1
    rw [eventsOf_announced, waited.silent.eventsOf_eq_nil, eventsOf_append, eventsOf_announced]
      at front
    have among : Event.stepFinished id o ∈ [Event.waiting id .wds] :=
      front ▸ List.mem_append_right _ List.mem_cons_self
    cases List.mem_singleton.mp among

end Phases

/-- What is done in the phase of a workspace is in order. -/
structure InOrder (id : String) (phase : List Deed) : Prop where
  own : ∀ deed ∈ phase, deed.Concerns id
  permitted : ∀ before errand request exchange after,
    phase = before ++ .call errand request exchange :: after → Permitted id before errand request
  given_up : ∀ before o after, phase = before ++ .announced (.stepFinished id o) :: after →
    o.step = .wdsReady → after = []

lemma Phase.inOrder {r : Run} {id : String} {deeds : List Deed} {later : List StepOutcome}
    (phase : Phase r id deeds later) : InOrder id deeds where
  own := phase.concerns
  permitted := by
    rintro before errand request exchange after rfl
    have guarded := ((guarded_append _ _ _).mp phase.guarded).2
    exact guarded.1
  given_up := fun _ _ _ split => phase.given_up split

/-- What the errand drafts is sent with the token of the run, to the drafted address as it is if no
name stands in it. -/
def Errand.GoesOut (r : Run) (errand : Errand) (request : Http.Request) : Prop :=
  ∃ draft, errand.Drafts r draft ∧ request = (r.client.authorize draft).separateUser ∧
    (draft.url.Nameless → request = r.client.authorize draft)

lemma Errand.Sends.goesOut {r : Run} {errand : Errand} {request : Http.Request}
    (sends : errand.Sends r request) : errand.GoesOut r request := by
  obtain ⟨draft, drafts, prepared⟩ := sends
  have sent := Http.Request.eq_separateUser_of_prepare prepared
  refine ⟨draft, drafts, sent, fun nameless => ?_⟩
  rw [sent]
  exact Http.Request.separateUser_of_nameless nameless

lemma Errand.GoesOut.bearer_eq {r : Run} {errand : Errand} {request : Http.Request}
    (goesOut : errand.GoesOut r request) : request.bearer = some r.client.token := by
  obtain ⟨draft, _, rfl, _⟩ := goesOut
  exact Http.Request.separateUser_bearer _

/-- If the deed is a call, it creates a workspace or requests an app. -/
def Deed.Opens : Deed → Prop
  | .call errand _ _ => errand = .creation ∨ ∃ id, errand = .appRequest id
  | _ => True

lemma Provisions.opens {r : Run} {deeds : List Deed} {failures : List String}
    {created : List WorkspaceReport} (provisions : Provisions r deeds failures created) :
    ∀ deed ∈ deeds, deed.Opens := by
  have creation {deeds : List Deed} {named : Option String}
      (asked : r.Calls .creation (·.created?) deeds named) : ∀ deed ∈ deeds, deed.Opens := by
    rcases asked.deeds_eq with rfl | ⟨_, _, rfl⟩
    · exact List.forall_mem_nil _
    · exact List.forall_mem_singleton.mpr (.inl rfl)
  induction provisions with
  | done => exact List.forall_mem_nil _
  | refused _ asked _ ih => exact List.forall_mem_append.mpr ⟨creation asked, ih⟩
  | granted asked requested _ ih =>
    rw [List.forall_mem_append, List.forall_mem_cons, List.forall_mem_append]
    refine ⟨creation asked, trivial, requested.forall_deeds ?_ fun _ => trivial, ih⟩
    intro deeds result acted deed member
    rcases acted.silent deed member with ⟨_, _, _, rfl, rfl⟩ | ⟨_, rfl⟩
    · exact .inr ⟨_, rfl⟩
    · trivial

/-- The probe is sent before everything else, then workspaces are created and their apps requested,
and then the workspaces are put to use one after the other, in the order of their creation. In the
phase of each, every request is permitted by what came before it, and none follows once WDS is given
up. Every request carries the token of the run, and goes to the address that its errand drafts. -/
theorem Run.requests_in_order (r : Run) :
    (∃ probing provisioning phases,
      r.Goes {} (probing ++ provisioning ++ phases.flatten) r.run.2 ∧
      (probing = [] ∨ ∃ request exchange, probing = [.call .probe request exchange]) ∧
      (∀ deed ∈ provisioning, deed.Opens) ∧
      createdBy provisioning = r.run.1.workspaces.map WorkspaceReport.workspaceId ∧
      List.Forall₂ (fun w phase => InOrder w.workspaceId phase) r.run.1.workspaces phases ∧
      ∀ errand request exchange,
        .call errand request exchange ∈ probing ++ provisioning ++ phases.flatten →
          errand.GoesOut r request) ∧
    ∀ request ∈ r.run.2.requests, request.bearer = some r.client.token := by
  obtain ⟨probing, provisioning, phases, course⟩ := r.exists_course
  have out : ∀ errand request exchange,
      .call errand request exchange ∈ probing ++ provisioning ++ phases.flatten →
        errand.GoesOut r request := fun _ _ _ called => (course.goes.faithful.sends called).goesOut
  refine ⟨⟨probing, provisioning, phases, course.goes, course.probed.deeds_eq,
    course.provisioned.opens, ?_, course.exercised.imp fun _ _ phase => phase.inOrder, out⟩, ?_⟩
  · rw [course.provisioned.createdBy_eq, List.map_map]
    rfl
  · intro request member
    rw [course.goes.requests_eq] at member
    obtain ⟨deed, done, sent⟩ := List.mem_filterMap.mp member
    cases deed with
    | call errand request exchange =>
      cases sent
      exact (out _ _ _ done).bearer_eq
    | _ => cases sent

end Shakedown.Load
