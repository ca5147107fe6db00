import Shakedown.Proofs.Load.Deeds

/-!
What the calls of a load run come to.

A call sends one request of its errand or fails before it does. If it is sent, its answer decides:
a call that asks for success comes through just with a reply of success, and one that asks for JSON
just with a reply of success whose body is JSON.
-/

namespace Shakedown.Load

/-- What one request comes to: nothing if it is never sent, and else what its answer says. -/
inductive Run.Calls {α : Type} (r : Run) (errand : Errand) (reads : Http.Exchange → Option α) :
    List Deed → Option α → Prop
  | unsent : Calls r errand reads [] none
  | sent {request : Http.Request} (exchange : Http.Exchange) (sends : errand.Sends r request) :
      Calls r errand reads [.call errand request exchange] (reads exchange)

section Calls
variable {α : Type} {r : Run} {errand : Errand}

lemma Run.Calls.deeds_eq {reads : Http.Exchange → Option α} {deeds : List Deed} {result : Option α}
    (calls : r.Calls errand reads deeds result) :
    deeds = [] ∨ ∃ request exchange, deeds = [.call errand request exchange] := by
  cases calls with
  | unsent => exact .inl rfl
  | sent exchange _ => exact .inr ⟨_, exchange, rfl⟩

/-- A look at the deeds that reads the answer as the call does finds what the call comes to. -/
lemma Run.Calls.filterMap_eq {β : Type} {reads : Http.Exchange → Option α} {deeds : List Deed}
    {result : Option α} {look : Deed → Option β} (calls : r.Calls errand reads deeds result)
    (tell : Option α → Option β) (nothing : tell none = none)
    (looked : ∀ request exchange, look (.call errand request exchange) = tell (reads exchange)) :
    deeds.filterMap look = (tell result).toList := by
  cases calls with
  | unsent => rw [nothing]; rfl
  | sent exchange _ =>
    rw [List.filterMap_cons, looked]
    cases tell (reads exchange) <;> rfl

/-- What a call that comes through has sent, and the answer it has read. -/
lemma Run.Calls.eq_of_some {reads : Http.Exchange → Option α} {deeds : List Deed} {a : α}
    (calls : r.Calls errand reads deeds (some a)) :
    ∃ request exchange, deeds = [.call errand request exchange] ∧ errand.Sends r request ∧
      reads exchange = some a := by
  generalize result_eq : some a = result at calls
  cases calls with
  | unsent => cases result_eq
  | sent exchange sends => exact ⟨_, exchange, rfl, sends, rfl⟩

lemma toOption_read (x : Http.Exchange) (url : Url) (judge : Http.Answer → Except Fault α) :
    (((x.read url).mapError Fault.http).bind judge).toOption =
      x.answer?.bind fun a => (judge a).toOption := by
  cases x <;> rfl

lemma toOption_reply (a : Http.Answer) (judge : Reply → Except Fault α) :
    ((a.reply.mapError Fault.http).bind judge).toOption =
      a.reply.toOption.bind fun reply => (judge reply).toOption := by
  cases a.reply <;> rfl

/-- What is made of a request is what its answer says, if the request is sent. -/
lemma ask_does {draft : Except Fault Http.Request} (judge : Http.Answer → Except Fault α)
    (drafts : ∀ q, draft = .ok q → errand.Drafts r q) :
    r.Does (r.client.ask draft judge) fun deeds result =>
      r.Calls errand (fun x => x.answer?.bind fun a => (judge a).toOption) deeds result.toOption := by
  intro t
  cases drafted : draft with
  | error fault => exact ⟨[], .nothing rfl, .unsent⟩
  | ok q =>
    cases prepared : (r.client.authorize q).prepare with
    | error trouble =>
      simp only [Client.ask, Trace.send, Http.Link.perform, prepared, bind, Except.bind]
      exact ⟨[], .nothing rfl, .unsent⟩
    | ok request =>
      refine ⟨[.call errand request (r.client.world.link t.requests request)], ?_, ?_⟩
      · simp only [Client.ask, Trace.send, prepared]
        exact ⟨rfl, ⟨q, drafts q drafted, prepared⟩, rfl, trivial⟩
      · simp only [Client.ask, Trace.send, prepared, Http.Link.perform, bind, Except.bind]
        have read := toOption_read (r.client.world.link t.requests request) request.url judge
        simp only [Except.bind] at read
        rw [read]
        exact .sent _ ⟨q, drafts q drafted, prepared⟩

/-- What an answer means to whoever asked for success alone. -/
lemma succeeds_eq (context : String) (x : Http.Exchange) :
    (x.reply?.bind fun reply => ((expectSuccess context reply).map fun _ => ()).toOption) =
      x.success?.map fun _ => () := by
  unfold Http.Exchange.success?
  cases x.reply? with
  | none => rfl
  | some reply =>
    cases good : reply.isSuccess <;>
      simp [expectSuccess, Option.filter, good, Except.map, Except.toOption]

/-- What an answer means to whoever asked for JSON. -/
lemma expectJson_eq (context : String) (x : Http.Exchange) :
    (x.reply?.bind fun reply => (expectJson context reply).toOption) = x.json? := by
  unfold Http.Exchange.json? Http.Exchange.success?
  cases x.reply? with
  | none => rfl
  | some reply =>
    cases good : reply.isSuccess <;>
      simp [expectJson, expectSuccess, Option.filter, good, Except.bind, Except.toOption]

lemma toOption_bind {β : Type} (e : Except Fault α) (f : α → Except Fault β) :
    (e.bind f).toOption = e.toOption.bind fun a => (f a).toOption := by
  cases e <;> rfl

lemma toOption_map {β : Type} (e : Except Fault α) (f : α → β) :
    (e.map f).toOption = e.toOption.map f := by
  cases e <;> rfl

/-- A call that is given up before its request is drafted. -/
lemma calls_of_unsent {reads : Http.Exchange → Option α} {act : Trace → Except Fault α × Trace}
    {t : Trace} {fault : Fault} (unsent : act t = (.error fault, t)) :
    ∃ deeds, r.Goes t deeds (act t).2 ∧ r.Calls errand reads deeds (act t).1.toOption := by
  rw [unsent]
  exact ⟨[], .nothing rfl, .unsent⟩

end Calls

section Operations
variable {α : Type} (r : Run)

lemma drafts_map {errand : Errand} {address : Except Fault Url} {draft : Url → Http.Request}
    (drafts : ∀ url, address = .ok url → errand.Drafts r (draft url)) :
    ∀ q, address.map draft = .ok q → errand.Drafts r q := by
  intro q drafted
  cases found : address with
  | error fault => rw [found] at drafted; cases drafted
  | ok url => rw [found] at drafted; cases drafted; exact drafts url found

/-- A call whose result is read with the answer's meaning in mind. -/
lemma call_does {errand : Errand} {draft : Except Fault Http.Request}
    {reads : Http.Exchange → Option α} {judge : Reply → Except Fault α}
    (drafts : ∀ q, draft = .ok q → errand.Drafts r q)
    (meant : ∀ x : Http.Exchange,
      (x.reply?.bind fun reply => (judge reply).toOption) = reads x) :
    r.Does (r.client.call draft judge) fun deeds result =>
      r.Calls errand reads deeds result.toOption := by
  have judged (x : Http.Exchange) : reads x = x.answer?.bind fun a =>
      ((a.reply.mapError Fault.http).bind judge).toOption := by
    rw [← meant, Http.Exchange.reply?, Option.bind_assoc]
    simp only [toOption_reply]
  rw [funext judged]
  exact ask_does _ drafts

lemma probe_does : r.Does r.client.probe fun deeds result =>
    r.Calls .probe (fun x => x.answer?.map Http.Answer.status) deeds result.toOption := by
  have judged : (fun x : Http.Exchange => x.answer?.map Http.Answer.status) =
      fun x => x.answer?.bind fun a => (Except.ok a.status : Except Fault Nat).toOption := by
    funext x
    cases x <;> rfl
  rw [judged]
  exact ask_does _ (drafts_map r fun _ found => .probe found)

lemma createWorkspace_does :
    r.Does (r.client.createWorkspace r.credentials.billingProject) fun deeds result =>
      r.Calls .creation Http.Exchange.created? deeds result.toOption := by
  intro t
  have meant (x : Http.Exchange) : (x.reply?.bind fun reply =>
      ((expectJson "workspace creation" reply).bind workspaceIdOf).toOption) = x.created? := by
    simp only [toOption_bind, ← Option.bind_assoc, expectJson_eq, Http.Exchange.created?]
    congr 1
    funext created
    cases named : created.text? "workspaceId" <;> simp [workspaceIdOf, named, Except.toOption]
  obtain ⟨deeds, goes, calls⟩ := call_does r
    (drafts_map r fun _ found => .creation (r.client.world.letters t.drawn) found) meant t.draw.2
  exact ⟨deeds, goes.draw, calls⟩

lemma requestCbas_does (id : String) : r.Does (r.client.requestCbas id) fun deeds result =>
    r.Calls (.appRequest id) (fun x => x.success?.map fun _ => ()) deeds result.toOption := by
  intro t
  obtain ⟨deeds, goes, calls⟩ := call_does r
    (drafts_map r fun _ found => .appRequest (r.client.world.ids t.drawn) found)
    (succeeds_eq "CBAS app request") t.draw.2
  exact ⟨deeds, goes.draw, calls⟩

lemma appState_does (id : String) (app : App) :
    r.Does (r.client.appState id app) fun deeds result =>
      r.Calls (.poll id app) (·.appState? app) deeds result.toOption := by
  refine call_does r (drafts_map r fun _ found => .poll found) fun x => ?_
  rw [Http.Exchange.appState?, ← expectJson_eq "app listing", Option.map_bind]
  simp only [toOption_map, Function.comp_def]

lemma uploadTsv_does (id wdsUrl : String) (cargo : Cargo) :
    r.Does (r.client.uploadTsv wdsUrl id (cargo.recordType r.settings) (cargo.file r.settings))
      fun deeds result => r.Calls (.upload id wdsUrl cargo) Http.Exchange.json? deeds
        result.toOption := by
  intro t
  cases found : appUrl wdsUrl
      ("/" ++ id ++ "/tsv/" ++ recordsVersion ++ "/" ++ cargo.recordType r.settings) with
  | error fault =>
    exact calls_of_unsent (by unfold Client.uploadTsv; simp only [found]; rfl)
  | ok url =>
    cases opened : (r.client.world.files t.actions (cargo.file r.settings)).openBytes with
    | error fault =>
      exact calls_of_unsent (by unfold Client.uploadTsv; simp only [found, opened]; rfl)
    | ok content =>
      cases content with
      | none =>
        exact calls_of_unsent (by unfold Client.uploadTsv; simp only [found, opened]; rfl)
      | some bytes =>
        unfold Client.uploadTsv
        simp only [found, opened]
        exact call_does r (fun _ drafted => by cases drafted; exact .upload bytes found)
          (expectJson_eq "TSV upload") t

lemma putRecord_does (id wdsUrl : String) (record : Record) :
    r.Does (r.client.putRecord wdsUrl id record) fun deeds result =>
      r.Calls (.write id wdsUrl record) (fun x => x.success?.map fun _ => ()) deeds
        result.toOption :=
  call_does r (drafts_map r fun _ found => .write found) (succeeds_eq "record write")

lemma getRecord_does (id wdsUrl : String) (record : Record) :
    r.Does (r.client.getRecord wdsUrl id record) fun deeds result =>
      r.Calls (.read id wdsUrl record) Http.Exchange.json? deeds result.toOption :=
  call_does r (drafts_map r fun _ found => .read found) (expectJson_eq "record read")

lemma submitWorkflow_does (id cbasUrl request : String) :
    r.Does (r.client.submitWorkflow cbasUrl request) fun deeds result =>
      r.Calls (.submission id cbasUrl) Http.Exchange.json? deeds result.toOption := by
  intro t
  cases text : (r.client.world.files t.actions request).readText with
  | error why => exact calls_of_unsent (by simp only [Client.submitWorkflow, text]; rfl)
  | ok body =>
    simp only [Client.submitWorkflow, text]
    exact call_does r (drafts_map r fun _ found => .submission body found)
      (expectJson_eq "workflow submission") t

end Operations
end Shakedown.Load
