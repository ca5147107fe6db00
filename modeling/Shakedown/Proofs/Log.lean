import Mathlib.Data.List.Forall2
import Mathlib.Tactic.Lemma
import Shakedown.CommandLine.Smoke
import Shakedown.Proofs.SmokeRun

/-!
What a smoke run logs, and what of it is written.

The log tells every reply that came over the network, in the order of the calls, and no other. It
holds nothing as grave as a warning, so the standard subscriber writes nothing of it and the program
leaves what it leaves without a log. A subscriber that takes an entry, and shows the values of
fields, writes all that the entry tells.
-/

namespace Shakedown

namespace Log

variable {subscriber : Subscriber} {log log' : List Entry}

namespace Entry

lemma level_cases (e : Entry) : e.level = .info ∨ e.level = .debug := by
  cases e with
  | assembled => exact .inl rfl
  | _ => exact .inr rfl

end Entry

namespace Subscriber

lemma writeAll_append (number : Nat) : subscriber.writeAll number (log ++ log') =
    subscriber.writeAll number log ++ subscriber.writeAll (number + log.length) log' := by
  induction log generalizing number with
  | nil => exact String.empty_append.symm
  | cons e log ih =>
    have length_eq : number + 1 + log.length = number + (e :: log).length := by
      rw [List.length_cons]
      omega
    rw [List.cons_append, writeAll, writeAll, ih, length_eq, String.append_assoc]

/-- Logs whose entries are written alike are written alike. -/
lemma writeAll_congr
    (alike : List.Forall₂ (fun e e' => ∀ n, subscriber.write n e = subscriber.write n e') log log')
    (number : Nat) : subscriber.writeAll number log = subscriber.writeAll number log' := by
  induction alike generalizing number with
  | nil => rfl
  | cons same _ ih => rw [writeAll, writeAll, same, ih]

variable (line : Nat → Level → String → List (String × String) → String)

lemma writeAll_standard (number : Nat) (log : List Entry) :
    (standard line).writeAll number log = "" := by
  induction log generalizing number with
  | nil => rfl
  | cons e log ih =>
    have untaken : (standard line).takes e = false := by
      rcases e.level_cases with level_eq | level_eq <;>
        simp [standard, upTo, level_eq, Level.depth]
    rw [writeAll, ih, write, untaken]
    rfl

/-- The subscriber keeps the values of fields in its lines. -/
def Shows (subscriber : Subscriber) : Prop :=
  ∀ number level message fields, ∀ field ∈ fields, ∃ front back,
    subscriber.line number level message fields = front ++ field.2 ++ back

lemma exists_fieldsText_eq {fields : List (String × String)} {field : String × String}
    (member : field ∈ fields) :
    ∃ front back, fieldsText fields = front ++ field.2 ++ back := by
  induction fields with
  | nil => cases member
  | cons first rest ih =>
    obtain ⟨name, value⟩ := first
    rw [fieldsText]
    rcases List.mem_cons.mp member with rfl | behind
    · exact ⟨_, _, rfl⟩
    · obtain ⟨front, back, text_eq⟩ := ih behind
      refine ⟨" " ++ name ++ "=" ++ value ++ front, back, ?_⟩
      rw [text_eq]
      simp only [String.append_assoc]

lemma upTo_plainLine_shows (level : Level) : (upTo level plainLine).Shows := by
  intro number own_level message fields field member
  obtain ⟨front, back, text_eq⟩ := exists_fieldsText_eq member
  refine ⟨message ++ front, back ++ "\n", ?_⟩
  simp only [upTo, plainLine, text_eq, String.append_assoc]

/-- What an entry tells is written if the entry is taken. -/
lemma exists_writeAll_eq (shows_values : subscriber.Shows) {e : Entry} (logged : e ∈ log)
    (taken : subscriber.takes e = true) {field : String × String} (told : field ∈ e.fields)
    (number : Nat) :
    ∃ front back, subscriber.writeAll number log = front ++ field.2 ++ back := by
  obtain ⟨before, after, rfl⟩ := List.append_of_mem logged
  obtain ⟨front, back, line_eq⟩ :=
    shows_values (number + before.length) e.level e.message e.fields field told
  have written : subscriber.write (number + before.length) e = front ++ field.2 ++ back := by
    rw [write, taken, if_pos rfl, line_eq]
  refine ⟨subscriber.writeAll number before ++ front,
    back ++ subscriber.writeAll (number + before.length + 1) after, ?_⟩
  rw [writeAll_append, writeAll, written]
  simp only [String.append_assoc]

end Subscriber

/-- The entry of a reply that came over the network. -/
def Entry.isGot : Entry → Bool
  | .got .. => true
  | _ => false

/-- What is logged of calls, each asked after the ones before it. -/
def answeredAll (service : Service) : (earlier : List Fetch) → List Fetch → List Entry
  | _, [] => []
  | earlier, f :: rest =>
    answered f (service earlier f) ++ answeredAll service (earlier ++ [f]) rest

/-- The log tells the replies to the calls, and no other. -/
def Tells (service : Service) (calls : List Fetch) (log : List Entry) : Prop :=
  log.filter Entry.isGot = answeredAll service [] calls

variable {service : Service} {f : Fetch}

lemma answeredAll_concat (earlier calls : List Fetch) (f : Fetch) :
    answeredAll service earlier (calls ++ [f]) =
      answeredAll service earlier calls ++ answered f (service (earlier ++ calls) f) := by
  induction calls generalizing earlier with
  | nil => rw [List.nil_append, answeredAll, answeredAll, answeredAll, List.append_nil,
      List.append_nil, List.nil_append]
  | cons g calls ih =>
    rw [List.cons_append, answeredAll, answeredAll, ih, List.append_assoc, List.append_assoc,
      List.singleton_append]

lemma filter_answered (f : Fetch) (result : Except Fault Reply) :
    (answered f result).filter Entry.isGot = answered f result := by
  cases result <;> rfl

namespace Tells
variable {calls : List Fetch}

lemma call (tells : Tells service calls log) (f : Fetch) :
    Tells service (calls ++ [f]) (log ++ answered f (service calls f)) := by
  rw [Tells, List.filter_append, tells, filter_answered, answeredAll_concat, List.nil_append]

lemma idle (tells : Tells service calls log) (quiet : log'.filter Entry.isGot = []) :
    Tells service calls (log ++ log') := by
  rw [Tells, List.filter_append, quiet, List.append_nil, tells]

/-- A caller logs its calls, and of a reply that it kept only that. -/
lemma fetch {c : Caller} (tells : Tells service c.calls log) (f : Fetch) :
    Tells service (c.fetch service f).2.calls (log ++ c.log f (c.fetch service f).1) := by
  cases kept : c.cache.find? f with
  | some reply =>
    simp only [Caller.log, kept, Caller.fetch_of_kept service kept]
    exact tells.idle rfl
  | none =>
    obtain ⟨answer_eq, calls_eq⟩ := Caller.fetch_of_new service kept
    simp only [Caller.log, kept, answer_eq, calls_eq]
    exact tells.call f

lemma check {c : Caller} (tells : Tells service c.calls log) (settings : Settings) (id : Uuid)
    (check : Check) : Tells service (check.run settings service id c).2.calls
      (log ++ check.log settings service id c) := by
  cases asked : check.fetch settings id with
  | error verdict =>
    simp only [Check.log, asked, Check.run_of_unasked asked, List.append_nil]
    exact tells
  | ok f =>
    simp only [Check.log, asked, Check.run_of_asked asked]
    exact tells.fetch f

lemma tokenInfo (endpoint token : String) :
    Tells service (TokenInfo.validate service [] endpoint token).2
      (TokenInfo.log service [] endpoint token) := by
  cases asked : TokenInfo.fetch endpoint token with
  | error fault =>
    simp only [TokenInfo.validate, TokenInfo.log, asked]
    rfl
  | ok f =>
    have nothing : Tells service [] [] := rfl
    rw [TokenInfo.validate_of_asked asked]
    simp only [TokenInfo.log, asked]
    refine (nothing.call f).idle ?_
    cases service [] f <;> rfl

end Tells
end Log

namespace SmokeRun

open Log

variable (settings : Settings) (service : Service) (ids : Nat → Uuid)

lemma tells_validationLog :
    Tells service (validate settings service).2 (validationLog settings service) := by
  cases given : settings.token with
  | none =>
    simp only [validate, validationLog, given]
    rfl
  | some token =>
    simp only [validate, validationLog, given]
    exact Tells.tokenInfo settings.tokenInfoUrl token

lemma tells_walk {start : Progress} (tells : Tells service start.caller.calls start.log)
    (items : List (Group × Check)) : Tells service
      (walk settings service ids start items).caller.calls
      (walk settings service ids start items).log := by
  induction items using List.reverseRecOn with
  | nil => exact tells
  | append_singleton items last ih =>
    rw [walk_concat, step_eq]
    have checked := ih.check settings
      (ids (walk settings service ids start items).results.length) last.2
    simp only [logInTurn, ← List.append_assoc]
    exact checked.idle rfl

/-- The log of a run tells the replies to its calls, in the order of the calls, and no other. -/
theorem log_tells_calls :
    Tells service (run settings service ids).calls (run settings service ids).log := by
  have validated := tells_validationLog settings service
  cases ended : validate settings service with
  | mk result calls =>
    rw [ended] at validated
    cases result with
    | error fault =>
      rw [run_of_refused settings service ids ended]
      exact validated
    | ok _ =>
      have opened : Tells service (outset settings service calls).caller.calls
          (outset settings service calls).log := validated.idle rfl
      rw [run_of_valid settings service ids ended]
      exact tells_walk settings service ids opened (Plan.ofSettings settings).checks

end SmokeRun

namespace CommandLine.Smoke

variable (line : Nat → Log.Level → String → List (String × String) → String)

lemma reportLogged_standard (settings : Settings) (coloured : Bool) (run : SmokeRun.Record)
    (nanoseconds : Nat) : reportLogged (.standard line) settings coloured run nanoseconds =
      report settings.verbosity coloured run nanoseconds := by
  rw [reportLogged, Log.Subscriber.writeAll_standard, String.empty_append]

/-- Unless more is asked for, a smoke run leaves the same with a log as without one. -/
theorem runLogged_standard (arguments : List String) (coloured : Bool) (service : Service)
    (ids : Nat → Uuid) (nanoseconds : Nat) :
    runLogged (.standard line) arguments coloured service ids nanoseconds =
      run arguments coloured service ids nanoseconds := by
  unfold runLogged run
  cases readSettings arguments with
  | error output => rfl
  | ok settings => exact reportLogged_standard line settings coloured _ nanoseconds

end CommandLine.Smoke
end Shakedown
