import Shakedown.Fault

/-!
How much a run prints while its checks are carried out.
-/

namespace Shakedown

inductive Verbosity where
  | quiet
  | minimal
  | verbose
deriving DecidableEq, Repr

def Verbosity.ofLevel (level : Nat) : Except Fault Verbosity :=
  match level with
  | 0 => .ok .quiet
  | 1 => .ok .minimal
  | 2 => .ok .verbose
  | _ => .error (.config ("verbosity must be 0, 1 or 2, got " ++ toString level))

def Verbosity.level : Verbosity → Nat
  | .quiet => 0
  | .minimal => 1
  | .verbose => 2

theorem Verbosity.ofLevel_level (v : Verbosity) : ofLevel v.level = .ok v := by
  cases v <;> rfl

end Shakedown
