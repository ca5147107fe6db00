import Shakedown.Text.Split

/-!
Arguments of a command line: options with one value each, and positional ones.

An option's value stands in the same argument, behind an equals sign or right behind the option's
letter, or is the next argument. Whether a value of the second kind will do is decided when the
next option or positional argument comes, so a version asked for before that is shown.
-/

namespace Shakedown.CommandLine

structure NamedArgument where
  long : String
  short : Option Char := none
  accepts : String → Bool := fun _ => true

/-- What a program takes. -/
structure Grammar where
  options : List NamedArgument
  positionals : Nat

/-- Why the arguments do not lead to a run. -/
inductive Stop where
  | usage
  | version
  | help
deriving DecidableEq, Repr

/-- An option that was named, and its value once it has come. -/
structure Pending where
  option : NamedArgument
  value : Option String := none

structure Arguments where
  values : List (String × String) := []
  positionals : List String := []
  pending : Option Pending := none
  /-- Whether all that follows is positional. -/
  trailing : Bool := false

namespace Arguments

def value? (a : Arguments) (long : String) : Option String := a.values.lookup long

/-- Takes the value of an option, which must be its first and one that it accepts. -/
def store (a : Arguments) (option : NamedArgument) (value : String) : Except Stop Arguments :=
  if (a.value? option.long).isSome || !option.accepts value then .error .usage
  else .ok { a with values := a.values ++ [(option.long, value)] }

/-- Settles the option named last. -/
def settle (a : Arguments) : Except Stop Arguments :=
  match a.pending with
  | none => .ok a
  | some ⟨_, none⟩ => .error .usage
  | some ⟨option, some value⟩ => store { a with pending := none } option value

def name (a : Arguments) (option : NamedArgument) (attached : Option String) :
    Except Stop Arguments := do
  let a ← a.settle
  match attached with
  | some value => a.store option value
  | none => .ok { a with pending := some { option } }

def stop (a : Arguments) (why : Stop) : Except Stop Arguments := do
  let _ ← a.settle
  .error why

def addPositional (grammar : Grammar) (a : Arguments) (value : String) :
    Except Stop Arguments := do
  let a ← a.settle
  if a.positionals.length < grammar.positionals then
    .ok { a with positionals := a.positionals ++ [value] }
  else .error .usage

/-- Takes an argument after its two hyphens. -/
def takeLong (grammar : Grammar) (a : Arguments) (cs : List Char) : Except Stop Arguments :=
  let long := String.ofList (cs.takeWhile (· ≠ '='))
  let attached := match cs.dropWhile (· ≠ '=') with
    | _ :: value => some (String.ofList value)
    | [] => none
  match grammar.options.find? (·.long = long) with
  | some option => a.name option attached
  | none =>
    if attached.isSome then .error .usage
    else if long = "version" then a.stop .version
    else if long = "help" then a.stop .help
    else .error .usage

/-- Takes an argument after its one hyphen. -/
def takeShort (grammar : Grammar) (a : Arguments) (letter : Char) (rest : List Char) :
    Except Stop Arguments :=
  match grammar.options.find? (·.short = some letter) with
  | some option =>
    a.name option (match rest with
      | [] => none
      | '=' :: value => some (String.ofList value)
      | value => some (String.ofList value))
  | none =>
    if letter = 'V' then a.stop .version
    else if letter = 'h' then a.stop .help
    else .error .usage

/-- Takes an argument that names no option. -/
def takeValue (grammar : Grammar) (a : Arguments) (value : String) : Except Stop Arguments :=
  match a.pending with
  | some ⟨option, none⟩ => .ok { a with pending := some ⟨option, some value⟩ }
  | _ => a.addPositional grammar value

def take (grammar : Grammar) (a : Arguments) (argument : String) : Except Stop Arguments :=
  if a.trailing then a.addPositional grammar argument
  else match argument.toList with
    | ['-', '-'] => .ok { a with trailing := true }
    | '-' :: '-' :: cs => a.takeLong grammar cs
    | '-' :: letter :: rest => a.takeShort grammar letter rest
    | _ => a.takeValue grammar argument

/-- Reads the arguments of a program; at least `required` of them are positional. -/
def read (grammar : Grammar) (required : Nat) (arguments : List String) :
    Except Stop Arguments := do
  let a ← arguments.foldlM (take grammar) {}
  let a ← a.settle
  if a.positionals.length < required then .error .usage else .ok a

end Arguments

/-- What a program leaves: its exit code and what it wrote. -/
structure Output where
  exitCode : Nat
  out : String := ""
  err : String := ""
deriving DecidableEq

/-- What a program leaves that was not asked for a run. -/
def Output.ofStop (program usage : String) : Stop → Output
  | .version => { exitCode := 0, out := program ++ " 0.1.0\n" }
  | .help => { exitCode := 0, out := "Usage: " ++ program ++ usage ++ "\n" }
  | .usage => { exitCode := 2, err := "Usage: " ++ program ++ usage ++ "\n" }

end Shakedown.CommandLine
