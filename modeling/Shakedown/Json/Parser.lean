import Shakedown.Json.Token

/-!
Reading a JSON document.

The reader takes one token after the other. It keeps the containers it is inside of in a stack of
frames and knows what it awaits, so nothing but the list of tokens is recursed on. At most 127
containers may be open.
-/

namespace Shakedown.Json

/-- A container part way through: its items, newest first, or its members and the name whose value
comes next. -/
inductive Frame where
  | items (done : List Json)
  | members (done : List (String × Json)) (name : String)

inductive Awaiting where
  | value
  | firstItem
  | item
  | firstName (done : List (String × Json))
  | name (done : List (String × Json))
  | colon (done : List (String × Json)) (name : String)
  | separator
  | nothing (result : Json)

structure Reader where
  awaiting : Awaiting
  frames : List Frame

namespace Reader

/-- Hands a finished value to the innermost open container. -/
def complete (value : Json) : List Frame → Reader
  | [] => ⟨.nothing value, []⟩
  | .items done :: frames => ⟨.separator, .items (value :: done) :: frames⟩
  | .members done name :: frames =>
    ⟨.separator, .members (Named.insert name value done) "" :: frames⟩

/-- Opens a container unless too many are open. -/
def enter (r : Reader) (after : Nat) (next : Reader) : Except Failure Reader :=
  if r.frames.length + 1 < 128 then .ok next else .error ⟨.tooDeep, after⟩

/-- Takes a token where a value may stand. -/
def takeValue (r : Reader) (t : Token) : Except Failure Reader :=
  match t.lexeme with
  | .openList => r.enter t.after ⟨.firstItem, .items [] :: r.frames⟩
  | .openObject => r.enter t.after ⟨.firstName [], r.frames⟩
  | .text read => read.map fun s => complete (.string s) r.frames
  | .scalar read => read.map fun v => complete v r.frames
  | _ => .error ⟨.noValue, t.after⟩

/-- Takes a token where the name of a member may stand. -/
def takeName (r : Reader) (done : List (String × Json)) (t : Token) : Except Failure Reader :=
  match t.lexeme with
  | .text read => read.map fun s => ⟨.colon done s, r.frames⟩
  | _ => .error ⟨.badName, t.after⟩

/-- Takes a token after a finished item or member. -/
def takeSeparator (t : Token) : List Frame → Except Failure Reader
  | .items done :: frames =>
    match t.lexeme with
    | .comma => .ok ⟨.item, .items done :: frames⟩
    | .closeList => .ok (complete (.list done.reverse) frames)
    | _ => .error ⟨.noListSeparator, t.after⟩
  | .members done _ :: frames =>
    match t.lexeme with
    | .comma => .ok ⟨.name done, frames⟩
    | .closeObject => .ok (complete (.object done) frames)
    | _ => .error ⟨.noMemberSeparator, t.after⟩
  | [] => .error ⟨.trailingText, t.after⟩

def step (r : Reader) (t : Token) : Except Failure Reader :=
  match r.awaiting with
  | .value => r.takeValue t
  | .firstItem =>
    match t.lexeme with
    | .closeList => .ok (complete (.list []) (r.frames.drop 1))
    | _ => r.takeValue t
  | .item =>
    match t.lexeme with
    | .closeList => .error ⟨.trailingComma, t.after⟩
    | _ => r.takeValue t
  | .firstName done =>
    match t.lexeme with
    | .closeObject => .ok (complete (.object done) r.frames)
    | _ => r.takeName done t
  | .name done =>
    match t.lexeme with
    | .closeObject => .error ⟨.trailingComma, t.after⟩
    | _ => r.takeName done t
  | .colon done name =>
    match t.lexeme with
    | .colon => .ok ⟨.value, .members done name :: r.frames⟩
    | _ => .error ⟨.noColon, t.after⟩
  | .separator => takeSeparator t r.frames
  | .nothing _ => .error ⟨.trailingText, t.after⟩

/-- What the end of the text means. -/
def finish (r : Reader) : Except Failure Json :=
  match r.awaiting with
  | .nothing result => .ok result
  | .firstItem => .error ⟨.endInList, 0⟩
  | .firstName _ => .error ⟨.endInObject, 0⟩
  | .colon _ _ => .error ⟨.endInObject, 0⟩
  | .separator =>
    match r.frames with
    | .members _ _ :: _ => .error ⟨.endInObject, 0⟩
    | _ => .error ⟨.endInList, 0⟩
  | _ => .error ⟨.endInValue, 0⟩

def run (r : Reader) : List Token → Except Failure Json
  | [] => r.finish
  | t :: rest =>
    match r.step t with
    | .ok next => next.run rest
    | .error f => .error f

end Reader

/-- Reads a document, which is one value with blanks around it. -/
def parse (text : String) : Except Problem Json :=
  let cs := text.toList
  (Reader.run ⟨.value, []⟩ (tokens cs)).mapError (Problem.ofFailure cs)

private def outcome (text : String) : String :=
  match parse text with
  | .ok _ => "ok"
  | .error p => p.message

example : (parse "\x7b\"a\": [1, null]\x7d").toOption =
    some (.object [("a", .list [.ofNat 1, .null])]) := by decide +kernel
example : outcome "[1 2]" = "expected `,` or `]` at line 1 column 4" := by decide +kernel
example : outcome "\"\\ud83d\\u0041\"" =
    "lone leading surrogate in hex escape at line 1 column 13" := by decide +kernel

end Shakedown.Json
