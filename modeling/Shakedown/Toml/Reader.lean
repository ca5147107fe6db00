import Shakedown.Toml.Document
import Shakedown.Toml.Scalar

/-!
Reading a TOML document.
-/

namespace Shakedown.Toml

def isBareKeyChar (c : Char) : Bool := c.isAlphanum || c = '-' || c = '_'

def readSimpleKey (cs : List Char) : Option (String × List Char) :=
  match cs with
  | '"' :: _ => readQuotedKey cs
  | '\'' :: _ => readQuotedKey cs
  | _ =>
    let word := cs.takeWhile isBareKeyChar
    if word = [] then none else some (String.ofList word, cs.dropWhile isBareKeyChar)

/-- Reads keys joined by dots, with blanks around each. -/
def readKeys : (fuel : Nat) → List Char → Option ((List String) × List Char)
  | 0, _ => none
  | fuel + 1, cs => do
    let (key, rest) ← readSimpleKey (skipBlanks cs)
    match skipBlanks rest with
    | '.' :: rest =>
      let (keys, rest) ← readKeys fuel rest
      some (key :: keys, rest)
    | rest => some ([key], rest)

/-- Reads a key: the keys on the way and the last one. -/
def readKey (cs : List Char) : Option ((List String × String) × List Char) := do
  let (keys, rest) ← readKeys (cs.length + 1) cs
  match keys.getLast? with
  | some last => if keys.length ≤ depthLimit then some ((keys.dropLast, last), rest) else none
  | none => none

/-- Reads a key, an equals sign and a value. -/
def readPair (readValue : List Char → Option (Toml × List Char)) (cs : List Char) :
    Option ((List String × String × Toml) × List Char) := do
  let (key, rest) ← readKey cs
  let (value, rest) ← readValue (skipBlanks (← expect '=' rest))
  some ((key.1, key.2, value), rest)

/-- Reads the items of an array after its bracket or a comma. -/
def readItems (readValue : List Char → Option (Toml × List Char)) : (fuel : Nat) → List Char →
    Option ((List Toml) × List Char)
  | 0, _ => none
  | fuel + 1, cs => do
    match ← skipAll cs with
    | ']' :: rest => some ([], rest)
    | start =>
      let (value, rest) ← readValue start
      match ← skipAll rest with
      | ',' :: rest =>
        let (values, rest) ← readItems readValue fuel rest
        some (value :: values, rest)
      | ']' :: rest => some ([value], rest)
      | _ => none

/-- Reads the pairs between braces, at least one of them. -/
def readInlinePairs (readValue : List Char → Option (Toml × List Char)) : (fuel : Nat) → List Char →
    Option ((List (List String × String × Toml)) × List Char)
  | 0, _ => none
  | fuel + 1, cs => do
    let (pair, rest) ← readPair readValue cs
    match skipBlanks rest with
    | ',' :: rest =>
      let (pairs, rest) ← readInlinePairs readValue fuel rest
      some (pair :: pairs, rest)
    | '\x7d' :: rest => some ([pair], rest)
    | _ => none

/-- Reads a table after its opening brace. -/
def readInlineTable (readValue : List Char → Option (Toml × List Char)) (cs : List Char) :
    Option (Toml × List Char) :=
  match skipBlanks cs with
  | '\x7d' :: rest => some (.table [], rest)
  | _ => do
    let (pairs, rest) ← readInlinePairs readValue (cs.length + 1) cs
    some (← inlineTable pairs, rest)

/-- Reads a value that may hold containers `depth` deep. -/
def readValue : (depth : Nat) → List Char → Option (Toml × List Char)
  | depth, cs =>
    match cs with
    | [] => none
    | c :: rest =>
      if c = '"' || c = '\'' then (readQuoted cs).map fun r => (.string r.1, r.2)
      else if c = '[' then
        match depth with
        | 0 => none
        | depth + 1 =>
          (readItems (readValue depth) (rest.length + 1) rest).map fun r => (.array r.1, r.2)
      else if c = '\x7b' then
        match depth with
        | 0 => none
        | depth + 1 => readInlineTable (readValue depth) rest
      else match cs with
        | 't' :: 'r' :: 'u' :: 'e' :: rest => some (.boolean true, rest)
        | 'f' :: 'a' :: 'l' :: 's' :: 'e' :: rest => some (.boolean false, rest)
        | _ => readScalar cs

/-- Reads a header after its opening brackets. -/
def readHeader (close : List Char → Option (List Char)) (cs : List Char) :
    Option ((List String × String) × List Char) := do
  let (key, rest) ← readKey cs
  some (key, ← endLine? (← close rest))

def readStatement (cs : List Char) : Option (Statement × List Char) :=
  match cs with
  | '[' :: '[' :: rest =>
    (readHeader (fun cs => (expect ']' cs).bind (expect ']')) rest).map fun r =>
      (.arrayHeader r.1.1 r.1.2, r.2)
  | '[' :: rest => (readHeader (expect ']') rest).map fun r => (.header r.1.1 r.1.2, r.2)
  | _ => do
    let (pair, rest) ← readPair (readValue depthLimit) cs
    some (.pair pair.1 pair.2.1 pair.2.2, ← endLine? rest)

/-- Reads statements to the end of the text. -/
def readStatements : (fuel : Nat) → List Char → Option (List Statement)
  | 0, _ => none
  | fuel + 1, cs =>
    match skipBlanks cs with
    | [] => some []
    | c :: rest =>
      if c = '#' || c = '\n' || c = '\r' then (endLine? (c :: rest)).bind (readStatements fuel)
      else do
        let (statement, rest) ← readStatement (c :: rest)
        let statements ← readStatements fuel rest
        some (statement :: statements)

/-- The table that a document is. A byte order mark before it says nothing. -/
def read (text : String) : Option (List (String × Toml)) :=
  let cs := match text.toList with
    | '\ufeff' :: rest => rest
    | cs => cs
  (readStatements (cs.length + 1) cs).bind Document.ofStatements

end Shakedown.Toml
