import Shakedown.Url.Basic

/-!
Reading an address without a base.

Blanks and control characters around the text and every tab and line end in it are dropped first.
-/

namespace Shakedown.Url

def isControlOrBlank (c : Char) : Bool := c.toNat ≤ 0x20

def clean (text : String) : List Char :=
  let front := text.toList.dropWhile isControlOrBlank
  let both := (front.reverse.dropWhile isControlOrBlank).reverse
  both.filter fun c => c ≠ '\t' && c ≠ '\n' && c ≠ '\r'

inductive SchemeKind where
  | web
  | file
  | other
deriving DecidableEq

def defaultPort (scheme : String) : Option Nat :=
  if scheme = "http" || scheme = "ws" then some 80
  else if scheme = "https" || scheme = "wss" then some 443
  else if scheme = "ftp" then some 21
  else none

def SchemeKind.of (scheme : String) : SchemeKind :=
  if scheme = "file" then .file else if (defaultPort scheme).isSome then .web else .other

def isSchemeChar (c : Char) : Bool := c.isAlphanum || c = '+' || c = '-' || c = '.'

/-- The scheme of a text in lower case and what follows its colon. -/
def splitScheme (cs : List Char) : Option (String × List Char) :=
  match cs.head?, cs.dropWhile isSchemeChar with
  | some first, ':' :: rest =>
    if first.isAlpha then
      some (String.ofList ((cs.takeWhile isSchemeChar).map Char.toLower), rest)
    else none
  | _, _ => none

/-- A backslash separates like a slash in the addresses that browsers know. -/
def isSlash (kind : SchemeKind) (c : Char) : Bool :=
  c = '/' || (kind ≠ .other && c = '\\')

def endsAuthority (kind : SchemeKind) (c : Char) : Bool := isSlash kind c || c = '?' || c = '#'

def keepsInUser (c : Char) : Bool := Path.keeps c && !"/:;=@[\\]^|".toList.contains c

def userField (cs : List Char) : String :=
  String.ofList (Text.Percent.encode keepsInUser cs)

/-- The name before the last at-sign of the authority, and what follows it. -/
def readUser (kind : SchemeKind) (cs : List Char) :
    Except Problem ((String × Option String) × List Char) :=
  let region := cs.takeWhile (!endsAuthority kind ·)
  if '@' ∉ region then .ok (("", none), cs)
  else
    let user := ((region.reverse.dropWhile (· ≠ '@')).drop 1).reverse
    let rest := cs.drop (user.length + 1)
    if user = [] && rest.head?.any (endsAuthority kind) then .error .emptyHost
    else
      let name := user.takeWhile (· ≠ ':')
      let password := match user.dropWhile (· ≠ ':') with
        | _ :: p :: ps => some (userField (p :: ps))
        | _ => none
      .ok ((userField name, password), rest)

/-- The characters of the host: up to a colon outside brackets or the end of the authority. -/
def hostLength (kind : SchemeKind) : (inBrackets : Bool) → List Char → Nat
  | _, [] => 0
  | inBrackets, c :: cs =>
    if (c = ':' && !inBrackets) || endsAuthority kind c then 0
    else hostLength kind ((inBrackets || c = '[') && c ≠ ']') cs + 1

def readHost (kind : SchemeKind) (cs : List Char) : Except Problem (Host × List Char) := do
  let n := hostLength kind false cs
  let rest := cs.drop n
  if kind = .other then
    let host ← Host.readPlain (cs.take n)
    if n = 0 && rest.head? = some ':' then .error .emptyHost else pure (host, rest)
  else if n = 0 then .error .emptyHost
  else pure (← Host.read (cs.take n), rest)

/-- The port, unless it is the usual one of the scheme. -/
def readPort (scheme : String) (cs : List Char) : Except Problem (Option Nat × List Char) :=
  match cs with
  | ':' :: rest =>
    let digits := rest.takeWhile Char.isDigit
    let after := rest.dropWhile Char.isDigit
    let port := digits.foldl (fun n c => n * 10 + (c.toNat - 48)) 0
    if 65535 < port then .error .badPort
    else if after.head?.any fun c => !(c = '/' || c = '\\' || c = '?' || c = '#') then
      .error .badPort
    else if digits = [] || some port = defaultPort scheme then .ok (none, after)
    else .ok (some port, after)
  | _ => .ok (none, cs)

def readAuthority (scheme : String) (cs : List Char) :
    Except Problem (Authority × List Char) := do
  let kind := SchemeKind.of scheme
  let (user, afterUser) ← readUser kind cs
  let (host, afterHost) ← readHost kind afterUser
  let (port, rest) ← readPort scheme afterHost
  let authority : Authority := ⟨user.1, user.2, host, port⟩
  if host = .name "" && authority.hasUser then .error .emptyHost else pure (authority, rest)

def keepsInQuery (kind : SchemeKind) (c : Char) : Bool :=
  Text.Percent.isGraphic c && !" \"#<>".toList.contains c && (kind = .other || c ≠ '\'')

def keepsInFragment (c : Char) : Bool :=
  Text.Percent.isGraphic c && !" \"<>`".toList.contains c

def readFragment (cs : List Char) : Option String :=
  match cs with
  | '#' :: rest => some (String.ofList (Text.Percent.encode keepsInFragment rest))
  | _ => none

/-- Query and fragment of a text that starts with one of their marks or is empty. -/
def readTail (kind : SchemeKind) (cs : List Char) : Option String × Option String :=
  match cs with
  | '?' :: rest =>
    (some (String.ofList (Text.Percent.encode (keepsInQuery kind) (rest.takeWhile (· ≠ '#')))),
      readFragment (rest.dropWhile (· ≠ '#')))
  | _ => (none, readFragment cs)

def endsPath (c : Char) : Bool := c = '?' || c = '#'

/-- The part of a text before its query and fragment, and the rest. -/
def spanPath (cs : List Char) : List Char × List Char :=
  (cs.takeWhile (!endsPath ·), cs.dropWhile (!endsPath ·))

/-- Drops one slash from the front. -/
def dropSlash (kind : SchemeKind) (cs : List Char) : List Char :=
  match cs with
  | c :: rest => if isSlash kind c then rest else cs
  | [] => []

/-- The segments of an absolute path. -/
def absoluteSegments (kind : SchemeKind) (cs : List Char) : List String :=
  Path.resolve [] (Path.readSegments (isSlash kind) (dropSlash kind cs))

/-- Reads an address after the two slashes that open its authority. -/
def readHierarchical (scheme : String) (cs : List Char) : Except Problem Url := do
  let kind := SchemeKind.of scheme
  let (authority, rest) ← readAuthority scheme cs
  let (path, tail) := spanPath rest
  let segments := if kind = .other && path = [] then [] else absoluteSegments kind path
  let (query, fragment) := readTail kind tail
  pure ⟨scheme, some authority, .segments segments, query, fragment⟩

/-- The letter of a drive is followed by a colon in the address of a file. -/
def normalizeDrive : List String → List String
  | s :: rest =>
    if Path.isDrive s then String.ofList (s.toList.take 1 ++ [':']) :: rest else s :: rest
  | [] => []

/-- Empty segments before the first other one say nothing in the address of a file. -/
def fileSegments (cs : List Char) : List String :=
  let raw := Path.readSegments (isSlash .file) cs
  let kept := raw.dropWhile (· = "")
  Path.resolve [] (if kept = [] then [""] else normalizeDrive kept)

/-- Reads the address of a file after its scheme. -/
def readFile (cs : List Char) : Except Problem Url := do
  let (before, tail) := spanPath cs
  let (query, fragment) := readTail .file tail
  let build (host : Host) (path : List Char) : Url :=
    ⟨"file", some { host }, .segments (fileSegments path), query, fragment⟩
  match before with
  | a :: b :: rest =>
    if isSlash .file a && isSlash .file b then
      let host := rest.takeWhile (!isSlash .file ·)
      if host = [] || Path.isDrive (String.ofList host) then pure (build (.name "") rest)
      else
        let read ← Host.read host
        let path := rest.dropWhile (!isSlash .file ·)
        pure (build (if read = .name "localhost" then .name "" else read) path)
    else pure (build (.name "") before)
  | _ => pure (build (.name "") before)

/-- Reads an address after its scheme. -/
def ofScheme (scheme : String) (cs : List Char) : Except Problem Url :=
  match SchemeKind.of scheme with
  | .web => readHierarchical scheme (cs.dropWhile (isSlash .web))
  | .file => readFile cs
  | .other =>
    match cs with
    | '/' :: '/' :: rest => readHierarchical scheme rest
    | _ =>
      let (before, tail) := spanPath cs
      let (query, fragment) := readTail .other tail
      let path : Path := match before with
        | '/' :: rest => .segments (Path.resolve [] (Path.readSegments (isSlash .other) rest))
        | _ => .plain (String.ofList (Text.Percent.encode Text.Percent.isGraphic before))
      .ok ⟨scheme, none, path, query, fragment⟩

/-- Reads an address that stands on its own. -/
def read (text : String) : Except Problem Url :=
  match splitScheme (clean text) with
  | some (scheme, rest) => ofScheme scheme rest
  | none => .error .noBase

private def shown (text : String) : String :=
  match read text with
  | .ok u => u.text
  | .error p => p.message

example : shown "HTTP://u:p@[::1]:80/a/../b?c#d" = "http://u:p@[::1]/b?c#d" := by decide +kernel
example : shown " mailto:x@y " = "mailto:x@y" ∧ shown "http://" = "empty host" := by
  decide +kernel

end Shakedown.Url
