import Shakedown.Url.Reader

/-!
Web addresses that references are read against.

A reference is an address of its own, or says how to get from the base to the address meant, the
way a link on a page does.
-/

namespace Shakedown.Url

structure Base where
  secure : Bool
  authority : Authority
  segments : List String
  query : Option String := none
deriving DecidableEq

namespace Base

def schemeOf (secure : Bool) : String := if secure then "https" else "http"

def scheme (b : Base) : String := schemeOf b.secure

/-- The base that an address is. Only a web address is any, and it has an authority and segments. -/
def ofUrl (u : Url) : Except Problem Base :=
  match u.authority, u.path with
  | some authority, .segments segments =>
    if u.isWeb then .ok ⟨u.scheme = "https", authority, segments, u.query⟩ else .error .noBase
  | _, _ => .error .noBase

/-- The address of a resource that the base's authority answers for. -/
def url (b : Base) (segments : List String) (query fragment : Option String) : Url :=
  ⟨b.scheme, some b.authority, .segments segments, query, fragment⟩

/-- Takes the path, query and fragment of a text from the given segments on. -/
def follow (b : Base) (start : List String) (cs : List Char) : Url :=
  let (path, tail) := spanPath cs
  let (query, fragment) := readTail .web tail
  b.url (Path.resolve start (Path.readSegments (isSlash .web) path)) query fragment

/-- Drops two slashes if they are no backslashes, and else every slash there is. -/
def dropSlashes (cs : List Char) : List Char :=
  match cs with
  | '/' :: '/' :: rest => rest
  | _ => cs.dropWhile (isSlash .web)

/-- Whether a text starts with two slashes of either kind. -/
def opensAuthority (cs : List Char) : Bool :=
  match cs with
  | a :: b :: _ => isSlash .web a && isSlash .web b
  | _ => false

/-- Reads a reference without a scheme. -/
def resolve (b : Base) (cs : List Char) : Except Problem Url :=
  match cs with
  | [] => .ok (b.url b.segments b.query none)
  | '?' :: _ => .ok (b.url b.segments (readTail .web cs).1 (readTail .web cs).2)
  | '#' :: _ => .ok (b.url b.segments b.query (readFragment cs))
  | first :: rest =>
    if opensAuthority cs then readHierarchical b.scheme (dropSlashes cs)
    else if isSlash .web first then .ok (b.follow [] rest)
    else .ok (b.follow b.segments.dropLast cs)

/-- Reads a reference. The base's own scheme without two slashes after it says nothing. -/
def join (b : Base) (reference : String) : Except Problem Url :=
  let cs := clean reference
  match splitScheme cs with
  | some (scheme, rest) =>
    if scheme = b.scheme && !opensAuthority rest then b.resolve rest else ofScheme scheme rest
  | none => b.resolve cs

end Base
end Shakedown.Url
