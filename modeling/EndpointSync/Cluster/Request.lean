/-!
# Requests to the cluster

Objects are read from paths. A name goes into the path as it is, so a name may make the path
invalid, in which case nothing is asked, and a question mark in it starts the query.
-/

namespace EndpointSync

structure Request where
  path : String
  /-- The pairs of the query, still encoded. -/
  query : List (String × String)
deriving DecidableEq, Repr, Inhabited

/-- A description of the objects that a path leads to. -/
structure ApiResource where
  group : String
  version : String
  kind : String
  plural : String
deriving DecidableEq, Repr, Inhabited

/-- The version with its group; the core group has no name. -/
def ApiResource.apiVersion (r : ApiResource) : String :=
  if r.group = "" then r.version else r.group ++ "/" ++ r.version

/-- The path of all objects of a resource, or of those in a namespace. -/
def ApiResource.path (r : ApiResource) (namespaceName : Option String) : String :=
  (if r.group = "" then "/api/" else "/apis/") ++ r.apiVersion ++ "/" ++
    (match namespaceName with
      | some ns => "namespaces/" ++ ns ++ "/"
      | none => "") ++ r.plural

namespace Request

def isPathChar (c : Char) : Bool :=
  let n := c.toNat
  n == 0x21 || n == 0x22 || (0x24 ≤ n && n ≤ 0x3B) || n == 0x3D || (0x40 ≤ n && n ≤ 0x5F) ||
    (0x61 ≤ n && n ≤ 0x7E) || 0x7F ≤ n

def isQueryChar (c : Char) : Bool :=
  let n := c.toNat
  n == 0x21 || (0x24 ≤ n && n ≤ 0x3B) || n == 0x3D || (0x3F ≤ n && n ≤ 0x7E) || 0x7F ≤ n

/-- The most octets that a target may have. -/
def maxLength : Nat := 65534

/-- The pairs of a query. Pieces without an equals sign are no pairs. -/
def pairs (query : List Char) : List (String × String) :=
  (query.splitOn '&').filterMap fun piece ↦
    if '=' ∈ piece then
      some (String.ofList (piece.takeWhile (· ≠ '=')),
        String.ofList ((piece.dropWhile (· ≠ '=')).drop 1))
    else none

/-- The request for a target. A fragment is not sent. -/
def ofTarget? (target : String) : Option Request :=
  let cs := target.toList.takeWhile (· ≠ '#')
  let path := cs.takeWhile (· ≠ '?')
  let query := (cs.dropWhile (· ≠ '?')).drop 1
  if path.all isPathChar && query.all isQueryChar && target.utf8ByteSize ≤ maxLength then
    some ⟨String.ofList path, pairs query⟩
  else none

/-- The request for one object. Nothing is asked for an empty name. -/
def ofObject? (r : ApiResource) (namespaceName : Option String) (name : String) : Option Request :=
  if name = "" then none else ofTarget? (r.path namespaceName ++ "/" ++ name)

def ofList? (r : ApiResource) (namespaceName : Option String) : Option Request :=
  ofTarget? (r.path namespaceName ++ "?")

/-- An octet as it is written in a query: letters, digits and some marks stay, a blank becomes a
plus sign, and every other octet is written with a percent sign. -/
def encodeOctet (b : UInt8) : List Char :=
  let c := Char.ofNat b.toNat
  if c.isAlphanum || c ∈ ['*', '-', '.', '_'] then [c]
  else if c == ' ' then ['+']
  else
    let ds := (Nat.toDigits 16 b.toNat).map Char.toUpper
    '%' :: (List.replicate (2 - ds.length) '0' ++ ds)

/-- A text as a value in a query. -/
def formEncoded (s : String) : String := String.ofList (s.toUTF8.data.toList.flatMap encodeOctet)

/-- How long the cluster keeps a watch open, in seconds. -/
def watchSeconds : Nat := 290

/-- The request to watch the objects of a resource from a version on. -/
def ofWatch? (r : ApiResource) (namespaceName : Option String) (version : String) :
    Option Request :=
  ofTarget? (r.path namespaceName ++ "?&watch=true&timeoutSeconds=" ++ toString watchSeconds ++
    "&allowWatchBookmarks=true&resourceVersion=" ++ formEncoded version)

end Request

/-- What is asked about the objects of a resource. -/
inductive Ask where
  /-- Which objects there are. -/
  | list
  /-- What happens to them from a version on. -/
  | watch (version : String)
deriving DecidableEq, Repr, Inhabited

def Ask.request? (r : ApiResource) (namespaceName : Option String) : Ask → Option Request
  | .list => Request.ofList? r namespaceName
  | .watch version => Request.ofWatch? r namespaceName version

end EndpointSync
