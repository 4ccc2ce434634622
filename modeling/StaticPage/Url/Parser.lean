import StaticPage.Url.Basic

/-!
# Reading URLs

Blanks around a URL and line breaks in it count for nothing. The host is checked before the scheme is
asked whether it can be fetched, so that a URL of an unknown scheme may be refused for its host.
-/

namespace StaticPage.Url

/-- How the part behind the scheme is read. -/
inductive Form where
  /-- Authority and path, whatever slashes stand before them; a backslash is a slash. -/
  | web
  /-- A path on this machine, or with a host behind two slashes. -/
  | file
  /-- An authority behind two slashes, or nothing that is looked at. -/
  | free
  deriving DecidableEq, Repr

def formOf (scheme : List Char) : Form :=
  if ["http", "https", "ws", "wss", "ftp"].any (·.toList == scheme) then .web
  else if scheme = "file".toList then .file
  else .free

/-- The text without blanks and controls around it, and without tabs and line breaks. -/
def strip (s : List Char) : List Char :=
  let isEdge (c : Char) : Bool := c ≤ ' '
  let trimmed := ((s.dropWhile isEdge).reverse.dropWhile isEdge).reverse
  trimmed.filter fun c => !(c == '\t' || c == '\n' || c == '\r')

/-- The scheme in lower case, and what follows its colon. -/
def cutScheme? (s : List Char) : Option (List Char × List Char) :=
  let isLater (c : Char) : Bool := c.isAlphanum || c == '+' || c == '-' || c == '.'
  match s, s.dropWhile isLater with
  | c :: _, ':' :: rest =>
    if c.isAlpha then some ((s.takeWhile isLater).map Char.toLower, rest) else none
  | _, _ => none

/-- A slash, or a backslash where it counts as one. -/
def isSlash (web : Bool) (c : Char) : Bool :=
  c == '/' || (web && c == '\\')

def endsAuthority (web : Bool) (c : Char) : Bool :=
  isSlash web c || c == '?' || c == '#'

/-- What stands before the host, and the text from the host on. -/
def cutUser (web : Bool) (s : List Char) : Option (List Char) × List Char :=
  let authority := s.takeWhile (!endsAuthority web ·)
  let host := (authority.reverse.takeWhile (· != '@')).length
  if host = authority.length then (none, s)
  else
    let user := authority.length - host - 1
    (some (s.take user), s.drop (user + 1))

/-- The length of a host: a colon ends it, unless it is between brackets. -/
def hostLength (web : Bool) (bracketed : Bool) : List Char → Nat
  | [] => 0
  | c :: s =>
    if endsAuthority web c || (c == ':' && !bracketed) then 0
    else
      hostLength web (if c == '[' then true else if c == ']' then false else bracketed) s + 1

/-- Reads a port after its colon, and gives it unless nothing is written. -/
def readPort (s : List Char) : Except Fault (Option Nat × List Char) :=
  let digits := s.takeWhile Char.isDigit
  let rest := s.dropWhile Char.isDigit
  let port := digits.foldl (fun n c => 10 * n + (c.toNat - 48)) 0
  if 65535 < port then .error .badPort
  else if rest.head?.any (!endsAuthority true ·) then .error .badPort
  else .ok (if digits.isEmpty then none else some port, rest)

structure Authority where
  host : Host
  port : Option Nat

/-- Reads an authority. A user before a missing host is a fault, and so is a port behind one; a web
address needs a host. -/
def readAuthority (web : Bool) (s : List Char) : Except Fault (Authority × List Char) := do
  let (user, s) := cutUser web s
  if user = some [] ∧ s.head?.any (endsAuthority web) then throw .emptyHost
  let length := hostLength web false s
  let written := s.take length
  let rest := s.drop length
  if web && written.isEmpty then throw .emptyHost
  let host ← if web then Host.parse written else Host.parseOpaque written
  let missing := host = .name []
  if missing ∧ rest.head? = some ':' then throw .emptyHost
  let (port, rest) ← match rest with
    | ':' :: r => readPort r
    | _ => pure (none, rest)
  if missing ∧ user.any (fun u => u ≠ [] ∧ u ≠ [':']) then throw .emptyHost
  return (⟨host, port⟩, rest)

/-! ### Path, query and fragment -/

/-- A segment that stands for the path it is in. -/
def isDot (segment : List Char) : Bool :=
  [".", "%2e"].any (·.toList == segment.map Char.toLower)

/-- A segment that stands for the path around the one it is in. -/
def isDoubleDot (segment : List Char) : Bool :=
  ["..", ".%2e", "%2e.", "%2e%2e"].any (·.toList == segment.map Char.toLower)

/-- Walks the segments of a path. Segments of dots are carried out; at the end of the path they leave
an empty one. -/
def walkPath (done : List (List Char)) : List (List Char) → List (List Char)
  | [] => done
  | s :: rest =>
    if isDoubleDot s then
      walkPath (if rest.isEmpty then done.dropLast ++ [[]] else done.dropLast) rest
    else if isDot s then walkPath (if rest.isEmpty then done ++ [[]] else done) rest
    else walkPath (done ++ [encode pathReserved s]) rest

def readPath (s : List Char) : List (List Char) :=
  let s := s.map fun c => if c == '\\' then '/' else c
  walkPath [] ((if s.head? = some '/' then s.drop 1 else s).splitOn '/')

def readTail (scheme : Scheme) (a : Authority) (s : List Char) : Url :=
  let front := s.takeWhile (· != '#')
  { scheme
    host := a.host
    port := a.port.filter (· != scheme.defaultPort)
    path := readPath (front.takeWhile (· != '?'))
    query := match front.dropWhile (· != '?') with
      | _ :: q => some (encode queryReserved q)
      | [] => none
    fragment := match s.dropWhile (· != '#') with
      | _ :: f => some (encode fragmentReserved f)
      | [] => none }

/-! ### The whole -/

/-- A letter and a colon, or a bar, name a drive and no host. -/
def isDrive (s : List Char) : Bool :=
  match s with
  | [c, d] => c.isAlpha && (d == ':' || d == '|')
  | _ => false

def checkFile (s : List Char) : Except Fault Unit :=
  match s with
  | a :: b :: rest =>
    let host := rest.takeWhile (!endsAuthority true ·)
    if isSlash true a && isSlash true b && !host.isEmpty && !isDrive host then
      discard (Host.parse host)
    else .ok ()
  | _ => .ok ()

def parse (text : String) : Except Fault Url := do
  match cutScheme? (strip text.toList) with
  | none => throw .noScheme
  | some (scheme, rest) =>
    let unsupported : Fault := .unsupportedScheme (String.ofList scheme)
    match formOf scheme with
    | .web =>
      let (a, rest) ← readAuthority true (rest.dropWhile (isSlash true))
      match Scheme.ofName? scheme with
      | some known => return readTail known a rest
      | none => throw unsupported
    | .file =>
      checkFile rest
      throw unsupported
    | .free =>
      match rest with
      | '/' :: '/' :: r =>
        let _ ← readAuthority false r
        throw unsupported
      | _ => throw unsupported

end StaticPage.Url
