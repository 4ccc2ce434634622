import StaticPage.Files.Access

/-!
# Path patterns

A pattern is a path whose components hold wildcards: `?` stands for one character, `*` for any text,
brackets for one character of a class, and a component of two asterisks for any directories. The paths
that match a pattern are found from the outermost directory inwards, those of a directory in the order
of their names.
-/

namespace StaticPage.Glob

inductive Member where
  | single (c : Char)
  | range (low high : Char)
  deriving DecidableEq, Repr, Inhabited

inductive Token where
  | char (c : Char)
  | anyChar
  | anyText
  | anyDirectories
  | within (members : List Member)
  | except (members : List Member)
  deriving DecidableEq, Repr, Inhabited

/-- Why a text is no pattern. -/
inductive Cause where
  | longWildcard
  | dividedWildcard
  | invalidRange
  deriving DecidableEq, Repr, Inhabited

/-- A cause, and the number of characters before it. -/
structure Fault where
  position : Nat
  cause : Cause
  deriving DecidableEq, Repr, Inhabited

def Fault.message (f : Fault) : String :=
  let reason :=
    match f.cause with
    | .longWildcard => "wildcards are either regular \x60*\x60 or recursive \x60**\x60"
    | .dividedWildcard => "recursive wildcards must form a single path component"
    | .invalidRange => "invalid range pattern"
  "Pattern syntax error near position " ++ toString f.position ++ ": " ++ reason

/-! ### Reading patterns -/

def members : List Char → List Member
  | a :: '-' :: b :: rest => .range a b :: members rest
  | a :: rest => .single a :: members rest
  | [] => []

/-- The class after an opening bracket, and the number of characters up to its end. The first
character of a class does not close it. -/
def class? (s : List Char) : Option (Token × Nat) :=
  match s with
  | '!' :: first :: rest =>
    let others := rest.takeWhile (· != ']')
    if others.length = rest.length then none
    else some (.except (members (first :: others)), others.length + 3)
  | first :: rest =>
    let others := rest.takeWhile (· != ']')
    if first = '!' ∨ others.length = rest.length then none
    else some (.within (members (first :: others)), others.length + 2)
  | [] => none

/-- The tokens of a text that begins at a position, behind the character `before` if there is one. -/
def tokens (before : Option Char) (position : Nat) (s : List Char) : Except Fault (List Token) :=
  match s with
  | [] => .ok []
  | c :: rest =>
    if c = '?' then (tokens (some c) (position + 1) rest).map (.anyChar :: ·)
    else if c = '*' then
      let more := (rest.takeWhile (· == '*')).length
      if more = 0 then (tokens (some c) (position + 1) rest).map (.anyText :: ·)
      else if 1 < more then .error ⟨position + 2, .longWildcard⟩
      else if before.any (· != '/') then .error ⟨position - 1, .dividedWildcard⟩
      else
        match hafter : rest.drop 1 with
        | [] => .ok [.anyDirectories]
        | '/' :: after => (tokens (some '/') (position + 3) after).map (.anyDirectories :: ·)
        | _ => .error ⟨position + 2, .dividedWildcard⟩
    else if c = '[' then
      match class? rest with
      | some (token, k) =>
        (tokens (some ']') (position + k + 1) (rest.drop k)).map (token :: ·)
      | none => .error ⟨position, .invalidRange⟩
    else (tokens (some c) (position + 1) rest).map (.char c :: ·)
termination_by s.length
decreasing_by
  all_goals simp only [List.length_cons, List.length_drop]
  all_goals try omega
  have hlength := congrArg List.length hafter
  simp only [List.length_drop, List.length_cons] at hlength
  omega

/-- A component of a pattern: a name, a name with wildcards, or any directories. -/
inductive Part where
  | name (s : String)
  | wild (tokens : List Token)
  | directories
  deriving DecidableEq, Repr, Inhabited

def Part.ofText (s : List Char) : Except Fault Part :=
  (tokens none 0 s).map fun ts =>
    if ts.contains .anyDirectories then .directories
    else if ts.all fun t => match t with | .char _ => true | _ => false then .name (String.ofList s)
    else .wild ts

/-- A pattern: whether it begins at the root, whether it ends in a slash, and its components. -/
structure Pattern where
  absolute : Bool
  directoriesOnly : Bool
  parts : List Part
  deriving DecidableEq, Repr, Inhabited

/-- The pattern that a text stands for. The whole text is read first, then each component by itself. -/
def Pattern.parse (text : String) : Except Fault Pattern := do
  let s := text.toList
  let _ ← tokens none 0 s
  let absolute := s.head? = some '/'
  let relative := s.dropWhile (· == '/')
  let slash := s.getLast? = some '/'
  let pieces := relative.splitOn '/'
  let pieces := if slash && !relative.isEmpty then pieces.dropLast else pieces
  let parts ← pieces.mapM Part.ofText
  return ⟨absolute, slash, parts⟩

/-! ### Matching names -/

def Member.holds (c : Char) : Member → Bool
  | single a => a == c
  | range low high => low ≤ c && c ≤ high

def matchTokens : List Token → List Char → Bool
  | [], s => s.isEmpty
  | .anyText :: ts, [] => matchTokens ts []
  | .anyText :: ts, c :: s => matchTokens ts (c :: s) || matchTokens (.anyText :: ts) s
  | .anyDirectories :: ts, s => matchTokens ts s
  | .char a :: ts, c :: s => a == c && matchTokens ts s
  | .anyChar :: ts, _ :: s => matchTokens ts s
  | .within ms :: ts, c :: s => ms.any (Member.holds c) && matchTokens ts s
  | .except ms :: ts, c :: s => !ms.any (Member.holds c) && matchTokens ts s
  | _ :: _, [] => false
termination_by ts s => ts.length + s.length

def Part.matchesName (p : Part) (name : String) : Bool :=
  match p with
  | .name s => s == name
  | .wild ts => matchTokens ts name.toList
  | .directories => true

/-! ### Finding paths -/

/-- A path that was met, and whether it is a directory. -/
structure Place where
  path : String
  isDirectory : Bool
  deriving DecidableEq, Repr, Inhabited

/-- The path of a name in a directory; the working directory is not written. -/
def inside (directory name : String) : String :=
  if directory = "." then name else Path.join directory name

section

variable {m : Type → Type} [Monad m]

def placeOf (fs : FileAccess m) (path : String) : m Place :=
  return ⟨path, ← fs.isDirectory path⟩

/-- The names of a directory by their bytes. -/
def sortedNames (fs : FileAccess m) (path : String) : m (List String) :=
  return (← fs.names path).mergeSort fun a b => a ≤ b

/-- The names of the current and the outer directory, if a component with wildcards says so by its
first character. -/
def dotNames (p : Part) : List String :=
  match p with
  | .wild (.char '.' :: _) => ["..", "."].filter p.matchesName
  | _ => []

mutual

/-- The paths in a directory that match components. Each step makes the path longer or the components
fewer, so that the length that a path may have bounds their number. -/
def find (fs : FileAccess m) (only : Bool) (parts : List Part) (place : Place) :
    (fuel : Nat) → m (List String)
  | 0 => return []
  | fuel + 1 =>
    match parts with
    | [] => return if only && !place.isDirectory then [] else [place.path]
    | .name s :: rest => do
      let next := inside place.path s
      let found ← if s = "." ∨ s = ".." then pure place.isDirectory else fs.isThere next
      if found then find fs only rest (← placeOf fs next) fuel else return []
    | p :: rest => do
      if !place.isDirectory then return []
      let dots ← (dotNames p).mapM fun name => do
        find fs only rest (← placeOf fs (Path.join place.path name)) fuel
      let names ← sortedNames fs place.path
      let found ← names.mapM fun name => do
        visit fs only (p :: rest) name (← placeOf fs (inside place.path name)) fuel
      return (dots ++ found).flatten

/-- The paths at or below a place with this name that match components, the first of which has
wildcards. -/
def visit (fs : FileAccess m) (only : Bool) (parts : List Part) (name : String) (place : Place) :
    (fuel : Nat) → m (List String)
  | 0 => return []
  | fuel + 1 =>
    match parts with
    | .directories :: rest => do
      let rest := rest.dropWhile (· == .directories)
      let direct ←
        match rest with
        | [] => pure (if place.isDirectory then [place.path] else [])
        | p :: others => if p.matchesName name then find fs only others place fuel else pure []
      let below ←
        if place.isDirectory then find fs only (.directories :: rest) place fuel else pure []
      return direct ++ below
    | p :: rest => if p.matchesName name then find fs only rest place fuel else return []
    | [] => return []

end

def Pattern.paths (p : Pattern) (fs : FileAccess m) : m (List String) := do
  let place ← placeOf fs (if p.absolute then "/" else ".")
  find fs p.directoriesOnly p.parts place (FileTree.pathLimit + p.parts.length)

end

end StaticPage.Glob
