import StaticPage.Yaml.Lexer

/-!
# Events of a YAML document

A document is the series of events that a walk over its tree meets: scalars and aliases, and the
beginnings and ends of collections. The series is kept up to the fault that ends the text, because
what is said before a fault may be refused for a reason of its own.
-/

namespace StaticPage.Yaml

structure Scalar where
  text : String
  plain : Bool
  tag : Option String
  deriving DecidableEq, Repr, Inhabited

/-- What a walk over a document meets. -/
inductive EventKind where
  /-- Stands for the node whose anchor has a number. -/
  | reference (anchor : Nat)
  | scalar (s : Scalar)
  | sequenceStart | sequenceEnd | mappingStart | mappingEnd
  deriving DecidableEq, Repr, Inhabited

structure Event where
  kind : EventKind
  mark : Mark
  deriving DecidableEq, Repr, Inhabited

structure Document where
  events : List Event
  /-- The fault that the text ends with, if it is in this document. -/
  fault : Option Fault
  /-- For the number of an anchor, how many events come before its node. -/
  anchors : List (Nat × Nat)
  /-- Whether anything but the end of the text follows. -/
  followed : Bool
  deriving Repr, Inhabited

/-- The walk over the tokens of a text. -/
structure Walk where
  tokens : List Token
  /-- The fault behind the last token. -/
  fault : Fault
  /-- The handles of tags and what they stand for, latest first. -/
  handles : List (List Char × List Char)
  /-- The names of anchors and their numbers, latest first. -/
  names : List (List Char × Nat)
  anchors : List (Nat × Nat)
  events : List Event

/-- A step of the walk, which may meet a fault. -/
abbrev WalkM := ExceptT Fault (StateM Walk)

namespace Walk

/-- Stops with a problem at a token, within a task. -/
def stop {α : Type} (problem : Problem) (mark : Mark) (task : Task) (begun : Mark) : WalkM α :=
  throw (.source problem mark (some ⟨task, begun⟩))

def peek : WalkM Token := do
  match (← getThe Walk).tokens with
  | t :: _ => return t
  | [] => throw (← getThe Walk).fault

/-- Passes the next token, and gives the one after it. -/
def pass : WalkM Token := do
  modifyThe Walk fun w => { w with tokens := w.tokens.drop 1 }
  peek

/-- Passes the next token without asking for another. -/
def passLast : WalkM Unit :=
  modifyThe Walk fun w => { w with tokens := w.tokens.drop 1 }

def meet (kind : EventKind) (mark : Mark) : WalkM Unit :=
  modifyThe Walk fun w => { w with events := w.events ++ [⟨kind, mark⟩] }

/-- Meets the node that is written by nothing. -/
def meetEmpty (mark : Mark) : WalkM Unit :=
  meet (.scalar ⟨"", true, none⟩) mark

/-- Notes the anchor of the node that is met next. Its number is that of the names before it. -/
def noteAnchor (name : Option (List Char)) : WalkM Unit :=
  match name with
  | none => pure ()
  | some name => modifyThe Walk fun w =>
    let number := (w.names.map Prod.fst).eraseDups.length
    { w with
      names := (name, number) :: w.names
      anchors := (number, w.events.length) :: w.anchors }

/-! ### Directives -/

def addHandle (name meaning : List Char) : WalkM Unit :=
  modifyThe Walk fun w =>
    if (w.handles.lookup name).isSome then w else { w with handles := (name, meaning) :: w.handles }

/-- The handles that need no directive. -/
def addUsualHandles : WalkM Unit := do
  addHandle ['!'] ['!']
  addHandle ['!', '!'] "tag:yaml.org,2002:".toList

/-- Passes the directives before a document. Neither the version nor a handle may be given twice. -/
def directives : (fuel : Nat) → (versioned : Bool) → Token → WalkM Token
  | 0, _, t => return t
  | fuel + 1, versioned, t =>
    match t.kind with
    | .version major minor => do
      if versioned then throw (.source .repeatedVersion t.start none)
      if major ≠ 1 ∨ (minor ≠ 1 ∧ minor ≠ 2) then throw (.source .wrongVersion t.start none)
      directives fuel true (← pass)
    | .handle name meaning => do
      if ((← getThe Walk).handles.lookup name).isSome then
        throw (.source .repeatedHandle t.start none)
      addHandle name meaning
      directives fuel versioned (← pass)
    | _ => return t

/-! ### Nodes -/

/-- What stands before a node: its anchor and its tag, with the place of the latter. -/
structure Properties where
  anchor : Option (List Char)
  tag : Option (List Char × List Char × Mark)

def anchor? (t : Token) : WalkM (Option (List Char) × Token) :=
  match t.kind with
  | .anchor name => return (some name, ← pass)
  | _ => return (none, t)

def tag? (t : Token) : WalkM (Option (List Char × List Char × Mark) × Token) :=
  match t.kind with
  | .tag handle suffix => return (some (handle, suffix, t.start), ← pass)
  | _ => return (none, t)

/-- Passes what stands before a node, in either order. -/
def properties (t : Token) : WalkM (Properties × Token) := do
  match t.kind with
  | .anchor _ =>
    let (anchor, t) ← anchor? t
    let (tag, t) ← tag? t
    return (⟨anchor, tag⟩, t)
  | _ =>
    let (tag, t) ← tag? t
    if tag.isSome then
      let (anchor, t) ← anchor? t
      return (⟨anchor, tag⟩, t)
    else return (⟨none, none⟩, t)

/-- The whole of a tag, its handle replaced by what it stands for. -/
def fullTag (begun : Mark) : Option (List Char × List Char × Mark) → WalkM (Option String)
  | none => return none
  | some (handle, suffix, mark) => do
    if handle.isEmpty then return some (String.ofList suffix)
    match (← getThe Walk).handles.lookup handle with
    | some meaning => return some (String.ofList (meaning ++ suffix))
    | none => stop .undefinedHandle mark .node begun

mutual

/-- Walks over a node. In a block it may be a block collection; as an item of a block mapping it may
also be a sequence that is not indented. -/
def node (fuel : Nat) (block undented : Bool) : WalkM Unit :=
  match fuel with
  | 0 => pure ()
  | fuel + 1 => do
    let t ← peek
    let begun := t.start
    if let .reference name := t.kind then
      match (← getThe Walk).names.lookup name with
      | some number =>
        passLast
        meet (.reference number) begun
      | none => throw (.unknownAnchor begun)
    else
      let (given, t) ← properties t
      let tag ← fullTag begun given.tag
      let enter (kind : EventKind) : WalkM Unit := do
        noteAnchor given.anchor
        meet kind begun
      match t.kind with
      | .entry =>
        if undented then
          enter .sequenceStart
          undentedItems fuel
        else absent block begun t given tag
      | .scalar text plain =>
        enter (.scalar ⟨String.ofList text, plain, tag⟩)
        passLast
      | .flowSequenceStart =>
        enter .sequenceStart
        flowItems fuel t.start true (← pass)
      | .flowMappingStart =>
        enter .mappingStart
        flowPairs fuel t.start true (← pass)
      | .blockSequenceStart =>
        if block then
          enter .sequenceStart
          blockItems fuel t.start (← pass)
        else absent block begun t given tag
      | .blockMappingStart =>
        if block then
          enter .mappingStart
          blockPairs fuel t.start (← pass)
        else absent block begun t given tag
      | _ => absent block begun t given tag

/-- A node of which nothing is written but what stands before it. -/
def absent (block : Bool) (begun : Mark) (t : Token) (given : Properties) (tag : Option String) :
    WalkM Unit :=
  if given.anchor.isSome || tag.isSome then do
    noteAnchor given.anchor
    meet (.scalar ⟨"", true, tag⟩) begun
  else stop .missingContent t.start (if block then .blockNode else .flowNode) begun

def blockItems (fuel : Nat) (begun : Mark) (t : Token) : WalkM Unit :=
  match fuel with
  | 0 => pure ()
  | fuel + 1 =>
    match t.kind with
    | .entry => do
      let next ← pass
      if next.kind = .entry ∨ next.kind = .blockEnd then meetEmpty t.stop
      else node fuel true false
      blockItems fuel begun (← peek)
    | .blockEnd => do
      meet .sequenceEnd t.start
      passLast
    | _ => stop .missingDash t.start .blockSequence begun

/-- Walks over the items of a sequence that is not indented, up to a token of another kind. -/
def undentedItems (fuel : Nat) : WalkM Unit :=
  match fuel with
  | 0 => pure ()
  | fuel + 1 => do
    let t ← peek
    if t.kind = .entry then
      let next ← pass
      if [.entry, .key, .value, .blockEnd].contains next.kind then meetEmpty t.stop
      else node fuel true false
      undentedItems fuel
    else meet .sequenceEnd t.start

def blockPairs (fuel : Nat) (begun : Mark) (t : Token) : WalkM Unit :=
  match fuel with
  | 0 => pure ()
  | fuel + 1 =>
    match t.kind with
    | .key => do
      let next ← pass
      if [.key, .value, .blockEnd].contains next.kind then meetEmpty t.stop
      else node fuel true true
      let v ← peek
      if v.kind = .value then
        let next ← pass
        if [.key, .value, .blockEnd].contains next.kind then meetEmpty v.stop
        else node fuel true true
      else meetEmpty v.start
      blockPairs fuel begun (← peek)
    | .blockEnd => do
      meet .mappingEnd t.start
      passLast
    | _ => stop .missingKey t.start .blockMapping begun

def flowItems (fuel : Nat) (begun : Mark) (first : Bool) (t : Token) : WalkM Unit :=
  match fuel with
  | 0 => pure ()
  | fuel + 1 => do
    if t.kind = .flowSequenceEnd then
      meet .sequenceEnd t.start
      passLast
    else if !first && t.kind ≠ .flowEntry then
      stop .missingSequenceEnd t.start .flowSequence begun
    else
      let t ← if first then pure t else pass
      if t.kind = .flowSequenceEnd then
        meet .sequenceEnd t.start
        passLast
      else
        if t.kind = .key then
          meet .mappingStart t.start
          flowPair fuel (← pass)
        else node fuel false false
        flowItems fuel begun false (← peek)

/-- Walks over the only pair of a mapping in a flow sequence. If it has no key, the next token is
passed all the same. -/
def flowPair (fuel : Nat) (t : Token) : WalkM Unit :=
  match fuel with
  | 0 => pure ()
  | fuel + 1 => do
    if [.value, .flowEntry, .flowSequenceEnd].contains t.kind then
      passLast
      meetEmpty t.stop
    else node fuel false false
    let v ← peek
    if v.kind = .value then
      let next ← pass
      if next.kind = .flowEntry ∨ next.kind = .flowSequenceEnd then meetEmpty next.start
      else node fuel false false
    else meetEmpty v.start
    meet .mappingEnd (← peek).start

def flowPairs (fuel : Nat) (begun : Mark) (first : Bool) (t : Token) : WalkM Unit :=
  match fuel with
  | 0 => pure ()
  | fuel + 1 => do
    if t.kind = .flowMappingEnd then
      meet .mappingEnd t.start
      passLast
    else if !first && t.kind ≠ .flowEntry then
      stop .missingMappingEnd t.start .flowMapping begun
    else
      let t ← if first then pure t else pass
      match t.kind with
      | .flowMappingEnd =>
        meet .mappingEnd t.start
        passLast
      | .key =>
        let next ← pass
        if [.value, .flowEntry, .flowMappingEnd].contains next.kind then meetEmpty next.start
        else node fuel false false
        let v ← peek
        if v.kind = .value then
          let next ← pass
          if next.kind = .flowEntry ∨ next.kind = .flowMappingEnd then meetEmpty next.start
          else node fuel false false
        else meetEmpty v.start
        flowPairs fuel begun false (← peek)
      | _ =>
        node fuel false false
        meetEmpty (← peek).start
        flowPairs fuel begun false (← peek)

end

/-! ### Documents -/

def betweenDocuments : TokenKind → Bool
  | .version .. | .handle .. | .documentStart | .documentEnd | .textEnd => true
  | _ => false

/-- Walks over the first document, if there is one, and tells whether anything but the end of the text
follows it. A document without directives or a sign before it begins by its content. -/
def firstDocument (fuel : Nat) : WalkM Bool := do
  let t ← peek
  match t.kind with
  | .textEnd => return false
  | .version .. | .handle .. | .documentStart =>
    let t ← directives fuel false t
    if t.kind ≠ .documentStart then throw (.source .missingDocumentStart t.start none)
    addUsualHandles
    let t ← pass
    if betweenDocuments t.kind then meetEmpty t.start else node fuel true false
  | _ =>
    addUsualHandles
    node fuel true false
  let _ ← peek
  return true

/-- Whether only the end of the text is left, after signs that end documents. A fault is not the
end. -/
def onlyEndLeft (tokens : List Token) : Bool :=
  match tokens.dropWhile (·.kind == .documentEnd) with
  | t :: _ => t.kind == .textEnd
  | [] => false

end Walk

/-! ### Characters that no text holds -/

def isAllowed (c : Char) : Bool :=
  c == '\t' || c == '\n' || c == '\r' || (' ' ≤ c && c ≤ '~') || c == '\x85' ||
    ('\xa0' ≤ c && c ≤ '\ufffd') || 0x10000 ≤ c.toNat

/-- How many bytes are before the first character that no text may hold. -/
def forbiddenOffset? : List Char → Option Nat
  | [] => none
  | c :: s => if isAllowed c then (forbiddenOffset? s).map (c.utf8Size + ·) else some 0

def Document.ofText (s : List Char) : Document :=
  match forbiddenOffset? s with
  | some offset => ⟨[], some (.forbiddenCharacter offset), [], false⟩
  | none =>
    let (tokens, fault) := Token.ofText s
    let fault := fault.getD .severalDocuments
    let (result, w) := (Walk.firstDocument (8 * tokens.length + 8)).run
      ⟨tokens, fault, [], [], [], []⟩
    match result with
    | .error f => ⟨w.events, some f, w.anchors, false⟩
    | .ok begun => ⟨w.events, none, w.anchors, begun && !Walk.onlyEndLeft w.tokens⟩

end StaticPage.Yaml
