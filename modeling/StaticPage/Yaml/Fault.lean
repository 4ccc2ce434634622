/-!
# Faults in YAML text

A text is refused because a piece of it is no YAML, or because what it says is not what is asked
for. A fault in the text carries the place where it shows and, mostly, what was being read and where
that began.
-/

namespace StaticPage.Yaml

/-- A place in a text: how many characters are before it, its line and its column, all from zero. -/
structure Mark where
  index : Nat
  line : Nat
  column : Nat
  deriving DecidableEq, Repr, Inhabited

def Mark.start : Mark := ⟨0, 0, 0⟩

/-- Whether a mark stands at the first column of the first line. -/
def Mark.atOrigin (m : Mark) : Bool :=
  m.line == 0 && m.column == 0

def Mark.sameSpot (m n : Mark) : Bool :=
  m.line == n.line && m.column == n.column

/-- The wording of a mark after what it is the place of. The origin goes without saying. -/
def Mark.suffix (m : Mark) : String :=
  if m.atOrigin then ""
  else " at line " ++ toString (m.line + 1) ++ " column " ++ toString (m.column + 1)

inductive Problem where
  | missingColon | misplacedValue | misplacedKey | misplacedEntry | strangeCharacter
  | unknownDirective | namelessDirective | strangeDirectiveName | missingLineEnd
  | missingVersionPoint | missingVersionNumber | longVersionNumber
  | missingBlank | missingBlankOrBreak
  | missingName | missingTagEnd | missingTagSign | missingTagText
  | missingOctet | badLeadingOctet | badTrailingOctet
  | zeroIndentation | tabInIndentation | tabAgainstIndentation
  | documentSign | endOfText | unknownEscape | badEscapeDigit | badEscapeCharacter
  | unexpectedColon
  | missingDocumentStart | missingContent | missingDash | missingKey
  | missingSequenceEnd | missingMappingEnd | undefinedHandle
  | repeatedVersion | wrongVersion | repeatedHandle
  deriving DecidableEq, Repr, Inhabited

def Problem.message : Problem → String
  | missingColon => "could not find expected ':'"
  | misplacedValue => "mapping values are not allowed in this context"
  | misplacedKey => "mapping keys are not allowed in this context"
  | misplacedEntry => "block sequence entries are not allowed in this context"
  | strangeCharacter => "found character that cannot start any token"
  | unknownDirective => "found unknown directive name"
  | namelessDirective => "could not find expected directive name"
  | strangeDirectiveName => "found unexpected non-alphabetical character"
  | missingLineEnd => "did not find expected comment or line break"
  | missingVersionPoint => "did not find expected digit or '.' character"
  | missingVersionNumber => "did not find expected version number"
  | longVersionNumber => "found extremely long version number"
  | missingBlank => "did not find expected whitespace"
  | missingBlankOrBreak => "did not find expected whitespace or line break"
  | missingName => "did not find expected alphabetic or numeric character"
  | missingTagEnd => "did not find the expected '>'"
  | missingTagSign => "did not find expected '!'"
  | missingTagText => "did not find expected tag URI"
  | missingOctet => "did not find URI escaped octet"
  | badLeadingOctet => "found an incorrect leading UTF-8 octet"
  | badTrailingOctet => "found an incorrect trailing UTF-8 octet"
  | zeroIndentation => "found an indentation indicator equal to 0"
  | tabInIndentation => "found a tab character where an indentation space is expected"
  | tabAgainstIndentation => "found a tab character that violates indentation"
  | documentSign => "found unexpected document indicator"
  | endOfText => "found unexpected end of stream"
  | unknownEscape => "found unknown escape character"
  | badEscapeDigit => "did not find expected hexdecimal number"
  | badEscapeCharacter => "found invalid Unicode character escape code"
  | unexpectedColon => "found unexpected ':'"
  | missingDocumentStart => "did not find expected <document start>"
  | missingContent => "did not find expected node content"
  | missingDash => "did not find expected '-' indicator"
  | missingKey => "did not find expected key"
  | missingSequenceEnd => "did not find expected ',' or ']'"
  | missingMappingEnd => "did not find expected ',' or '\x7d'"
  | undefinedHandle => "found undefined tag handle"
  | repeatedVersion => "found duplicate %YAML directive"
  | wrongVersion => "found incompatible YAML document"
  | repeatedHandle => "found duplicate %TAG directive"

/-- What was being read when a problem showed. -/
inductive Task where
  | simpleKey | nextToken | directive | versionDirective | tagDirective | tagDirectiveHandle
  | shortTagDirectiveHandle | tagDirectiveText | tag | tagText | anchor | reference
  | blockScalar | quotedScalar | escape | plainScalar
  | node | blockNode | flowNode | blockSequence | blockMapping | flowSequence | flowMapping
  deriving DecidableEq, Repr, Inhabited

def Task.message : Task → String
  | simpleKey => "while scanning a simple key"
  | nextToken => "while scanning for the next token"
  | directive => "while scanning a directive"
  | versionDirective => "while scanning a %YAML directive"
  | tagDirective => "while scanning a %TAG directive"
  | tagDirectiveHandle => "while scanning a tag directive"
  | shortTagDirectiveHandle => "while parsing a tag directive"
  | tagDirectiveText => "while parsing a %TAG directive"
  | tag => "while scanning a tag"
  | tagText => "while parsing a tag"
  | anchor => "while scanning an anchor"
  | reference => "while scanning an alias"
  | blockScalar => "while scanning a block scalar"
  | quotedScalar => "while scanning a quoted scalar"
  | escape => "while parsing a quoted scalar"
  | plainScalar => "while scanning a plain scalar"
  | node => "while parsing a node"
  | blockNode => "while parsing a block node"
  | flowNode => "while parsing a flow node"
  | blockSequence => "while parsing a block collection"
  | blockMapping => "while parsing a block mapping"
  | flowSequence => "while parsing a flow sequence"
  | flowMapping => "while parsing a flow mapping"

structure Undertaking where
  task : Task
  mark : Mark
  deriving DecidableEq, Repr, Inhabited

/-- Why what a text says is not what is asked for. -/
inductive Mismatch where
  /-- A node of another kind; both are named in words. -/
  | wrongKind (found expected : String)
  | wrongValue (found expected : String)
  | unknownField (name : String) (known : List String)
  | missingField (name : String)
  | repeatedField (name : String)
  deriving DecidableEq, Repr, Inhabited

def ticked (name : String) : String :=
  "\x60" ++ name ++ "\x60"

def Mismatch.message : Mismatch → String
  | wrongKind found expected => "invalid type: " ++ found ++ ", expected " ++ expected
  | wrongValue found expected => "invalid value: " ++ found ++ ", expected " ++ expected
  | unknownField name known =>
    "unknown field " ++ ticked name ++ ", expected one of " ++ ", ".intercalate (known.map ticked)
  | missingField name => "missing field " ++ ticked name
  | repeatedField name => "duplicate field " ++ ticked name

/-- Why a YAML text is refused. -/
inductive Fault where
  | source (problem : Problem) (mark : Mark) (undertaking : Option Undertaking)
  /-- A character that no text may hold, after so many bytes. -/
  | forbiddenCharacter (offset : Nat)
  | unknownAnchor (mark : Mark)
  | severalDocuments
  /-- A node that does not fit, with the keys that lead to it. -/
  | mismatch (path : List String) (mark : Mark) (cause : Mismatch)
  deriving DecidableEq, Repr, Inhabited

def Fault.message : Fault → String
  | source problem mark undertaking =>
    problem.message ++ mark.suffix ++
      match undertaking with
      | none => ""
      | some ⟨task, begun⟩ =>
        ", " ++ task.message ++ if begun.sameSpot mark then "" else begun.suffix
  | forbiddenCharacter offset =>
    "control characters are not allowed" ++
      if offset = 0 then "" else " at position " ++ toString offset
  | unknownAnchor mark => "unknown anchor" ++ mark.suffix
  | severalDocuments =>
    "deserializing from YAML containing more than one document is not supported"
  | mismatch path mark cause =>
    (if path.isEmpty then "" else ".".intercalate path ++ ": ") ++ cause.message ++ mark.suffix

end StaticPage.Yaml
