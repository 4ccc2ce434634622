import StaticPage.Markdown.Source

/-!
# HTML in a source

Raw HTML is recognised by how it begins: a tag, a comment, a declaration or an instruction. A tag may
reach over several lines; what the containers around it put in front of a line is not part of it.
-/

namespace StaticPage.Markdown

/-- Equality of texts up to the case of ASCII letters. -/
def sameLetters (s t : List Char) : Bool :=
  s.map Char.toLower == t.map Char.toLower

/-! ### How blocks of HTML begin -/

/-- The elements whose content is not read, with the tags that end them. -/
def verbatimElements : List (String × String) :=
  [("pre", "</pre>"), ("style", "</style>"), ("script", "</script>"), ("textarea", "</textarea>")]

/-- The marks of comments, instructions and character sections, with those that end them. -/
def verbatimMarks : List (String × String) :=
  [("!--", "-->"), ("?", "?>"), ("![CDATA[", "]]>")]

/-- The mark that ends a block of HTML which begins with what follows an opening angle bracket: that of
an element whose content is not read, of a comment, an instruction, a character section or a
declaration. -/
def verbatimEnd? (s : Source) (i : Nat) : Option String :=
  let element := verbatimElements.find? fun (name, _) =>
    sameLetters (s.slice i (i + name.length)) name.toList &&
      (s.at? (i + name.length)).all fun c => isAsciiBlank c || c == '>'
  let mark := verbatimMarks.find? fun (mark, _) => s.startsWith mark i
  match element, mark with
  | some (_, close), _ | none, some (_, close) => some close
  | none, none => if s.has '!' i && (s.at? (i + 1)).any Char.isUpper then some ">" else none

def blockElements : List String :=
  ["address", "article", "aside", "base", "basefont", "blockquote", "body", "caption", "center", "col",
    "colgroup", "dd", "details", "dialog", "dir", "div", "dl", "dt", "fieldset", "figcaption",
    "figure", "footer", "form", "frame", "frameset", "h1", "h2", "h3", "h4", "h5", "h6", "head",
    "header", "hr", "html", "iframe", "legend", "li", "link", "main", "menu", "menuitem", "nav",
    "noframes", "ol", "optgroup", "option", "p", "param", "section", "source", "summary", "table",
    "tbody", "td", "tfoot", "th", "thead", "title", "tr", "track", "ul"]

/-- The tag of an element that begins a block stands behind an opening angle bracket; it need not be
complete. -/
def startsBlockTag (s : Source) (i : Nat) : Bool :=
  let i := if s.has '/' i then i + 1 else i
  let stop := s.skipWhile Char.isAlphanum i
  let name := s.slice i stop
  blockElements.any (fun element => sameLetters name element.toList) &&
    ((s.at? stop).all (fun c => c == ' ' || c == '\t' || c == '\r' || c == '\n' || c == '>') ||
      s.startsWith "/>" stop)

/-! ### Tags -/

/-- The place behind a part of a tag, and the stretches in it that belong to the containers around it,
last first. -/
structure TagPart where
  stop : Nat
  cuts : List (Nat × Nat)
  deriving DecidableEq, Repr, Inhabited

/-- How a tag goes on behind a line ending: not at all, or at the position that a function gives. -/
abbrev LineSkip := Option (Nat → Nat)

namespace TagPart

def nextLine? (t : TagPart) (skip : LineSkip) (next : Nat) : Option TagPart :=
  skip.map fun behind =>
    let j := max next (behind next)
    ⟨j, if j = next then t.cuts else (next, j) :: t.cuts⟩

/-- The part behind spaces and line endings. -/
def gap? (s : Source) (skip : LineSkip) (t : TagPart) : Option TagPart :=
  if h : t.stop < s.chars.size then
    if !isAsciiBlank s.chars[t.stop] then some t
    else
      match s.lineEnd? t.stop with
      | none => gap? s skip { t with stop := t.stop + 1 }
      | some next =>
        match t.nextLine? skip next with
        | none => none
        | some u => if t.stop < u.stop then gap? s skip u else some u
  else some t
termination_by s.chars.size - t.stop

/-- The part behind the mark that ends a quoted value. -/
def quoted? (s : Source) (skip : LineSkip) (mark : Char) (t : TagPart) : Option TagPart :=
  if h : t.stop < s.chars.size then
    if s.chars[t.stop] = mark then some { t with stop := t.stop + 1 }
    else
      match s.lineEnd? t.stop with
      | none => quoted? s skip mark { t with stop := t.stop + 1 }
      | some next =>
        match t.nextLine? skip next with
        | none => none
        | some u => if t.stop < u.stop then quoted? s skip mark u else none
  else none
termination_by s.chars.size - t.stop

/-- A character that does not stand in a value without quotes. -/
def endsBareValue (c : Char) : Bool :=
  c == '\'' || c == '"' || c == ' ' || c == '=' || c == '>' || c == '<' || c == '\x60' || isBreak c

/-- The part behind the value of an attribute. -/
def value? (s : Source) (skip : LineSkip) (t : TagPart) : Option TagPart :=
  match s.at? t.stop with
  | none => none
  | some c =>
    if c = '"' ∨ c = '\'' then quoted? s skip c { t with stop := t.stop + 1 }
    else if endsBareValue c then none
    else some { t with stop := s.skipWhile (fun c => !endsBareValue c) t.stop }

def attribute? (s : Source) (skip : LineSkip) (t : TagPart) : Option TagPart :=
  if (s.at? t.stop).any fun c => c.isAlpha || c == '_' || c == ':' then
    let name : TagPart :=
      { t with
        stop := s.skipWhile (fun c => c.isAlphanum || c == '_' || c == '.' || c == ':' || c == '-')
          (t.stop + 1) }
    match name.gap? s skip with
    | none => none
    | some sign =>
      if s.has '=' sign.stop then
        (gap? s skip { sign with stop := sign.stop + 1 }).bind (value? s skip)
      else some name
  else none

/-- The part in front of the end of an opening tag. Each attribute follows a gap. -/
def attributes? (s : Source) (skip : LineSkip) (t : TagPart) : Option TagPart :=
  match t.gap? s skip with
  | none => none
  | some u =>
    if s.has '/' u.stop || s.has '>' u.stop then some u
    else if u.stop = t.stop then none
    else
      match u.attribute? s skip with
      | none => none
      | some v => if t.stop < v.stop ∧ t.stop < s.chars.size then attributes? s skip v else none
termination_by s.chars.size - t.stop

end TagPart

/-- A tag from the position of its opening angle bracket. -/
def tag? (s : Source) (skip : LineSkip) (i : Nat) : Option TagPart :=
  let closing := s.has '/' (i + 1)
  let start := if closing then i + 2 else i + 1
  if !(s.at? start).any Char.isAlpha then none
  else
    let name := s.skipWhile (fun c => c.isAlphanum || c == '-') start
    if closing then
      let stop := s.skipWhile isSpace name
      if s.has '>' stop then some ⟨stop + 1, []⟩ else none
    else
      (TagPart.attributes? s skip ⟨name, []⟩).bind fun t =>
        let stop := if s.has '/' t.stop then t.stop + 1 else t.stop
        if s.has '>' stop then some { t with stop := stop + 1 } else none

/-! ### Comments, declarations and instructions -/

def pairEnd? (s : Source) (first second : Char) (i : Nat) : Option Nat :=
  if i < s.size then
    if s.has first i && s.has second (i + 1) then some (i + 2) else pairEnd? s first second (i + 1)
  else none
termination_by s.size - i

/-- The position behind a comment, from the one behind its first hyphen. A pair of hyphens inside must
be the one that ends the comment. -/
def commentEnd? (s : Source) (i : Nat) : Option Nat :=
  let start := s.skipRun '-' i
  if start = i || s.has '>' start then none
  else
    (pairEnd? s '-' '-' start).bind fun stop => if s.has '>' stop then some (stop + 1) else none

/-- The position behind a character section: the run of closing brackets at the first one ends it. -/
def charactersEnd? (s : Source) (i : Nat) : Option Nat :=
  (s.find? ']' i).bind fun first =>
    let stop := s.skipRun ']' first
    if s.has '>' stop then some (stop + 1) else none

/-- The position behind a declaration: a name in capitals, a gap, and all up to the next angle
bracket. -/
def declarationEnd? (s : Source) (i : Nat) : Option Nat :=
  let name := s.skipWhile Char.isUpper i
  let gap := s.skipWhile isAsciiBlank name
  if name = i || gap = name then none else (s.find? '>' gap).map (· + 1)

/-- A piece of raw HTML in running text, from the position behind an opening angle bracket. -/
def html? (s : Source) (skip : Nat → Nat) (i : Nat) : Option TagPart :=
  if s.has '!' i then
    let stop :=
      if s.has '-' (i + 1) then commentEnd? s (i + 2)
      else if s.startsWith "[CDATA[" (i + 1) then charactersEnd? s (i + 8)
      else declarationEnd? s (i + 1)
    stop.map fun stop => ⟨stop, []⟩
  else if s.has '?' i then (pairEnd? s '?' '>' (i + 1)).map fun stop => ⟨stop, []⟩
  else tag? s (some skip) (i - 1)

/-- The text of a part from a position on, without what belongs to the containers around it. -/
def TagPart.text (s : Source) (start : Nat) (t : TagPart) : String :=
  let (next, parts) := t.cuts.reverse.foldl (fun (next, parts) (cut, behind) =>
    (behind, s.slice next cut :: parts)) (start, [])
  String.ofList (s.slice next t.stop :: parts).reverse.flatten

end StaticPage.Markdown
