import Mathlib.Data.List.Basic

/-!
# Elements in a text

A text is read one character after the other, as HTML reads it: the mode says what a text may stop in,
and a tag is handed out at the `>` that ends it. Tags are looked for in text alone, not in comments, in
quoted values or in the elements whose content is not markup; that a tag ends with a slash says nothing.
Foreign content and the escapes of scripts are not told apart. What the tags of a text do to the elements
that are open is the other half, `nest`, and knows nothing of characters: it is a stack, and what is
below the elements that tags reach does not matter to them, `nest_append_base`.
-/

namespace StaticPage.Html

abbrev Name := List Char

/-- A tag that opens or closes an element. Attributes are left out. -/
structure Tag where
  closing : Bool
  name : Name
  deriving DecidableEq, Repr

/-- The elements whose content is text up to their own closing tag. -/
inductive RawElement where
  | script | style | textarea | title | iframe | noembed | noframes | xmp
  deriving DecidableEq, Repr

namespace RawElement

def all : List RawElement :=
  [script, style, textarea, title, iframe, noembed, noframes, xmp]

def name : RawElement → Name
  | script => "script".toList
  | style => "style".toList
  | textarea => "textarea".toList
  | title => "title".toList
  | iframe => "iframe".toList
  | noembed => "noembed".toList
  | noframes => "noframes".toList
  | xmp => "xmp".toList

end RawElement

/-- What a text may stop in. -/
inductive Mode where
  | text
  /-- Behind a `<` in text. -/
  | less
  /-- Behind a `</` in text. -/
  | slash
  /-- In the name of a tag. -/
  | name (tag : Tag)
  /-- In front of an attribute, or of the end of a tag. -/
  | gap (tag : Tag)
  /-- In the name of an attribute, or behind it. -/
  | key (tag : Tag)
  /-- In front of the value of an attribute. -/
  | value (tag : Tag)
  | quoted (tag : Tag) (double : Bool)
  | bare (tag : Tag)
  /-- Behind a `<!`. -/
  | bang
  /-- Behind a `<!-`. -/
  | bangDash
  /-- In a declaration or an instruction, or in what HTML reads as such. -/
  | declaration
  /-- Behind the `<!--` of a comment. -/
  | commentStart
  | commentStartDash
  | comment
  | commentDash
  /-- Behind a `--` in a comment. -/
  | commentEnd
  /-- Behind a `--!` in a comment. -/
  | commentBang
  | raw (element : RawElement)
  | rawLess (element : RawElement)
  | rawSlash (element : RawElement)
  | rawName (element : RawElement) (name : Name)
  deriving DecidableEq, Repr

def separates (c : Char) : Bool :=
  c == ' ' || c == '\n' || c == '\t' || c == '\r' || c == '\x0c'

def Tag.done (t : Tag) : Mode × List Tag :=
  match RawElement.all.find? (·.name == t.name) with
  | some e => (if t.closing then .text else .raw e, [t])
  | none => (.text, [t])

namespace Mode

/-- The mode behind a character, and the tag that the character ends. -/
def read : Mode → Char → Mode × List Tag
  | text, c => (if c = '<' then less else text, [])
  | less, c =>
    (if c = '<' then less else if c = '/' then slash else if c = '!' then bang
      else if c = '?' then declaration else if c.isAlpha then name ⟨false, [c.toLower]⟩ else text, [])
  | slash, c =>
    (if c.isAlpha then name ⟨true, [c.toLower]⟩ else if c = '>' then text else declaration, [])
  | name t, c =>
    if c = '>' then t.done
    else (if separates c ∨ c = '/' then gap t else name { t with name := t.name ++ [c.toLower] }, [])
  | gap t, c =>
    if c = '>' then t.done else (if separates c ∨ c = '/' then gap t else key t, [])
  | key t, c =>
    if c = '>' then t.done
    else (if c = '=' then value t else if c = '/' then gap t else key t, [])
  | value t, c =>
    if c = '>' then t.done
    else
      (if separates c then value t else if c = '"' then quoted t true
        else if c = '\'' then quoted t false else bare t, [])
  | quoted t double, c => (if c = (if double then '"' else '\'') then gap t else quoted t double, [])
  | bare t, c => if c = '>' then t.done else (if separates c then gap t else bare t, [])
  | bang, c => (if c = '-' then bangDash else if c = '>' then text else declaration, [])
  | bangDash, c => (if c = '-' then commentStart else if c = '>' then text else declaration, [])
  | declaration, c => (if c = '>' then text else declaration, [])
  | commentStart, c => (if c = '-' then commentStartDash else if c = '>' then text else comment, [])
  | commentStartDash, c => (if c = '-' then commentEnd else if c = '>' then text else comment, [])
  | comment, c => (if c = '-' then commentDash else comment, [])
  | commentDash, c => (if c = '-' then commentEnd else comment, [])
  | commentEnd, c =>
    (if c = '-' then commentEnd else if c = '>' then text else if c = '!' then commentBang else comment, [])
  | commentBang, c => (if c = '-' then commentDash else if c = '>' then text else comment, [])
  | raw e, c => (if c = '<' then rawLess e else raw e, [])
  | rawLess e, c => (if c = '/' then rawSlash e else if c = '<' then rawLess e else raw e, [])
  | rawSlash e, c =>
    (if c.isAlpha then rawName e [c.toLower] else if c = '<' then rawLess e else raw e, [])
  | rawName e seen, c =>
    if c = '>' ∧ seen = e.name then Tag.done ⟨true, e.name⟩
    else
      (if c.isAlpha then rawName e (seen ++ [c.toLower])
        else if (separates c ∨ c = '/') ∧ seen = e.name then gap ⟨true, e.name⟩
        else if c = '<' then rawLess e else raw e, [])

/-- Text, whatever follows. A last `<` is no markup, not even if markup comes after it. -/
def isText : Mode → Bool
  | text | less => true
  | _ => false

/-- The mode behind a text, and the tags of it in their order. -/
def scan : Mode → List Char → Mode × List Tag
  | m, [] => (m, [])
  | m, c :: s => ((scan (m.read c).1 s).1, (m.read c).2 ++ (scan (m.read c).1 s).2)

example : (text.scan "<A title='>'>x<!-- <b> --></a\n><style><p></style>".toList).2 =
    [⟨false, ['a']⟩, ⟨true, ['a']⟩, ⟨false, "style".toList⟩, ⟨true, "style".toList⟩] := rfl

variable {m m' : Mode} {s : List Char} {ts : List Tag}

theorem scan_append (hs : m.scan s = (m', ts)) (t : List Char) :
    m.scan (s ++ t) = ((m'.scan t).1, ts ++ (m'.scan t).2) := by
  induction s generalizing m ts with
  | nil =>
      cases hs
      rfl
  | cons c s ih =>
      rw [scan, Prod.mk.injEq] at hs
      obtain ⟨hmode, rfl⟩ := hs
      rw [List.cons_append, scan, ih (Prod.ext hmode rfl), List.append_assoc]

/-- Text is left for a tag in one way only. -/
theorem scan_of_isText (hm : m.isText = true) (s : List Char) :
    m.scan ('<' :: s) = text.scan ('<' :: s) := by
  cases m with
  | text => rfl
  | less => rfl
  | _ => cases hm

theorem scan_text (hs : '<' ∉ s) : text.scan s = (text, []) := by
  induction s with
  | nil => rfl
  | cons c s ih =>
      rw [List.mem_cons, not_or] at hs
      rw [scan, read, if_neg (Ne.symm hs.1), ih hs.2]
      rfl

theorem scan_quoted (hs : '"' ∉ s) (t : Tag) : (quoted t true).scan s = (quoted t true, []) := by
  induction s with
  | nil => rfl
  | cons c s ih =>
      rw [List.mem_cons, not_or] at hs
      rw [scan, read, if_pos rfl, if_neg (Ne.symm hs.1), ih hs.2]
      rfl

/-- Where a closing tag is not read as one, it does not matter which it is. -/
theorem scan_closing (hm : m.isText = false) : m.scan "</p>".toList = m.scan "</h2>".toList := by
  cases m with
  | text => cases hm
  | less => cases hm
  | raw e => cases e <;> rfl
  | rawLess e => cases e <;> rfl
  | rawSlash e => cases e <;> rfl
  | rawName e seen => cases e <;> rfl
  | quoted t double => cases double <;> rfl
  | _ => rfl

/-- No line ends markup. -/
theorem isText_of_scan_newline (h : (m.scan ['\n']).1.isText = true) :
    m.isText = true ∧ (m.scan ['\n']).2 = [] := by
  cases m with
  | text => exact ⟨rfl, rfl⟩
  | less => exact ⟨rfl, rfl⟩
  | quoted t double => cases double <;> cases h
  | rawName e seen =>
      by_cases hseen : seen = e.name <;> simp [scan, read, hseen, separates, isText] at h
  | _ => cases h

end Mode

/-! ### Open elements -/

def voidElements : List Name :=
  ["area", "base", "br", "col", "embed", "hr", "img", "input", "link", "meta", "source", "track",
    "wbr"].map String.toList

/-- The open elements behind a tag, the innermost one first. -/
def Tag.step (t : Tag) (stack : List Name) : Option (List Name) :=
  if t.closing then if stack.head? = some t.name then some stack.tail else none
  else if t.name ∈ voidElements then some stack
  else some (t.name :: stack)

/-- The open elements behind tags. There are none if a tag closes what is not the innermost of them. -/
def nest : List Name → List Tag → Option (List Name)
  | stack, [] => some stack
  | stack, t :: ts => (t.step stack).bind fun stack => nest stack ts

variable {t : Tag} {ts ts' : List Tag} {stack stack' : List Name} {outer : Name}

theorem nest_append (stack : List Name) (ts ts' : List Tag) :
    nest stack (ts ++ ts') = (nest stack ts).bind fun stack => nest stack ts' := by
  induction ts generalizing stack with
  | nil => rfl
  | cons t ts ih =>
      rw [List.cons_append, nest, nest]
      cases t.step stack with
      | none => rfl
      | some stack => exact ih stack

theorem nest_append_of_none (h : nest stack ts = none) (ts' : List Tag) :
    nest stack (ts ++ ts') = none := by
  rw [nest_append, h, Option.bind_none]

theorem nest_append_of_some (h : nest stack ts = some stack') (ts' : List Tag) :
    nest stack (ts ++ ts') = nest stack' ts' := by
  rw [nest_append, h, Option.bind_some]

theorem nest_closing {name : Name} (h : nest stack (ts ++ [⟨true, name⟩]) = some []) :
    nest stack ts = some [name] := by
  rw [nest_append] at h
  obtain ⟨left, hleft, hlast⟩ := Option.bind_eq_some_iff.1 h
  rw [hleft]
  cases left with
  | nil => cases hlast
  | cons top rest => grind [nest, Tag.step]

theorem Tag.step_append_base (h : t.step stack = some stack') (base : List Name) :
    t.step (stack ++ base) = some (stack' ++ base) := by
  unfold step at h ⊢
  split at h
  · split at h
    · rename_i hhead
      obtain ⟨rest, rfl⟩ := List.head?_eq_some_iff.1 hhead
      cases h
      simp [*]
    · cases h
  · split at h
    · cases h
      simp [*]
    · cases h
      simp [*]

/-- What is below the elements that tags reach does not matter. -/
theorem nest_append_base (h : nest stack ts = some stack') (base : List Name) :
    nest (stack ++ base) ts = some (stack' ++ base) := by
  induction ts generalizing stack with
  | nil =>
      cases h
      rfl
  | cons t ts ih =>
      obtain ⟨next, hstep, hrest⟩ := Option.bind_eq_some_iff.1 h
      rw [nest, Tag.step_append_base hstep, Option.bind_some, ih hrest]

theorem nest_above (h : nest [] ts = some stack) (base : List Name) :
    nest base ts = some (stack ++ base) :=
  nest_append_base h base

/-- A tag that needs an element below the others cannot have another one in its place. -/
theorem Tag.step_eq_none_of_outer (h : t.step stack = none)
    (houter : t.step (stack ++ [outer]) = some stack') {other : Name} (hne : other ≠ outer)
    (base : List Name) : t.step (stack ++ other :: base) = none := by
  unfold step at h houter ⊢
  split at h
  · cases stack with
    | nil => simp_all
    | cons top stack => simp_all
  · split at h <;> cases h

/-- Tags that go through above an element leave it open, or they do not go through above another one. -/
theorem nest_outer (stack : List Name) (h : nest (stack ++ [outer]) ts = some stack') :
    (∃ inner, nest stack ts = some inner ∧ stack' = inner ++ [outer]) ∨
      ∀ other ≠ outer, ∀ base, nest (stack ++ other :: base) ts = none := by
  induction ts generalizing stack with
  | nil =>
      cases h
      exact .inl ⟨stack, rfl, rfl⟩
  | cons t ts ih =>
      obtain ⟨next, hstep, hrest⟩ := Option.bind_eq_some_iff.1 h
      cases hinner : t.step stack with
      | none =>
          refine .inr fun other hne base => ?_
          rw [nest, Tag.step_eq_none_of_outer hinner hstep hne, Option.bind_none]
      | some inner =>
          rw [Tag.step_append_base hinner, Option.some.injEq] at hstep
          subst hstep
          simp only [nest, hinner, Option.bind_some, Tag.step_append_base hinner]
          exact ih inner hrest

/-- Tags that close an element they did not open do not go through above another one. -/
theorem nest_eq_none_of_closed (h : nest [outer] ts = some []) {other : Name} (hne : other ≠ outer)
    (base : List Name) : nest (other :: base) ts = none := by
  rcases nest_outer [] h with ⟨inner, -, hinner⟩ | hnone
  · simp at hinner
  · exact hnone other hne base

end StaticPage.Html
