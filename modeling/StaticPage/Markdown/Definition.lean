import StaticPage.Markdown.Leaf
import StaticPage.Markdown.Outline
import StaticPage.Markdown.Target

/-!
# Definitions

A definition gives a label its target: the label in brackets, a colon, the destination, and a title if
there is one. Its parts may stand on lines of their own; the lines go on with all containers, except
those inside a title.
-/

namespace StaticPage.Markdown

/-- The position behind the containers of a line that goes on with a label: the line ends no
paragraph. -/
def labelLine? (s : Source) (containers : List Container) (i : Nat) : Option Nat :=
  let (all, m) := Container.enter s containers i
  if s.interrupts all m.position || (all && (s.underline? m.position).isSome) then none
  else some m.position

/-- The position behind a gap with at most one line ending in it, and the number of these. The end of
the source counts as two. -/
def definitionGap? (s : Source) (containers : List Container) (i : Nat) : Option (Nat × Nat) :=
  let first := s.skipWhile isSpace i
  match s.lineEnd? first with
  | none => some (first, 0)
  | some next =>
    (Container.inside? s containers next).bind fun m =>
      let second := s.skipWhile isSpace m.position
      if (s.lineEnd? second).isSome then none else some (second, 1)

/-- The target of a definition from the position behind the colon, and the position behind it. A title
that begins on a line of its own and is not all of its lines is still the title, though the definition
ends before it. -/
def definitionTarget? (s : Source) (containers : List Container) (i : Nat) : Option (Target × Nat) := do
  let (start, _) ← definitionGap? s containers i
  let (destination, stop) ← s.destination? 1 start
  if stop = start then none
  else
    let bare : Target := ⟨destination, ""⟩
    match definitionGap? s containers stop with
    | none => some (bare, stop)
    | some (next, breaks) =>
      if next = stop then none
      else
        let onOwnLine : Option Nat := if breaks = 0 then none else some stop
        match s.title? next with
        | none => onOwnLine.map fun stop => (bare, stop)
        | some (title, behind) =>
          ((s.blankEnd? behind).or onOwnLine).map fun stop => (⟨destination, title⟩, stop)

/-- The definition at a position, and the position behind it. -/
def definition? (s : Source) (containers : List Container) (i : Nat) : Option (Definition × Nat) := do
  let (label, colon) ← s.label? (labelLine? s containers) i
  if s.has ':' colon then
    (definitionTarget? s containers (colon + 1)).map fun (target, stop) => (⟨label, target⟩, stop)
  else none

end StaticPage.Markdown
