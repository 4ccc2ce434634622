import StaticPage.Markdown.Blocks
import StaticPage.Markdown.Element
import StaticPage.Markdown.Page
import StaticPage.Markdown.RunningText
import StaticPage.Text.Characters

/-!
# Markdown

A text in Markdown is read into elements, and from these into HTML or plain text. Tables and
strikethrough are read where HTML is wanted, and nowhere else.
-/

namespace StaticPage.Markdown

/-- The elements of a text. Definitions count wherever they stand. -/
def parse (ext : Extensions) (text : String) : List Element :=
  let s := Source.ofString text
  let o := Outline.ofSource s ext
  o.elements s o.blocks

def toHtml (s : String) : String :=
  ((⟨"", true⟩ : Page).elements (parse ⟨true, true⟩ s)).text

/-- The plain text of a text, without the blanks at its ends. -/
def strip (s : String) : String :=
  Text.trimmed (Element.plainAll (parse ⟨false, false⟩ s))

end StaticPage.Markdown
