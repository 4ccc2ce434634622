import StaticPage.Posts.Basic
import StaticPage.Proofs.Files.Spellings
import StaticPage.Proofs.Posts.Dates
import StaticPage.Proofs.Text.ByteCuts
import StaticPage.Proofs.Text.Cutting

/-!
# What is taken from a post

The title and the preview of a post are found in one pass over its lines, which skips the line of the title and
ends when both are there. Neither search disturbs the other one: a line that gives a title begins with a number
sign and gives no preview, so the pass finds what two passes would find, `read_eq`. The preview is then cut at a
number of bytes, and has every beginning of the text that fits.
-/

namespace StaticPage

open Text (trim)

/-! ### Stems -/

namespace Path

/-- A name without its last dot and what follows it. A dot at the beginning divides nothing. -/
inductive IsStem : (name stem : List Char) → Prop where
  | whole {name : List Char} (h : '.' ∉ name.tail) : IsStem name name
  | front {stem ext : List Char} (hne : stem ≠ []) (h : '.' ∉ ext) : IsStem (stem ++ '.' :: ext) stem

theorem isStem_splitName (name : String) : IsStem name.toList (splitName name).1.toList := by
  rw [splitName]
  generalize hs : name.toList = s
  have hsplit : s = (s.reverse.dropWhile (· != '.')).reverse ++ (s.reverse.takeWhile (· != '.')).reverse := by
    rw [← List.reverse_append, List.takeWhile_append_dropWhile, List.reverse_reverse]
  have hext : '.' ∉ (s.reverse.takeWhile (· != '.')).reverse := by
    intro hc
    have := List.mem_takeWhile_imp (List.mem_reverse.1 hc)
    simp at this
  generalize (s.reverse.takeWhile (· != '.')).reverse = ext at hsplit hext
  cases hdrop : s.reverse.dropWhile (· != '.') with
  | nil =>
      rw [hdrop, List.reverse_nil, List.nil_append] at hsplit
      subst hsplit
      rw [if_pos (.inl rfl), hs]
      exact .whole fun hc => hext (List.mem_of_mem_tail hc)
  | cons c front =>
      have hdot : c = '.' := by
        have := List.head?_dropWhile_not (· != '.') s.reverse
        rw [hdrop] at this
        simpa using this
      rw [hdrop, hdot, List.reverse_cons, List.append_assoc, List.singleton_append] at hsplit
      have hstem : s.take (s.length - ext.length - 1) = front.reverse := by
        rw [hsplit]
        apply List.take_left'
        simp only [List.length_append, List.length_cons]
        omega
      rw [hstem]
      split
      · rename_i hwhole
        have hnil : front = [] := by
          rcases hwhole with hlength | hempty
          · rw [hsplit] at hlength
            simp only [List.length_append, List.length_cons] at hlength
            omega
          · simpa using hempty
        rw [hs, hsplit, hnil]
        exact .whole (by simpa using hext)
      · rename_i hsides
        rw [hsplit, String.toList_ofList]
        exact .front (by simpa using fun h => hsides (.inr h)) hext

theorem stem?_eq {name : String} (hslash : '/' ∉ name.toList) (hlong : 2 < name.toList.length) :
    stem? name = some (splitName name).1 := by
  have hcomponent : Component.ofText? name.toList = some (.name name.toList) := by
    rw [Component.ofText?, if_neg, if_neg]
    · intro h
      rw [h] at hlong
      contradiction
    · rintro (h | h)
      · rw [List.isEmpty_iff.1 h] at hlong
        contradiction
      · rw [h] at hlong
        contradiction
  have hcomponents : components name = [.name name.toList] := by
    rw [← join_empty hslash, components_join_of_ofText? hslash hcomponent, join_empty hslash]
    rfl
  rw [stem?, fileName?, hcomponents]
  simp

end Path

namespace Post

variable {lines : List (List Char)} {line : List Char}

/-! ### One pass for two searches -/

def IsHeading (line : List Char) : Prop :=
  "# ".toList <+: line

/-- Neither blank nor marked with a number sign. -/
def IsProse (line : List Char) : Prop :=
  trim line ≠ [] ∧ (trim line).head? ≠ some '#'

theorem heading?_eq_some_iff {title : List Char} :
    heading? line = some title ↔ ∃ rest, line = "# ".toList ++ rest ∧ title = trim rest := by
  rw [heading?, Option.map_eq_some_iff]
  simp only [Text.dropPrefix?_eq_some_iff]
  exact exists_congr fun rest => and_congr_right fun _ => eq_comm

theorem heading?_eq_none_iff : heading? line = none ↔ ¬ IsHeading line := by
  rw [heading?, Option.map_eq_none_iff, Text.dropPrefix?_eq_none_iff, IsHeading]

theorem prose?_eq (line : List Char) :
    (IsProse line → prose? line = some (trim line)) ∧ (¬ IsProse line → prose? line = none) := by
  have hiff : ((trim line).isEmpty ∨ (trim line).head? = some '#') ↔ ¬ IsProse line := by
    rw [List.isEmpty_iff, IsProse, not_and_or, not_not, not_not]
  constructor
  · intro h
    exact if_neg (mt hiff.1 (not_not.2 h))
  · intro h
    exact if_pos (hiff.2 h)

theorem IsHeading.not_isProse (h : IsHeading line) : ¬ IsProse line := by
  obtain ⟨rest, rfl⟩ := h
  intro hprose
  apply hprose.2
  rw [Text.head?_trim]
  · rfl
  · intro c hc
    cases hc
    decide

theorem passage?_of_heading? {title : List Char} (h : heading? line = some title) : passage? line = none := by
  obtain ⟨rest, rfl, -⟩ := heading?_eq_some_iff.1 h
  have hheading : IsHeading ("# ".toList ++ rest) := List.prefix_append _ _
  rw [passage?, (prose?_eq _).2 hheading.not_isProse, Option.map_none]

theorem read_of_isWhole {d : Draft} (h : d.isWhole = true) (lines : List (List Char)) : d.read lines = d := by
  obtain ⟨title, preview⟩ := d
  simp only [Draft.isWhole, Bool.and_eq_true, Option.isSome_iff_exists] at h
  obtain ⟨⟨title, rfl⟩, preview, rfl⟩ := h
  cases lines <;> rfl

theorem read_cons (d : Draft) (line : List Char) (rest : List (List Char)) :
    d.read (line :: rest) = Draft.read
      ⟨d.title.or ((heading? line).map String.ofList), d.preview.or (passage? line)⟩ rest := by
  obtain ⟨title, preview⟩ := d
  rw [Draft.read]
  cases title with
  | none =>
      cases htitle : heading? line with
      | some text => simp [passage?_of_heading? htitle]
      | none => cases preview <;> simp [Draft.isWhole]
  | some title =>
      show (if Draft.isWhole (if _ then _ else _) then _ else _) = Draft.read ⟨some title, _⟩ rest
      have hnext : (if preview.isNone then ⟨some title, passage? line⟩ else ⟨some title, preview⟩ : Draft)
          = ⟨some title, preview.or (passage? line)⟩ := by
        cases preview <;> rfl
      rw [hnext]
      split
      · rename_i hwhole
        exact (read_of_isWhole hwhole rest).symm
      · rfl

/-- The pass finds the first of each kind that was not there yet. -/
theorem read_eq (d : Draft) (lines : List (List Char)) :
    d.read lines = ⟨d.title.or ((lines.findSome? heading?).map String.ofList),
      d.preview.or (lines.findSome? passage?)⟩ := by
  induction lines generalizing d with
  | nil => simp [Draft.read]
  | cons line rest ih =>
      rw [read_cons, ih, List.findSome?_cons, List.findSome?_cons]
      cases heading? line <;> cases passage? line <;> simp

/-! ### What is found -/

/-- The first of some lines that is of a kind. -/
def IsFirst (p : List Char → Prop) (lines : List (List Char)) (line : List Char) : Prop :=
  ∃ before after, lines = before ++ line :: after ∧ p line ∧ ∀ other ∈ before, ¬ p other

theorem findSome?_heading? {rest : List Char} (h : IsFirst IsHeading lines ("# ".toList ++ rest)) :
    lines.findSome? heading? = some (trim rest) := by
  obtain ⟨before, after, hlines, -, hbefore⟩ := h
  exact List.findSome?_eq_some_iff.2 ⟨before, _, after, hlines, heading?_eq_some_iff.2 ⟨rest, rfl, rfl⟩,
    fun other hother => heading?_eq_none_iff.2 (hbefore other hother)⟩

theorem passage?_of_not_isProse (h : ¬ IsProse line) : passage? line = none := by
  rw [passage?, (prose?_eq line).2 h, Option.map_none]

theorem findSome?_passage? (h : IsFirst IsProse lines line) :
    lines.findSome? passage? = some (Markdown.strip (String.ofList (trim line))) := by
  obtain ⟨before, after, hlines, hline, hbefore⟩ := h
  refine List.findSome?_eq_some_iff.2 ⟨before, line, after, hlines, ?_,
    fun other hother => passage?_of_not_isProse (hbefore other hother)⟩
  rw [passage?, (prose?_eq line).1 hline, Option.map_some]

/-- A text of at most `limit` bytes, or the longest beginning of it that has no more and an ellipsis. -/
inductive Shortened (limit : Nat) (text : String) : String → Prop where
  | whole (h : text.utf8ByteSize ≤ limit) : Shortened limit text text
  | cut {front : String} (h : limit < text.utf8ByteSize) (hfront : front.toList <+: text.toList)
      (hle : front.utf8ByteSize ≤ limit)
      (hlongest : ∀ other : String, other.toList <+: text.toList → other.utf8ByteSize ≤ limit →
        other.toList <+: front.toList) : Shortened limit text (front ++ "…")

theorem shortened_shorten (limit : Nat) (text : String) :
    Shortened limit text (String.ofList (shorten limit text.toList)) := by
  rw [shorten]
  split
  · rename_i h
    rw [String.ofList_toList]
    exact .whole (by rwa [← Text.byteLength_toList])
  · rename_i h
    rw [String.ofList_append]
    refine .cut (by rw [← Text.byteLength_toList]; omega) ?_ ?_ ?_
    · rw [String.toList_ofList]
      exact Text.takeBytes_prefix limit text.toList
    · rw [← Text.byteLength_toList, String.toList_ofList]
      exact Text.byteLength_takeBytes_le limit text.toList
    · intro other hother hle
      rw [← Text.byteLength_toList] at hle
      rw [String.toList_ofList]
      exact Text.prefix_takeBytes hother hle

/-- What a post has of its file. -/
structure Extracted (fileName content : String) (post : Post) : Prop where
  /-- The first heading gives the title. -/
  titled : ∀ rest, IsFirst IsHeading (Text.lines content.toList) ("# ".toList ++ rest) →
    post.title = String.ofList (trim rest)
  untitled : (∀ line ∈ Text.lines content.toList, ¬ IsHeading line) →
    post.title = (Path.stem? fileName).getD fileName
  /-- A path of a single name has a stem. -/
  stem : '/' ∉ fileName.toList →
    ∃ stem, Path.stem? fileName = some stem ∧ Path.IsStem fileName.toList stem.toList
  /-- The first line of prose gives the preview. -/
  previewed : ∀ line, IsFirst IsProse (Text.lines content.toList) line →
    Shortened 240 (Markdown.strip (String.ofList (trim line))) post.preview
  unpreviewed : (∀ line ∈ Text.lines content.toList, ¬ IsProse line) → post.preview = ""

theorem length_of_dateText? {fileName date : String} (h : dateText? fileName = some date) :
    2 < fileName.toList.length := by
  obtain ⟨⟨hfront, hbytes⟩, -⟩ := dateText?_eq_some_iff.1 h
  have hlength := Text.byteLength_le date.toList
  rw [Text.byteLength_toList] at hlength
  have := hfront.length_le
  omega

/-- **Title and preview of a post.** -/
theorem extracted_of_ofMarkdown? {fileName content : String} {post : Post}
    (h : ofMarkdown? fileName content = some post) : Extracted fileName content post := by
  obtain ⟨date, hdate, rfl⟩ := Option.map_eq_some_iff.1 h
  simp only [read_eq, Option.none_or]
  refine ⟨fun rest hfirst => ?_, fun hnone => ?_, fun hslash => ?_, fun line hfirst => ?_, fun hnone => ?_⟩
  · rw [findSome?_heading? hfirst]
    rfl
  · rw [List.findSome?_eq_none_iff.2 fun line hline => heading?_eq_none_iff.2 (hnone line hline)]
    rfl
  · exact ⟨_, Path.stem?_eq hslash (length_of_dateText? hdate), Path.isStem_splitName fileName⟩
  · rw [findSome?_passage? hfirst]
    exact shortened_shorten previewLimit _
  · rw [List.findSome?_eq_none_iff.2 fun line hline => passage?_of_not_isProse (hnone line hline)]
    rfl

theorem extracted_of_ofMarkdown?_heading_below :
    ofMarkdown? "2024-01-01-a.md" "## b\n *p* q\n# T \n"
        = some ⟨"T", "p q", "2024-01-01", "/posts/2024-01-01/"⟩ ∧
      Extracted "2024-01-01-a.md" "## b\n *p* q\n# T \n" ⟨"T", "p q", "2024-01-01", "/posts/2024-01-01/"⟩ := by
  have heval : ofMarkdown? "2024-01-01-a.md" "## b\n *p* q\n# T \n"
      = some ⟨"T", "p q", "2024-01-01", "/posts/2024-01-01/"⟩ := by decide +kernel
  exact ⟨heval, extracted_of_ofMarkdown? heval⟩

/-- The preview is made of the line without the blanks around it, which would make it a block of code. A path without
a stem stands for its title itself. -/
theorem preview_of_indented_line :
    (IsFirst IsProse (Text.lines "    *a*\n".toList) "    *a*".toList ∧ Markdown.strip "    *a*" = "*a*" ∧
      ofMarkdown? "2024-01-01.md" "    *a*\n"
        = some ⟨"2024-01-01", "a", "2024-01-01", "/posts/2024-01-01/"⟩) ∧
    Path.stem? "2024-01-01/.." = none ∧
      ofMarkdown? "2024-01-01/.." "" = some ⟨"2024-01-01/..", "", "2024-01-01", "/posts/2024-01-01/"⟩ := by
  refine ⟨⟨⟨[], [], rfl, ⟨by decide, by decide⟩, by simp⟩, by decide +kernel, by decide +kernel⟩,
    by decide +kernel, by decide +kernel⟩

end Post

end StaticPage
