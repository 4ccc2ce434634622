import StaticPage.Proofs.Document.BindingLines
import StaticPage.Proofs.Document.LoopHeads

/-!
# Body lines read back

What a body line says is `Legible`, and the text of a legible item is read back as the item itself, apart
from the loop heads that are not plain. In the text of a document a line stands after the blanks of its
depth. These count as its indentation and as nothing else, and they keep the line from being taken for a
binding.
-/

namespace StaticPage

open Text (trim trimStart Bare)

namespace Item

variable {s : List Char} {item : Item}

inductive Legible : Item → Prop where
  | prose {id text : String} (hid : Bare id.toList) (htext : Bare text.toList)
      (hcolon : ':' ∉ id.toList) (hid_newline : '\n' ∉ id.toList) (htext_newline : '\n' ∉ text.toList) :
      Legible (.prose id text)
  | field {path : String} (hne : path.toList ≠ []) (hbare : Bare path.toList)
      (hcomment : path.toList.head? ≠ some '#') (hnewline : '\n' ∉ path.toList)
      (hread : ofText? path.toList = .ok (.field path)) : Legible (.field path)
  | loop {header : LoopHeader} (hheader : header.Legible) : Legible (.loop header)

/-- An item whose text is not misread. -/
def Plain : Item → Prop
  | .loop header => header.Plain
  | _ => True

/-! ### Items that were read -/

theorem prose?_eq_ok_iff : prose? s = .ok item ↔ ∃ id text, Text.cut? ':' s = some (id, text) ∧
    item = .prose (String.ofList (trim id)) (String.ofList (trim text)) := by
  rw [prose?]
  cases Text.cut? ':' s with
  | none => simp
  | some sides =>
      obtain ⟨id, text⟩ := sides
      simp only [Except.ok.injEq, Option.some.injEq, Prod.mk.injEq]
      constructor
      · rintro rfl
        exact ⟨id, text, ⟨rfl, rfl⟩, rfl⟩
      · rintro ⟨_, _, ⟨rfl, rfl⟩, rfl⟩
        rfl

theorem exists_loop_of_loop? (h : loop? s = .ok item) : ∃ header, item = .loop header := by
  obtain ⟨_, _, _, _, _, hclause⟩ := loop?_eq_ok_iff.1 h
  obtain ⟨_, _, _, _, header, _, _, _, _, _, _, _, rfl⟩ := clause?_eq_ok_iff.1 hclause
  exact ⟨header, rfl⟩

theorem legible_of_ofText? (hne : s ≠ []) (hbare : Bare s) (hcomment : s.head? ≠ some '#')
    (hnewline : '\n' ∉ s) (h : ofText? s = .ok item) : item.Legible := by
  have hread := h
  rw [ofText?] at h
  split at h
  · obtain ⟨id, text, hcut, rfl⟩ := prose?_eq_ok_iff.1 h
    obtain ⟨hs, hcolon⟩ := Text.cut?_eq_some_iff.1 hcut
    have hinner : id ++ ':' :: text ⊆ s := by
      rw [← hs]
      exact List.Subset.trans (List.dropLast_subset _) (List.tail_sublist s).subset
    have hid : trim id ⊆ id := (Text.trim_isInfix id).subset
    have htext : trim text ⊆ text := (Text.trim_isInfix text).subset
    refine .prose ?_ ?_ ?_ ?_ ?_ <;> rw [String.toList_ofList]
    · exact Text.bare_trim id
    · exact Text.bare_trim text
    · exact fun hc => hcolon (hid hc)
    · exact fun hc => hnewline (hinner (List.mem_append_left _ (hid hc)))
    · exact fun hc => hnewline (hinner (List.mem_append_right _ (List.mem_cons_of_mem _ (htext hc))))
  · split at h
    · obtain ⟨header, rfl⟩ := exists_loop_of_loop? h
      exact .loop (LoopHeader.legible_of_loop? hnewline h)
    · cases h
      refine .field ?_ ?_ ?_ ?_ ?_ <;> rw [String.toList_ofList]
      · exact hne
      · exact hbare
      · exact hcomment
      · exact hnewline
      · exact hread

/-! ### Texts of items -/

theorem text_prose (id text : String) :
    (Item.prose id text).text = '\x7b' :: (id.toList ++ ':' :: ' ' :: text.toList) ++ ['\x7d'] := by
  have hcolon : ": ".toList = [':', ' '] := rfl
  change '\x7b' :: id.toList ++ ": ".toList ++ text.toList ++ ['\x7d'] = _
  rw [hcolon]
  simp only [List.append_assoc, List.cons_append, List.nil_append]

theorem text_loop (header : LoopHeader) : (Item.loop header).text
    = '[' :: (forWord ++ (header.leftText ++ header.sortText)) ++ [']'] :=
  header.text_eq

theorem bare_brackets {a b : Char} (ha : Text.isBlank a = false) (hb : Text.isBlank b = false)
    (inner : List Char) : Bare (a :: inner ++ [b]) :=
  (Text.bare_singleton ha).append (Text.bare_singleton hb) (by simp) (by simp) inner

theorem Legible.text_ne (h : item.Legible) : item.text ≠ [] := by
  cases h with
  | prose => simp [text_prose]
  | field hne => exact hne
  | loop => simp [text_loop]

theorem Legible.bare_text (h : item.Legible) : Bare item.text := by
  cases h with
  | prose =>
      rw [text_prose]
      exact bare_brackets (by decide) (by decide) _
  | field _ hbare => exact hbare
  | loop =>
      rw [text_loop]
      exact bare_brackets (by decide) (by decide) _

theorem Legible.head?_text (h : item.Legible) : item.text.head? ≠ some '#' := by
  cases h with
  | prose => simp [text_prose]
  | field _ _ hcomment => exact hcomment
  | loop => simp [text_loop]

theorem Legible.newline_text (h : item.Legible) : '\n' ∉ item.text := by
  cases h with
  | prose _ _ _ hid htext => simp [text_prose, hid, htext]
  | field _ _ _ hnewline => exact hnewline
  | @loop header hheader =>
      have hinside : '\n' ∉ header.leftText ++ header.sortText :=
        fun hc => (hheader.inside '\n' hc).2 rfl
      rw [List.mem_append, not_or] at hinside
      simp [text_loop, forWord, hinside]

theorem Legible.ofText?_prose {id text : String} (hid : Bare id.toList) (htext : Bare text.toList)
    (hcolon : ':' ∉ id.toList) : ofText? (Item.prose id text).text = .ok (.prose id text) := by
  have htrim : trim (' ' :: text.toList) = text.toList :=
    (Text.trim_blank _).trans htext.trim_eq
  rw [text_prose, ofText?, if_pos ⟨rfl, List.getLast?_concat⟩, List.cons_append, List.tail_cons,
    List.dropLast_concat, prose?, Text.cut?_append hcolon]
  dsimp only
  rw [hid.trim_eq, htrim, String.ofList_toList, String.ofList_toList]

theorem ofText?_loop (header : LoopHeader) :
    ofText? (Item.loop header).text = loop? header.text := by
  have hopen : "[for ".toList = '[' :: forWord := rfl
  have hbrace : ¬ ((Item.loop header).text.head? = some '\x7b' ∧
      (Item.loop header).text.getLast? = some '\x7d') := by
    rw [text_loop]
    rintro ⟨hhead, -⟩
    cases hhead
  have hfor : "[for ".toList.isPrefixOf (Item.loop header).text = true := by
    rw [List.isPrefixOf_iff_prefix, hopen, text_loop]
    exact ⟨header.leftText ++ header.sortText ++ [']'], by simp⟩
  rw [ofText?, if_neg hbrace, if_pos hfor]
  rfl

/-- The text of a legible item is read back exactly if it is plain. -/
theorem Legible.ofText?_text_iff (h : item.Legible) : ofText? item.text = .ok item ↔ item.Plain := by
  cases h with
  | prose hid htext hcolon => exact ⟨fun _ => trivial, fun _ => Legible.ofText?_prose hid htext hcolon⟩
  | field _ _ _ _ hread => exact ⟨fun _ => trivial, fun _ => hread⟩
  | loop hheader =>
      rw [ofText?_loop, hheader.loop?_text]
      exact hheader.clause?_text_iff

/-! ### Lines of items -/

def lineText (depth : Nat) (item : Item) : List Char :=
  List.replicate (2 * depth) ' ' ++ item.text

variable {depth : Nat}

theorem Legible.trim_lineText (h : item.Legible) : trim (lineText depth item) = item.text := by
  rw [lineText, Text.trim_append (Text.blank_replicate _), h.bare_text.trim_eq]

theorem Legible.indent_lineText (h : item.Legible) (number : Nat) :
    Line.indent ⟨number, String.ofList (lineText depth item)⟩ = 2 * depth := by
  have hspaces : ∀ c ∈ List.replicate (2 * depth) ' ', (c == ' ') = true := by
    intro c hc
    rw [List.eq_of_mem_replicate hc]
    rfl
  have hhead : ∀ c ∈ item.text.head?, (c == ' ') = false := by
    intro c hc
    have := h.bare_text.head c hc
    refine beq_eq_false_iff_ne.2 ?_
    rintro rfl
    exact absurd this (by decide)
  rw [Line.indent, String.toList_ofList, lineText, Text.takeWhile_append hspaces hhead,
    List.length_replicate]

theorem Legible.newline_lineText (h : item.Legible) : '\n' ∉ lineText depth item := by
  rw [lineText, List.mem_append, not_or]
  refine ⟨fun hc => ?_, h.newline_text⟩
  exact absurd (List.eq_of_mem_replicate hc) (by decide)

/-- A field at the margin that has the form of a binding. -/
def LikeBinding (depth : Nat) (item : Item) : Prop :=
  ∃ path, depth = 0 ∧ item = .field path ∧ (Header.sides? path.toList).isSome

/-- Of the lines of legible items, only fields at the margin can be taken for bindings. -/
theorem sides?_lineText : (Header.sides? (lineText depth item)).isSome ↔ LikeBinding depth item := by
  have hnone {c : Char} (hc : (lineText depth item).head? = some c) (hmark : c ≠ '!')
      (hname : Header.isNameChar c = false) (hlike : ¬ LikeBinding depth item) :
      (Header.sides? (lineText depth item)).isSome ↔ LikeBinding depth item := by
    rw [Header.sides?_eq_none hc hmark hname]
    exact ⟨fun h => absurd h (by decide), fun h => absurd h hlike⟩
  cases depth with
  | succ depth =>
      refine hnone (c := ' ') rfl (by decide) (by decide) ?_
      rintro ⟨_, hdepth, -⟩
      cases hdepth
  | zero =>
      cases item with
      | prose id text =>
          refine hnone (c := '\x7b') ?_ (by decide) (by decide) ?_
          · rw [lineText, text_prose]
            rfl
          · rintro ⟨_, -, hitem, -⟩
            cases hitem
      | loop header =>
          refine hnone (c := '[') ?_ (by decide) (by decide) ?_
          · rw [lineText, text_loop]
            rfl
          · rintro ⟨_, -, hitem, -⟩
            cases hitem
      | field path =>
          constructor
          · exact fun h => ⟨path, rfl, rfl, h⟩
          · rintro ⟨_, -, hitem, h⟩
            cases hitem
            exact h

end Item

end StaticPage
