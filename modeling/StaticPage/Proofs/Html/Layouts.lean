import Mathlib.Data.List.Basic
import StaticPage.Html.Blocks
import StaticPage.Html.Layout
import StaticPage.Proofs.Html.Markup
import StaticPage.Proofs.Text.Cutting

/-!
# Filled layouts

A layout is filled by two replacements, one after the other on one text, so that the second of them
looks through the body as well. In a joined text the first occurrence of a word is the one in the first
part, `replaceFirst_append_of_present`, unless none begins there, `replaceFirst_append_of_le`; what is
left are the characters of the date marker, which begins with its only `<` and ends with its only `>`. A
text with such ends can make no marker with what stands around it: that is so of the content marker, and
of every body that was rendered.
-/

namespace StaticPage

namespace Text

variable {word new s t l r : List Char}

/-- The text `s` has the first occurrence of `word` between `l` and `r`. -/
structure First (word s l r : List Char) : Prop where
  eq : s = l ++ word ++ r
  le : ∀ l' r', s = l' ++ word ++ r' → l.length ≤ l'.length

theorem cutWord?_eq_some_iff : cutWord? word s = some (l, r) ↔ First word s l r := by
  constructor
  · intro h
    exact ⟨eq_of_cutWord? h, fun _ _ hs => length_le_of_cutWord? h hs⟩
  · rintro ⟨rfl, hle⟩
    exact cutWord?_append hle

theorem exists_first (h : word <:+: s) : ∃ l r, First word s l r := by
  cases hcut : cutWord? word s with
  | none => exact absurd h (cutWord?_eq_none_iff.1 hcut)
  | some sides => exact ⟨sides.1, sides.2, cutWord?_eq_some_iff.1 hcut⟩

theorem First.replaceFirst_eq (h : First word s l r) (new : List Char) :
    replaceFirst word new s = l ++ new ++ r := by
  rw [replaceFirst, cutWord?_eq_some_iff.2 h]

theorem replaceFirst_of_absent (h : ¬ word <:+: s) (new : List Char) :
    replaceFirst word new s = s := by
  rw [replaceFirst, cutWord?_eq_none_iff.2 h]

/-- What follows a text does not bring a word to an earlier place. -/
theorem First.append (h : First word s l r) (t : List Char) : First word (s ++ t) l (r ++ t) := by
  refine ⟨by simp [h.eq], fun l' r' hs => ?_⟩
  by_contra hlt
  have hshort : (l' ++ word).length ≤ s.length := by
    have := congrArg List.length h.eq
    simp only [List.length_append] at this ⊢
    omega
  obtain ⟨r'', hr''⟩ := List.prefix_of_prefix_length_le (List.prefix_append _ _)
    (hs ▸ List.prefix_append s t) hshort
  exact hlt (h.le l' r'' hr''.symm)

theorem replaceFirst_append_of_present (h : word <:+: s) (new t : List Char) :
    replaceFirst word new (s ++ t) = replaceFirst word new s ++ t := by
  obtain ⟨l, r, hfirst⟩ := exists_first h
  rw [(hfirst.append t).replaceFirst_eq, hfirst.replaceFirst_eq, List.append_assoc _ r t]

theorem replaceFirst_append_of_le (h : ∀ l r, s ++ t = l ++ word ++ r → s.length ≤ l.length)
    (new : List Char) : replaceFirst word new (s ++ t) = s ++ replaceFirst word new t := by
  by_cases ht : word <:+: t
  · obtain ⟨l, r, hfirst⟩ := exists_first ht
    have hjoined : First word (s ++ t) (s ++ l) r := by
      refine ⟨by simp [hfirst.eq], fun l' r' hs => ?_⟩
      obtain ⟨m, rfl⟩ : s <+: l' := by
        refine List.prefix_of_prefix_length_le (List.prefix_append s t) ?_ (h l' r' hs)
        exact hs ▸ (List.prefix_append l' (word ++ r')).trans (by simp)
      have := hfirst.le m r' (by simpa using hs)
      simpa using this
    rw [hjoined.replaceFirst_eq, hfirst.replaceFirst_eq]
    simp
  · have hjoined : ¬ word <:+: s ++ t := by
      rintro ⟨l, r, hs⟩
      obtain ⟨m, rfl⟩ : s <+: l := by
        refine List.prefix_of_prefix_length_le (List.prefix_append s t) ?_ (h l r hs.symm)
        exact hs ▸ (List.prefix_append l (word ++ r)).trans (by simp)
      exact ht ⟨m, r, by simpa using hs⟩
    rw [replaceFirst_of_absent hjoined, replaceFirst_of_absent ht]

end Text

namespace Html

variable {pre post date s : List Char}

/-! ### The date marker -/

theorem eq_nil_of_dateMarker_eq {a b : List Char} (h : dateMarker = a ++ '<' :: b) : a = [] := by
  cases a with
  | nil => rfl
  | cons c a =>
      have hmem : '<' ∈ dateMarker.tail := by simp [h]
      exact absurd hmem (by decide)

theorem nil_of_dateMarker_eq {a b : List Char} (h : dateMarker = a ++ '>' :: b) : b = [] := by
  rcases List.eq_nil_or_concat b with rfl | ⟨b, c, rfl⟩
  · rfl
  · have hmem : '>' ∈ dateMarker.dropLast := by
      rw [h, List.concat_eq_append, ← List.cons_append, ← List.append_assoc, List.dropLast_concat]
      simp
    exact absurd hmem (by decide)

/-- A text that begins with `<` and ends with `>`. -/
structure Framed (s : List Char) : Prop where
  head : s.head? = some '<'
  last : s.getLast? = some '>'

theorem framed_append {t : List Char} (hs : s.head? = some '<') (ht : t.getLast? = some '>')
    (m : List Char) : Framed (s ++ (m ++ t)) := by
  refine ⟨?_, ?_⟩
  · rw [List.head?_append, hs, Option.some_or]
  · rw [← List.append_assoc, List.getLast?_append, ht, Option.some_or]

/-- Around a framed text no date marker forms with what is in it. -/
theorem Framed.infix_append (hs : Framed s) (h : dateMarker <:+: pre ++ s) :
    dateMarker <:+: pre ∨ dateMarker <:+: s := by
  obtain ⟨l, r, h⟩ := h
  rw [List.append_assoc] at h
  rcases List.append_eq_append_iff.1 h with ⟨m, rfl, hm⟩ | ⟨m, rfl, rfl⟩
  · rcases List.append_eq_append_iff.1 hm with ⟨a, rfl, rfl⟩ | ⟨a, ha, rfl⟩
    · exact .inl ⟨l, a, by simp⟩
    · cases a with
      | nil => exact .inl ⟨l, [], by simp [ha]⟩
      | cons c a =>
          obtain rfl : c = '<' := by simpa using hs.head
          rw [eq_nil_of_dateMarker_eq ha, List.nil_append] at ha
          exact .inr ⟨[], r, by simp [ha]⟩
  · exact .inr ⟨m, r, by simp⟩

theorem Framed.le_iff (hs : Framed s) :
    (∀ l r, pre ++ s ++ post = l ++ dateMarker ++ r → (pre ++ s).length ≤ l.length) ↔
      ¬ dateMarker <:+: pre ∧ ¬ dateMarker <:+: s := by
  have hpos : 0 < dateMarker.length := by decide
  constructor
  · intro hle
    have hnot {l r : List Char} (h : pre ++ s = l ++ dateMarker ++ r) : False := by
      have hlength := hle l (r ++ post) (by rw [h]; simp)
      have := congrArg List.length h
      simp only [List.length_append] at this hlength
      omega
    refine ⟨fun ⟨l, r, h⟩ => hnot (l := l) (r := r ++ s) (by rw [← h]; simp), fun ⟨l, r, h⟩ => ?_⟩
    exact hnot (l := pre ++ l) (r := r) (by rw [← h]; simp)
  · rintro ⟨hpre, hin⟩ l r h
    by_contra hlt
    rw [List.append_assoc l] at h
    rcases List.append_eq_append_iff.1 h with ⟨m, rfl, -⟩ | ⟨m, hl, hm⟩
    · simp at hlt
    -- the marker begins before the end of `s`, and `m` is what is left of `pre ++ s` there
    rcases List.append_eq_append_iff.1 hm with ⟨a, rfl, -⟩ | ⟨a, ha, rfl⟩
    · exact (hs.infix_append ⟨l, a, by simp [hl]⟩).elim hpre hin
    · rcases List.eq_nil_or_concat m with rfl | ⟨m, c, rfl⟩
      · simp [hl] at hlt
      · obtain rfl : c = '>' := by
          have := congrArg List.getLast? hl
          rw [List.getLast?_append, hs.last] at this
          simpa using this.symm
        obtain rfl := nil_of_dateMarker_eq (a := m) (b := a) (by simpa using ha)
        exact (hs.infix_append ⟨l, [], by simp [hl, ha]⟩).elim hpre hin

/-! ### Filling -/

/-- The text before the content marker of a layout and the text after it, with the layout's own first
date marker filled. -/
def fillSides (date pre post : List Char) : List Char × List Char :=
  match Text.cutWord? dateMarker pre with
  | some (l, r) => (l ++ date ++ r, post)
  | none => (pre, Text.replaceFirst dateMarker date post)

theorem fillSides_of_present (h : dateMarker <:+: pre) (date post : List Char) :
    fillSides date pre post = (Text.replaceFirst dateMarker date pre, post) := by
  obtain ⟨l, r, hfirst⟩ := Text.exists_first h
  rw [fillSides, Text.cutWord?_eq_some_iff.2 hfirst, hfirst.replaceFirst_eq]

theorem fillSides_of_absent (h : ¬ dateMarker <:+: pre) (date post : List Char) :
    fillSides date pre post = (pre, Text.replaceFirst dateMarker date post) := by
  rw [fillSides, Text.cutWord?_eq_none_iff.2 h]

/-- Whatever stands between two texts, the date fills the marker that it would fill without it exactly
if that one comes first. -/
theorem replaceFirst_between_iff {c : Char} (hdate : date.head? = some c) (hc : c ≠ '<')
    (pre s post : List Char) :
    Text.replaceFirst dateMarker date (pre ++ s ++ post) =
        (fillSides date pre post).1 ++ s ++ (fillSides date pre post).2 ↔
      dateMarker <:+: pre ∨
        ∀ l r, pre ++ s ++ post = l ++ dateMarker ++ r → (pre ++ s).length ≤ l.length := by
  by_cases hpre : dateMarker <:+: pre
  · rw [fillSides_of_present hpre, List.append_assoc, Text.replaceFirst_append_of_present hpre]
    simp [hpre]
  rw [fillSides_of_absent hpre]
  constructor
  · intro h
    refine .inr fun l r hl => ?_
    by_contra hlt
    -- the page has the date where the first marker was; the other text has the marker there
    obtain ⟨l', r', hfirst⟩ := Text.exists_first ⟨l, r, hl.symm⟩
    have hlength : l'.length < (pre ++ s).length := by
      have := hfirst.le l r hl
      omega
    have hmarker : (pre ++ s)[l'.length]? = some '<' := by
      have hread : (pre ++ s ++ post)[l'.length]? = some '<' := by
        rw [hfirst.eq, List.append_assoc, List.getElem?_append_right le_rfl, Nat.sub_self]
        rfl
      rwa [List.getElem?_append_left hlength] at hread
    rw [hfirst.replaceFirst_eq] at h
    have hfilled := congrArg (·[l'.length]?) h
    simp only [List.append_assoc] at hfilled
    rw [List.getElem?_append_right le_rfl, Nat.sub_self, ← List.append_assoc pre,
      List.getElem?_append_left hlength, hmarker, ← List.head?_eq_getElem?, List.head?_append,
      hdate] at hfilled
    exact hc (by simpa using hfilled)
  · intro h
    rw [Text.replaceFirst_append_of_le (h.resolve_left hpre)]

theorem applyLayout_eq {layout : String} (h : Text.First contentMarker layout.toList pre post)
    (body : String) (d : Date) (path : String) :
    applyLayout layout body d path = .ok (String.ofList
      (Text.replaceFirst dateMarker d.long.toList (pre ++ body.toList ++ post))) := by
  rw [applyLayout, Text.cutWord?_eq_some_iff.2 h]

theorem framed_contentMarker : Framed contentMarker :=
  ⟨rfl, rfl⟩

theorem head?_long (d : Date) : ∃ c, d.long.toList.head? = some c ∧ c ≠ '<' := by
  obtain ⟨c, s, hname, hc⟩ : ∃ c s, (Date.monthName d.month).toList = c :: s ∧ c ≠ '<' := by
    unfold Date.monthName
    split <;> exact ⟨_, _, rfl, by decide⟩
  refine ⟨c, ?_, hc⟩
  simp [Date.long, hname]

theorem replaceFirst_layout (d : Date) (pre post : List Char) :
    Text.replaceFirst dateMarker d.long.toList (pre ++ contentMarker ++ post) =
      (fillSides d.long.toList pre post).1 ++ contentMarker ++ (fillSides d.long.toList pre post).2 := by
  obtain ⟨c, hdate, hc⟩ := head?_long d
  refine (replaceFirst_between_iff hdate hc pre contentMarker post).2 ?_
  by_cases hpre : dateMarker <:+: pre
  · exact .inl hpre
  · have hcontent : Text.cutWord? dateMarker contentMarker = none := rfl
    exact .inr (framed_contentMarker.le_iff.2 ⟨hpre, Text.cutWord?_eq_none_iff.1 hcontent⟩)

/-! ### Rendered bodies -/

theorem framed_blockText (b : Block) : Framed (blockText b) := by
  cases b with
  | prose id html =>
      rw [blockText_prose, List.append_assoc _ (escapeText _), List.append_assoc _ _ (unwrapParagraph _),
        List.append_assoc _ (_ ++ unwrapParagraph _)]
      exact framed_append rfl rfl _
  | field path value =>
      rw [blockText_field, fieldText, List.append_assoc]
      exact framed_append rfl rfl _
  | loop source iterations =>
      rw [blockText_loop, List.append_assoc]
      exact framed_append rfl rfl _

theorem framed_blocksText {blocks : List Block} (h : blocks ≠ []) : Framed (blocksText blocks) := by
  induction blocks with
  | nil => exact absurd rfl h
  | cons b rest ih =>
      rw [blocksText]
      cases rest with
      | nil => rw [blocksText, List.append_nil]; exact framed_blockText b
      | cons b' rest =>
          exact framed_append (framed_blockText b).head (ih (List.cons_ne_nil _ _)).last []

/-! ### Pages -/

/-- A layout with a content marker makes a page of every body and date. The page is the body between
the two sides of the layout, its own date marker filled, exactly if that marker stands before the body
or no date marker begins in front of the second side: not in the body, and not across its ends. A rendered
body, unless it is empty, can displace that marker only by one of its own: none forms with the text around it. -/
theorem layout_fills_own_markers_iff {layout : String} {pre post : List Char}
    (hlayout : Text.First contentMarker layout.toList pre post) (body : String) (date : Date)
    (path : String) :
    Text.replaceFirst dateMarker date.long.toList layout.toList =
        (fillSides date.long.toList pre post).1 ++ contentMarker ++ (fillSides date.long.toList pre post).2 ∧
      ∃ page, applyLayout layout body date path = .ok page ∧
        (page.toList = (fillSides date.long.toList pre post).1 ++ body.toList ++
            (fillSides date.long.toList pre post).2 ↔
          dateMarker <:+: pre ∨ ∀ l r, pre ++ body.toList ++ post = l ++ dateMarker ++ r →
            (pre ++ body.toList).length ≤ l.length) ∧
        ∀ blocks ≠ [], body = render blocks →
          (page.toList = (fillSides date.long.toList pre post).1 ++ body.toList ++
              (fillSides date.long.toList pre post).2 ↔
            dateMarker <:+: pre ∨ ¬ dateMarker <:+: body.toList) := by
  obtain ⟨c, hdate, hc⟩ := head?_long date
  have hiff := replaceFirst_between_iff hdate hc pre body.toList post
  refine ⟨?_, _, applyLayout_eq hlayout _ date path, ?_, fun blocks hblocks hbody => ?_⟩
  · rw [hlayout.eq]
    exact replaceFirst_layout date pre post
  · rw [String.toList_ofList]
    exact hiff
  · have hframed : Framed body.toList := by
      rw [hbody, render, String.toList_ofList]
      exact framed_blocksText hblocks
    rw [String.toList_ofList, hiff, hframed.le_iff]
    tauto

/-- A page whose body has no marker. -/
theorem layout_fills_own_markers_iff_footer :
    Text.First contentMarker "<main><!--CONTENT--></main><footer><!--LAST_UPDATED--></footer>".toList
        "<main>".toList "</main><footer><!--LAST_UPDATED--></footer>".toList ∧
      applyLayout "<main><!--CONTENT--></main><footer><!--LAST_UPDATED--></footer>" "<p>x</p>"
        ⟨2024, 3, 5⟩ "layout.html" = .ok "<main><p>x</p></main><footer>March 5, 2024</footer>" := by
  have hlayout : Text.First contentMarker
      "<main><!--CONTENT--></main><footer><!--LAST_UPDATED--></footer>".toList "<main>".toList
      "</main><footer><!--LAST_UPDATED--></footer>".toList :=
    Text.cutWord?_eq_some_iff.1 rfl
  have hbody : Framed "<p>x</p>".toList := ⟨rfl, rfl⟩
  have hpre : Text.cutWord? dateMarker "<main>".toList = none := rfl
  have hin : Text.cutWord? dateMarker "<p>x</p>".toList = none := rfl
  obtain ⟨-, page, hpage, hiff, -⟩ :=
    layout_fills_own_markers_iff hlayout "<p>x</p>" ⟨2024, 3, 5⟩ "layout.html"
  have hfilled := hiff.2 (.inr (hbody.le_iff.2
    ⟨Text.cutWord?_eq_none_iff.1 hpre, Text.cutWord?_eq_none_iff.1 hin⟩))
  refine ⟨hlayout, ?_⟩
  rw [hpage, ← String.ofList_toList (s := page), hfilled]
  with_unfolding_all rfl

/-- A marker in the body is filled, and the layout's own one stays. -/
theorem layout_fills_marker_of_body :
    Text.First contentMarker "<main><!--CONTENT--></main><footer><!--LAST_UPDATED--></footer>".toList
        "<main>".toList "</main><footer><!--LAST_UPDATED--></footer>".toList ∧
      fillSides (Date.long ⟨2024, 3, 5⟩).toList "<main>".toList
          "</main><footer><!--LAST_UPDATED--></footer>".toList =
        ("<main>".toList, "</main><footer>March 5, 2024</footer>".toList) ∧
      applyLayout "<main><!--CONTENT--></main><footer><!--LAST_UPDATED--></footer>"
          "<p><!--LAST_UPDATED--></p>" ⟨2024, 3, 5⟩ "layout.html" =
        .ok "<main><p>March 5, 2024</p></main><footer><!--LAST_UPDATED--></footer>" := by
  refine ⟨Text.cutWord?_eq_some_iff.1 rfl, ?_, ?_⟩
  · with_unfolding_all rfl
  · with_unfolding_all rfl

end Html

end StaticPage
