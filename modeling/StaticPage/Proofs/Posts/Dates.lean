import StaticPage.Posts.Basic
import StaticPage.Proofs.Calendar.DateText
import StaticPage.Ranking.Sort

/-!
# The dates of posts

A file is a post if the first ten bytes of its name spell a date. The name is meant to begin with `YYYY-MM-DD`, but
the reader of dates takes blanks and signs as well, and the date is kept as the name has it. Names without them
have the form that is meant, and then the dates of posts are sorted as texts.
-/

namespace StaticPage.Post

open Date (Iso Spells Unadorned)

variable {fileName content front front' date : String} {d : Date}

def Opens (front fileName : String) : Prop :=
  front.toList <+: fileName.toList ∧ front.utf8ByteSize = 10

instance : Decidable (Opens front fileName) :=
  inferInstanceAs (Decidable (_ ∧ _))

theorem firstBytes?_eq_some_iff_opens :
    Text.firstBytes? dateLength fileName.toList = some front.toList ↔ Opens front fileName := by
  rw [Text.firstBytes?_eq_some_iff, Text.byteLength_toList]
  rfl

theorem Opens.unique (h : Opens front fileName) (h' : Opens front' fileName) : front = front' := by
  rw [← firstBytes?_eq_some_iff_opens] at h h'
  rw [← String.toList_inj]
  exact Option.some.inj (h.symm.trans h')

theorem dateText?_eq_some_iff :
    dateText? fileName = some date ↔ Opens date fileName ∧ ∃ d, Spells date.toList d := by
  have hparse : (Date.parse? date.toList).isSome = true ↔ ∃ d, Spells date.toList d := by
    rw [Option.isSome_iff_exists]
    exact exists_congr fun d => Date.parse?_eq_some_iff
  rw [dateText?, Option.filter_eq_some_iff, hparse, Option.map_eq_some_iff]
  apply and_congr_left
  intro _
  rw [← firstBytes?_eq_some_iff_opens]
  constructor
  · rintro ⟨s, hs, rfl⟩
    rwa [String.toList_ofList]
  · intro h
    exact ⟨date.toList, h, String.ofList_toList⟩

theorem isSome_ofMarkdown?_iff :
    (ofMarkdown? fileName content).isSome = true ↔ ∃ front d, Opens front fileName ∧ Spells front.toList d := by
  rw [ofMarkdown?, Option.isSome_map, Option.isSome_iff_exists]
  apply exists_congr
  intro front
  rw [dateText?_eq_some_iff, exists_and_left]

theorem Opens.iso (h : Opens front fileName) (hd : Spells front.toList d) (hplain : Unadorned front.toList) :
    Iso front.toList d :=
  hd.iso hplain ((Text.byteLength_toList front).trans h.2)

theorem isSome_iff_iso_iff :
    ((ofMarkdown? fileName content).isSome = true ↔ ∃ front d, Opens front fileName ∧ Iso front.toList d) ↔
      ¬ ∃ front d, Opens front fileName ∧ Spells front.toList d ∧ ¬ Unadorned front.toList := by
  rw [isSome_ofMarkdown?_iff]
  constructor
  · rintro hiff ⟨front, d, hfront, hd, hadorned⟩
    obtain ⟨front', d', hfront', hd'⟩ := hiff.1 ⟨front, d, hfront, hd⟩
    obtain rfl := hfront.unique hfront'
    exact hadorned hd'.unadorned
  · intro hplain
    constructor
    · rintro ⟨front, d, hfront, hd⟩
      refine ⟨front, d, hfront, hfront.iso hd ?_⟩
      by_contra hadorned
      exact hplain ⟨front, d, hfront, hd, hadorned⟩
    · rintro ⟨front, d, hfront, hd⟩
      exact ⟨front, d, hfront, hd.spells⟩

/-- **The dates of posts.** A file is a post exactly if its name begins with `YYYY-MM-DD`, unless its first ten bytes
spell a date with a blank or a sign. A post has the first ten bytes of its name for its date and its address, and
dates of the form `YYYY-MM-DD` are sorted as texts in the order of their days. -/
theorem post_dates_iso_iff (fileName content : String) :
    (((ofMarkdown? fileName content).isSome = true ↔ ∃ front d, Opens front fileName ∧ Iso front.toList d) ↔
      ¬ ∃ front d, Opens front fileName ∧ Spells front.toList d ∧ ¬ Unadorned front.toList) ∧
    ∀ post, ofMarkdown? fileName content = some post →
      Opens post.date fileName ∧ post.url = "/posts/" ++ post.date ++ "/" ∧
        ((∃ d, Iso post.date.toList d) ↔ Unadorned post.date.toList) ∧
        ∀ (other : Post) (d e : Date), Iso post.date.toList d → Iso other.date.toList e →
          Ranking.compareTexts post.date other.date = compare d.dayNumber e.dayNumber := by
  refine ⟨isSome_iff_iso_iff, fun post h => ?_⟩
  obtain ⟨date, hdate, rfl⟩ := Option.map_eq_some_iff.1 h
  obtain ⟨hfront, d, hd⟩ := dateText?_eq_some_iff.1 hdate
  refine ⟨hfront, rfl, ⟨?_, fun hplain => ⟨d, hfront.iso hd hplain⟩⟩, ?_⟩
  · rintro ⟨d, hiso⟩
    exact hiso.unadorned
  · intro other d e hd he
    exact hd.compare_eq he

theorem post_dates_iso_iff_leap_day :
    ofMarkdown? "2024-02-29-a.md" "# A\n" = some ⟨"A", "", "2024-02-29", "/posts/2024-02-29/"⟩ ∧
      (∃ d, Iso "2024-02-29".toList d) ∧ Ranking.compareTexts "2024-02-29" "2024-03-01" = .lt := by
  obtain ⟨-, hpost⟩ := post_dates_iso_iff "2024-02-29-a.md" "# A\n"
  have heval : ofMarkdown? "2024-02-29-a.md" "# A\n" = some ⟨"A", "", "2024-02-29", "/posts/2024-02-29/"⟩ := by
    with_unfolding_all rfl
  obtain ⟨-, -, hiff, hcompare⟩ := hpost _ heval
  have hplain : Unadorned "2024-02-29".toList := by decide
  have hleap : Iso "2024-02-29".toList ⟨2024, 2, 29⟩ :=
    (Date.parse?_eq_some_iff.1 (by decide)).iso hplain (by decide)
  have hmarch : Iso "2024-03-01".toList ⟨2024, 3, 1⟩ :=
    (Date.parse?_eq_some_iff.1 (by decide)).iso (by decide) (by decide)
  refine ⟨heval, hiff.2 hplain, ?_⟩
  rw [hcompare ⟨"B", "", "2024-03-01", "/posts/2024-03-01/"⟩ _ _ hleap hmarch]
  decide

/-- A name with blanks in its date is taken, and the blanks are kept. -/
theorem post_of_blank_in_date :
    ofMarkdown? "2024- 1- 1.md" "# T\n" = some ⟨"T", "", "2024- 1- 1", "/posts/2024- 1- 1/"⟩ ∧
      ¬ ∃ front d, Opens front "2024- 1- 1.md" ∧ Iso front.toList d := by
  refine ⟨by with_unfolding_all rfl, ?_⟩
  rintro ⟨front, d, hfront, hd⟩
  have hopens : Opens "2024- 1- 1" "2024- 1- 1.md" := by decide
  obtain rfl := hfront.unique hopens
  have := hd.unadorned.1 ' ' (by decide)
  contradiction

end StaticPage.Post
