import StaticPage.Proofs.Files.Findings
import StaticPage.Proofs.Http.Rebindings
import StaticPage.Site

/-!
# Reading the sources of a site again

The document, the posts and the layout of a site are read and not changed. `Rereads` says of a computation
that it does nothing else with files, and does so in one tree as in another one. It holds of those that read
sources where both trees have them: `rereads_loadDocument`, `rereads_loadMatching`, `rereads_applyLayout`.
-/

namespace StaticPage

open Context FileTree

variable {α β : Type} {t t' : FileTree} {path : String} {settings : Settings}

def FileTree.text (t : FileTree) (path : String) : Except FileFault String :=
  match t.read path with
  | .error fault => .error fault
  | .ok bytes =>
    match String.fromUTF8? bytes with
    | some text => .ok text
    | none => .error .notUtf8

/-- A file that can be read in one tree has the same bytes in another one. -/
def FileTree.Shares (t t' : FileTree) (path : String) : Prop :=
  ∀ bytes, t.read path = .ok bytes → t'.read path = .ok bytes

/-- A computation leaves the files of a tree alone, and what it brings there, it brings with another tree as
well, which it leaves alone too. -/
def Rereads (t t' : FileTree) (x : ExceptT Failure (StateM World) α) : Prop :=
  ∀ w w' a, w.tree = t → outcome x w = (.ok a, w') →
    w'.tree = t ∧ ∀ v : World, v.tree = t' → ∃ v', outcome x v = (.ok a, v') ∧ v'.tree = t'

/-! ### Computations that read -/

theorem Rereads.bind {x : ExceptT Failure (StateM World) α} {f : α → ExceptT Failure (StateM World) β}
    (hx : Rereads t t' x) (hf : ∀ a, Rereads t t' (f a)) : Rereads t t' (x >>= f) := by
  intro w w' b hw h
  obtain ⟨a, w₁, hfirst, hrest⟩ := outcome_bind_eq_ok h
  obtain ⟨hw₁, hfirst⟩ := hx w w₁ a hw hfirst
  obtain ⟨hw', hrest⟩ := hf a w₁ w' b hw₁ hrest
  refine ⟨hw', fun v hv => ?_⟩
  obtain ⟨v₁, hfirst, hv₁⟩ := hfirst v hv
  obtain ⟨v', hrest, hv'⟩ := hrest v₁ hv₁
  refine ⟨v', ?_, hv'⟩
  rw [outcome_bind, hfirst]
  exact hrest

theorem rereads_except (x : Except Failure α) :
    Rereads t t' (liftM x : ExceptT Failure (StateM World) α) := by
  intro w w' a hw h
  rw [outcome_except, Prod.mk.injEq] at h
  obtain ⟨rfl, rfl⟩ := h
  exact ⟨hw, fun v hv => ⟨v, outcome_except _ v, hv⟩⟩

theorem rereads_pure (a : α) : Rereads t t' (pure a : ExceptT Failure (StateM World) α) :=
  rereads_except (.ok a)

theorem rereads_throw (failure : Failure) :
    Rereads t t' (throw failure : ExceptT Failure (StateM World) α) :=
  rereads_except (.error failure)

theorem rereads_warn (warning : Warning) :
    Rereads t t' (warn warning : ExceptT Failure (StateM World) Unit) := by
  intro w w' a hw h
  cases h
  exact ⟨hw, fun v hv => ⟨_, rfl, hv⟩⟩

theorem after_readText (path : String) (w : World) :
    after ((FileTree.access (m := StateM World)).readText path) w = (w.tree.text path, w) := by
  have htree : tree w = w.tree := rfl
  rw [FileAccess.readText, after_bind, after_read, FileTree.text, htree]
  cases w.tree.read path with
  | error fault => rfl
  | ok bytes =>
      dsimp only
      cases String.fromUTF8? bytes <;> rfl

theorem FileTree.Shares.text (h : t.Shares t' path) {text : String} (htext : t.text path = .ok text) :
    t'.text path = .ok text := by
  unfold FileTree.text at htext ⊢
  cases hread : t.read path with
  | error fault =>
      rw [hread] at htext
      cases htext
  | ok bytes =>
      rw [hread] at htext
      rw [h bytes hread]
      exact htext

theorem Rereads.readText (h : t.Shares t' path) {f : String → ExceptT Failure (StateM World) α}
    (hf : ∀ text, Rereads t t' (f text)) :
    Rereads t t' (do
      match ← ((FileTree.access (m := StateM World)).readText path : StateM World _) with
      | .error fault => throw (.file fault)
      | .ok text => f text) := by
  have hread (w : World) : outcome (liftM ((FileTree.access (m := StateM World)).readText path)) w
      = (.ok (w.tree.text path), w) := outcome_lift_eq_ok.2 (after_readText path w)
  intro w w' a hw hrun
  rw [outcome_bind, hread] at hrun
  subst hw
  cases htext : w.tree.text path with
  | error fault =>
      rw [htext] at hrun
      cases hrun
  | ok text =>
      rw [htext] at hrun
      obtain ⟨hw', hagain⟩ := hf text w w' a rfl hrun
      refine ⟨hw', fun v hv => ?_⟩
      rw [outcome_bind, hread, hv, h.text htext]
      exact hagain v hv

theorem rereads_readText (h : t.Shares t' path) :
    Rereads t t' (Site.onFiles ((FileTree.access (m := StateM World)).readText path)) := by
  have hfiles : Site.onFiles ((FileTree.access (m := StateM World)).readText path) = (do
      match ← ((FileTree.access (m := StateM World)).readText path : StateM World _) with
      | .error fault => throw (.file fault)
      | .ok text => pure text) := by
    refine bind_congr fun text => ?_
    cases text <;> rfl
  rw [hfiles]
  exact .readText h rereads_pure

/-! ### Sources -/

theorem rereads_loadDocument (h : t.Shares t' path) :
    Rereads t t' (Site.loadDocument (FileTree.access (m := StateM World)) path) := by
  refine (rereads_readText h).bind fun source => ?_
  split
  · exact rereads_pure _
  · exact rereads_throw _

theorem rereads_load? (h : t.Shares t' path) :
    Rereads t t' (Post.load? (FileTree.access (m := StateM World)) path) := by
  unfold Post.load?
  split
  · dsimp only
    split
    · exact rereads_pure _
    · refine .readText h fun content => ?_
      split
      · exact (rereads_warn _).bind fun _ => rereads_pure _
      · exact rereads_pure _
  · exact rereads_pure _

theorem rereads_loadAll {paths : List String} (h : ∀ path ∈ paths, t.Shares t' path) :
    Rereads t t' (Post.loadAll (FileTree.access (m := StateM World)) paths) := by
  induction paths with
  | nil => exact rereads_pure _
  | cons path rest ih =>
      rw [List.forall_mem_cons] at h
      exact (rereads_load? h.1).bind fun post => (ih h.2).bind fun posts => rereads_pure _

theorem rereads_loadMatching {pattern : String}
    (h : ∀ p, Glob.Pattern.parse pattern = .ok p → t'.found p = t.found p ∧
      ∀ path ∈ t.found p, t.Shares t' path) :
    Rereads t t' (Post.loadMatching (FileTree.access (m := StateM World)) pattern) := by
  unfold Post.loadMatching
  split
  · exact rereads_throw _
  · rename_i p hparse
    obtain ⟨hfound, hshares⟩ := h p hparse
    have hpaths (w : World) : outcome (liftM (p.paths (FileTree.access (m := StateM World)))) w
        = (.ok (w.tree.found p), w) := outcome_lift_eq_ok.2 (after_paths p w)
    intro w w' posts hw hload
    rw [outcome_bind, hpaths] at hload
    subst hw
    obtain ⟨hw', hagain⟩ := rereads_loadAll hshares w w' posts rfl hload
    refine ⟨hw', fun v hv => ?_⟩
    rw [outcome_bind, hpaths, hv, hfound]
    exact hagain v hv

theorem rereads_applyLayout (h : t.Shares t' path) (body : String) (today : Date) :
    Rereads t t' (do
      let layout ← Site.onFiles ((FileTree.access (m := StateM World)).readText path)
      Html.applyLayout layout body today path) :=
  (rereads_readText h).bind fun _ => rereads_except _

end StaticPage
