import StaticPage.Proofs.Evaluation.Sessions
import StaticPage.Proofs.Http.Exchanges
import StaticPage.Proofs.Http.Openings
import StaticPage.Site

/-!
# Runs over the network

A run makes a context, calls it and, at its end, keeps what lazy bindings and the fetcher have learnt.
Calling a context sends requests that nothing is kept of, so that the world goes on as if something had
happened `Elsewhere`. What is kept at the end is written where the targets of lazy bindings lead and in the
file of validators, `keepsBut_keep`.
-/

namespace StaticPage

open Context FileTree Relation

namespace HttpFetcher

/-- Makes the context of a document, with the validators that were kept. -/
def context (f : HttpFetcher (StateM World)) (doc : Document) : ExceptT Failure (StateM World) Context := do
  match ← f.start with
  | .error cause => throw (.fetcherSetup cause)
  | .ok () => Context.ofDocument f.store f.fetcher doc

def keep (f : HttpFetcher (StateM World)) (ctx : Context) : ExceptT Failure (StateM World) Unit := do
  ctx.persist f.store
  Site.onFiles f.fetcher.persist

end HttpFetcher

variable {doc : Document} {server : Server} {d : DataDirectory} {here place : List String}
  {w w' : World} {ctx ctx' : Context} {v v' : Validators}

/-! ### Between the requests -/

/-- Time passes and the files of other directories change. -/
structure Elsewhere (d : DataDirectory) (place : List String) (w w' : World) : Prop where
  stands : d.StandsAt w.tree place → d.StandsAt w'.tree place
  here : w'.tree.here = w.tree.here
  files (name : String) : w'.tree.at? (place ++ [name]) = w.tree.at? (place ++ [name])
  validators : w'.validators = w.validators
  sent : w.sent ≤ w'.sent

theorem Elsewhere.of_tree (htree : w'.tree = w.tree) (hvalidators : w'.validators = w.validators)
    (hsent : w.sent ≤ w'.sent) : Elsewhere d place w w' where
  stands h := by rwa [htree]
  here := by rw [htree]
  files name := by rw [htree]
  validators := hvalidators
  sent := hsent

theorem Elsewhere.refl (w : World) : Elsewhere d place w w :=
  .of_tree rfl rfl (Nat.le_refl _)

theorem Elsewhere.trans {w'' : World} (h : Elsewhere d place w w') (h' : Elsewhere d place w' w'') :
    Elsewhere d place w w'' where
  stands hw := h'.stands (h.stands hw)
  here := h'.here.trans h.here
  files name := (h'.files name).trans (h.files name)
  validators := h'.validators.trans h.validators
  sent := Nat.le_trans h.sent h'.sent

theorem isDirectoryAt_congr {t t' : FileTree} {file : List String} (h : t'.at? file = t.at? file) :
    t'.isDirectoryAt file = t.isDirectoryAt file := by
  apply Bool.eq_iff_iff.2
  rw [isDirectoryAt_iff, isDirectoryAt_iff, h]

theorem Coherent.elsewhere (h : Coherent doc server d here place v w) (he : Elsewhere d place w w') :
    Coherent doc server d here place v w' where
  stands := he.stands h.stands
  here := he.here.trans h.here
  free hb horigin := (isDirectoryAt_congr (he.files _)).trans (h.free hb horigin)
  distinct := h.distinct
  backed hb horigin hurl hfind := (h.backed hb horigin hurl hfind).later (he.files _) he.sent

/-- The lazy bindings of a context keep their values where those of the document do. -/
def Context.LaziesOf (doc : Document) (ctx : Context) : Prop :=
  ∀ a ∈ ctx.lazies, ∃ b ∈ doc.bindings, (∃ template, b.origin = .lazy template) ∧ a.target = b.target

/-! ### Calling a context -/

/-- What happens between making a context and keeping what was learnt: the context is called, or something
happens elsewhere. -/
inductive Goes (f : HttpFetcher (StateM World)) (place : List String) :
    Context × World → Context × World → Prop where
  | calls (s : Context × World) (calls : List Call) : Goes f place s (exec (performAll f.fetcher calls) s).2
  | elsewhere {ctx : Context} {w w' : World} (h : Elsewhere f.directory place w w') :
      Goes f place (ctx, w) (ctx, w')

theorem elsewhere_complain (request : LazyRequest) (answer : Except FetchFault ByteArray) (w : World) :
    Elsewhere d place w (after (complain request answer) w).2 := by
  unfold complain
  split
  · exact .of_tree rfl rfl (Nat.le_refl _)
  · split
    · exact .of_tree rfl rfl (Nat.le_refl _)
    · exact .refl w

/-- A request of a lazy binding keeps nothing. -/
theorem elsewhere_request (answers : Answers) (r : LazyRequest) (w : World) :
    Elsewhere d place w (request (answers.fetcher d).fetcher r w).2 := by
  rcases hfetch : after ((answers.fetcher d).fetchUncached r.url) w with ⟨answer, w₁⟩
  have hasked : Elsewhere d place w w₁ := by
    rcases (HttpFetcher.fetchUncached_cases hfetch).1 with rfl | rfl
    · exact .refl w₁
    · exact .of_tree rfl rfl (Nat.le_succ _)
  have hrequest : request (answers.fetcher d).fetcher r w = (answer, (after (complain r answer) w₁).2) := by
    change (let (answer, s) := after ((answers.fetcher d).fetchUncached r.url) w
      (answer, (after (complain r answer) s).2)) = _
    rw [hfetch]
  rw [hrequest]
  exact hasked.trans (elsewhere_complain r answer w₁)

theorem Context.LaziesOf.update (h : LaziesOf doc ctx) {a : LazyBinding}
    (ha : ∃ b ∈ doc.bindings, (∃ template, b.origin = .lazy template) ∧ a.target = b.target) :
    LaziesOf doc (ctx.update a) := by
  intro a' ha'
  obtain ⟨c, hc, rfl⟩ := List.mem_map.1 ha'
  split
  · exact ha
  · exact h c hc

theorem laziesOf_ofDocument {store : Store (StateM World)} {fetcher : Fetcher (StateM World)}
    (h : outcome (ofDocument store fetcher doc) w = (.ok ctx, w')) : LaziesOf doc ctx := by
  refine ofDocument_induction store fetcher (P := LaziesOf doc) (fun a ha => by cases ha) ?_ h
  intro ctx ctx' b s s' hb hbind hctx
  obtain ⟨-, ⟨value, rfl⟩ | ⟨template, bytes, horigin, rfl⟩⟩ := bind_cases store fetcher hbind
  · exact hctx
  · intro a ha
    rcases List.mem_append.1 ha with ha | ha
    · exact hctx a ha
    · cases List.mem_singleton.1 ha
      exact ⟨b, hb, ⟨template, horigin⟩, LazyBinding.withPersisted_target _ _⟩

/-- From one context and world to later ones, nothing has changed in the data directory, and lazy bindings
are those of the document if they were. -/
structure Follows (doc : Document) (d : DataDirectory) (place : List String) (s s' : Context × World) :
    Prop where
  elsewhere : Elsewhere d place s.2 s'.2
  lazies : LaziesOf doc s.1 → LaziesOf doc s'.1

theorem Follows.refl (s : Context × World) : Follows doc d place s s :=
  ⟨.refl s.2, id⟩

theorem Follows.trans {s s' s'' : Context × World} (h : Follows doc d place s s')
    (h' : Follows doc d place s' s'') : Follows doc d place s s'' :=
  ⟨h.elsewhere.trans h'.elsewhere, fun hctx => h'.lazies (h.lazies hctx)⟩

theorem follows_of_moves {answers : Answers} {s s' : Context × World}
    (h : Moves (answers.fetcher d).fetcher s s') : Follows doc d place s s' := by
  cases h with
  | asks h =>
      cases h with
      | @ask ctx w b scope url key hlazy _ _ _ =>
          refine ⟨elsewhere_request answers _ w, fun hctx => hctx.update ?_⟩
          rw [LazyBinding.learn_target]
          exact hctx b (mem_of_lazy? hlazy)
  | inserts h =>
      obtain ⟨-, rfl⟩ := insert_eq_ok h
      exact ⟨.refl _, id⟩

theorem follows_of_calls (answers : Answers) (calls : List Call) (s : Context × World) :
    Follows doc d place s (exec (performAll (answers.fetcher d).fetcher calls) s).2 := by
  have hmoves := performAll_moves (answers.fetcher d).fetcher calls s
  generalize (exec (performAll (answers.fetcher d).fetcher calls) s).2 = s' at hmoves ⊢
  induction hmoves with
  | refl => exact .refl s
  | tail _ hmove ih => exact ih.trans (follows_of_moves hmove)

theorem follows_of_goes (doc : Document) {answers : Answers} {s s' : Context × World}
    (h : ReflTransGen (Goes (answers.fetcher d) place) s s') : Follows doc d place s s' := by
  induction h with
  | refl => exact .refl s
  | tail _ hstep ih =>
      cases hstep with
      | calls s calls => exact ih.trans (follows_of_calls answers calls _)
      | elsewhere h => exact ih.trans ⟨h, id⟩

/-! ### Keeping what was learnt -/

theorem keepsBut_save {answers : Answers} (target : String) (bytes : ByteArray)
    (h : after ((answers.fetcher d).store.save target bytes) w = (.ok (), w')) :
    ∃ t, w' = { w with tree := t } ∧ KeepsBut [placeOf w.tree.here (d.pathOf target)] w.tree t ∧
      t.at? (placeOf w.tree.here (d.pathOf target)) = some (.file bytes) := by
  have hwritten : after ((FileTree.access (m := StateM World)).writeDeep (d.pathOf target) bytes) w
      = (.ok (), w') := h
  obtain ⟨t, hw', hkeeps, hfile⟩ := writeDeep_cases (d.pathOf target) bytes w hwritten
  exact ⟨t, hw', hkeeps, hfile rfl⟩

theorem keepsBut_persist {answers : Answers}
    (h : outcome (ctx.persist (answers.fetcher d).store) w = (.ok (), w')) :
    ∃ t, w' = { w with tree := t } ∧
      KeepsBut (ctx.lazies.map fun a => placeOf w.tree.here (d.pathOf a.target)) w.tree t := by
  unfold Context.persist at h
  generalize ctx.lazies = lazies at h ⊢
  induction lazies generalizing w with
  | nil =>
      cases h
      exact ⟨_, rfl, (Grows.refl _).keepsBut _⟩
  | cons a rest ih =>
      change outcome (_ >>= fun _ => rest.forM _) w = _ at h
      obtain ⟨⟨⟩, w₁, hsave, h⟩ := outcome_bind_eq_ok h
      obtain ⟨r, w₂, hwrite, hsave⟩ := outcome_bind_eq_ok hsave
      cases r with
      | error fault => cases hsave
      | ok saved =>
          cases hsave
          obtain ⟨t, rfl, hkeeps, -⟩ := keepsBut_save _ _ (outcome_lift_eq_ok.1 hwrite)
          obtain ⟨t', rfl, hrest⟩ := ih h
          refine ⟨t', rfl, ?_⟩
          rw [hkeeps.here] at hrest
          exact hkeeps.trans hrest

theorem after_persist (answers : Answers) (w : World) : after (answers.fetcher d).fetcher.persist w
    = after ((answers.fetcher d).store.save validatorsFile w.validators.encode) w :=
  HttpFetcher.after_persist answers d w

/-- Keeping what was learnt writes at the places of lazy bindings and in the file of validators, which then
has those of the fetcher. -/
theorem keepsBut_keep {answers : Answers} (hstands : d.StandsAt w.tree place)
    (hname : d.Accepts validatorsFile) (h : outcome ((answers.fetcher d).keep ctx) w = (.ok (), w')) :
    ∃ t, w' = { w with tree := t } ∧ KeepsBut
        ((ctx.lazies.map fun a => placeOf w.tree.here (d.pathOf a.target)) ++ [place ++ [validatorsFile]])
        w.tree t ∧
      t.at? (place ++ [validatorsFile]) = some (.file w.validators.encode) := by
  obtain ⟨⟨⟩, w₁, hpersist, h⟩ := outcome_bind_eq_ok h
  obtain ⟨t, rfl, hlazies⟩ := keepsBut_persist hpersist
  obtain ⟨r, w₂, hwrite, h⟩ := outcome_bind_eq_ok h
  cases r with
  | error fault => cases h
  | ok saved =>
      cases h
      have hsaved := outcome_lift_eq_ok.1 hwrite
      rw [after_persist] at hsaved
      obtain ⟨t', rfl, hkeeps, hfile⟩ := keepsBut_save validatorsFile _ hsaved
      have hplace : placeOf t.here (d.pathOf validatorsFile) = place ++ [validatorsFile] :=
        DataDirectory.placeOf_name (hstands.keeps hlazies) hname
      rw [hplace] at hkeeps hfile
      exact ⟨t', rfl, hlazies.trans hkeeps, hfile⟩

end StaticPage
