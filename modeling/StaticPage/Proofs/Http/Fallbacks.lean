import StaticPage.Proofs.Files.Likeness
import StaticPage.Proofs.Http.Rebindings

/-!
# What bindings fall back to

Without a network a binding is made from the file of its target, and it is `Usable` where that can be done. A
fetch replaces this file before its answer is decoded. So if all bindings are usable, making a context goes
well or stops at the first answer that is not JSON, `foldlM_cases`. Then the file with this answer is there,
the bindings are `Spoilt`, and without a network making a context stops there as well, `Spoilt.again`.
-/

namespace StaticPage

open Context FileTree

/-! ### Files that can be read -/

namespace DataDirectory

variable {d : DataDirectory} {t : FileTree} {target : String} {bytes : ByteArray}

/-- If the file of a plain name can be read, the directory is there and accepts the name. -/
theorem stands_of_read (htarget : Path.IsSegment target) (h : t.read (d.pathOf target) = .ok bytes) :
    d.Accepts target ∧ ∃ place, d.StandsAt t place := by
  obtain ⟨⟨⟩, hcheck, hfold⟩ := except_bind_eq_ok.1 (read_eq_ok_iff.1 h).1
  obtain ⟨hnul, -, hlong⟩ := Path.checkPath_eq_ok_iff.1 hcheck
  have htext : (d.pathOf target).toList = if d.root = "" ∨ d.root.toList.getLast? = some '/'
      then d.root.toList ++ target.toList else d.root.toList ++ '/' :: target.toList :=
    Path.toList_join htarget.slash
  have hnuls : '\x00' ∉ d.root.toList ∧ '\x00' ∉ target.toList := by
    rw [htext] at hnul
    split at hnul <;> simpa using hnul
  have haccepts (hshort : target.utf8ByteSize ≤ nameLimit) : d.Accepts target :=
    ⟨⟨htarget.plain, htarget.slash, hnuls.2, hshort⟩, hlong⟩
  by_cases hroot : d.root = ""
  · rw [pathOf, hroot, Path.join_empty htarget.slash, stepsOf_of_not_mem htarget.slash,
      origin, if_neg (Path.head?_ne_slash htarget.slash), List.foldlM_cons] at hfold
    obtain ⟨next, hstep, -⟩ := except_bind_eq_ok.1 hfold
    exact ⟨haccepts (isSome_of_step htarget.plain hstep).1, t.here, by rw [if_pos hroot], (step_eq_ok hstep).1⟩
  · obtain ⟨front, hsteps, hroots⟩ := exists_stepsOf_join htarget.slash hroot
    have horigin : t.origin (d.pathOf target) = t.origin d.root := by
      rw [origin, origin, pathOf, Path.head?_join htarget.slash hroot]
    rw [pathOf, hsteps, ← pathOf, horigin, List.foldlM_append] at hfold
    obtain ⟨place, hfront, hlast⟩ := except_bind_eq_ok.1 hfold
    rw [List.foldlM_cons] at hlast
    obtain ⟨next, hstep, -⟩ := except_bind_eq_ok.1 hlast
    have hdir := (step_eq_ok hstep).1
    refine ⟨haccepts (isSome_of_step htarget.plain hstep).1, place, ?_, hdir⟩
    have hrootlong : d.root.utf8ByteSize < pathLimit := by
      refine Nat.lt_of_le_of_lt ?_ hlong
      rw [pathOf, Path.join, if_neg (Path.head?_ne_slash htarget.slash)]
      split <;> simp only [String.utf8ByteSize_append] <;> omega
    rw [if_neg hroot]
    refine except_bind_eq_ok.2 ⟨(), Path.checkPath_eq_ok_iff.2 ⟨hnuls.1, hroot, hrootlong⟩, ?_⟩
    rcases hroots with hroots | hroots
    · rw [hroots]
      exact hfront
    · rw [hroots, List.foldlM_append, hfront]
      exact foldlM_replicate hdir 1

theorem placed_of_read (htarget : Path.IsSegment target) (h : t.read (d.pathOf target) = .ok bytes) :
    t.Placed (d.pathOf target) bytes := by
  obtain ⟨haccepts, place, hstands⟩ := stands_of_read htarget h
  refine ⟨(read_eq_ok_iff.1 h).2,
    ⟨place, target, resolveLast_name hstands haccepts, htarget.plain, haccepts.short⟩, fun {parent} hparent => ?_⟩
  obtain rfl : Path.respell d.root = parent := Option.some.inj ((Path.parent?_join htarget).symm.trans hparent)
  by_cases hroot : d.root = ""
  · rw [hroot]
    exact .inl rfl
  · have hfound := hstands.found
    rw [if_neg hroot] at hfound
    exact .inr (isDirectory_iff.2
      ⟨place, Path.resolve_respell hfound hstands.directory, hstands.directory⟩)

/-- A file can be loaded, or it is not there. -/
theorem load_eq_ok_iff {σ : Type} [HasTree σ] {s : σ} :
    (∃ loaded, after (d.load (FileTree.access (m := StateM σ)) target) s = (.ok loaded, s)) ↔
      ∀ fault, (tree s).read (d.pathOf target) = .error fault → fault = .notFound := by
  rw [load, after_bind, after_read]
  cases (tree s).read (d.pathOf target) with
  | ok bytes => simp
  | error fault => cases fault <;> simp

end DataDirectory

variable {answers : Answers} {d : DataDirectory} {t t' : FileTree} {target url : String} {b : Binding}
  {ctx ctx' : Context} {w w' v v' : World} {bytes old : ByteArray}

/-! ### Bindings that are usable -/

/-- What a binding is made from without a network is there: data that is JSON or, if it is lazy, a cache that
is missing or can be read. -/
inductive Binding.Usable (d : DataDirectory) (t : FileTree) (b : Binding) : Prop
  | data {bytes : ByteArray} {value : Json.Value} (hlazy : b.isLazy = false)
      (hread : t.read (d.pathOf b.target) = .ok bytes) (hparse : Json.parse bytes = .ok value)
  | cache (hlazy : b.isLazy = true) (hload : ∀ fault, t.read (d.pathOf b.target) = .error fault → fault = .notFound)

theorem Binding.Usable.of_read_eq (h : b.Usable d t)
    (hread : t'.read (d.pathOf b.target) = t.read (d.pathOf b.target)) : b.Usable d t' := by
  cases h with
  | data hlazy hold hparse => exact .data hlazy (hread.trans hold) hparse
  | cache hlazy hload => exact .cache hlazy (hread ▸ hload)

theorem addLazy_of_usable (answers : Answers) (template : String) (hlazy : b.isLazy = true) (h : b.Usable d w.tree)
    (hfree : ctx.isTaken b.name = false) :
    ∃ ctx' w', outcome (addLazy (answers.fetcher d).store ctx b template) w = (.ok ctx', w') := by
  cases h with
  | data hother hread hparse =>
      rw [hlazy] at hother
      cases hother
  | cache hlazy hload =>
      obtain ⟨loaded, hload⟩ := (DataDirectory.load_eq_ok_iff (s := w)).2 hload
      have hloaded : outcome (liftM ((answers.fetcher d).store.load b.target) : ExceptT Failure (StateM World) _) w
          = (.ok (.ok loaded), w) := outcome_lift_eq_ok.2 hload
      simp only [addLazy, hfree, Bool.false_eq_true, if_false]
      rw [outcome_bind, hloaded]
      dsimp only
      split <;> exact ⟨_, _, rfl⟩

/-- Without a network, the bytes of an eager binding are those in the file of its target. -/
theorem eagerBytes_offline (hfail : answers.Fail)
    (h : outcome (eagerBytes (answers.fetcher d).store (answers.fetcher d).fetcher b url) v = (.ok bytes, v')) :
    v'.tree = v.tree ∧ v.tree.read (d.pathOf b.target) = .ok bytes := by
  obtain ⟨cause, v₁, hfetch, htree⟩ := HttpFetcher.fetch_fails hfail d b.target url v
  obtain ⟨r, v₂, hfetched, h⟩ := outcome_bind_eq_ok h
  obtain ⟨rfl, rfl⟩ := Prod.mk.inj (hfetch.symm.trans (outcome_lift_eq_ok.1 hfetched))
  obtain ⟨loaded, v₂, hload, h⟩ := outcome_bind_eq_ok h
  obtain ⟨rfl, hread⟩ := DataDirectory.read_of_load (outcome_lift_eq_ok.1 hload)
  rcases loaded with fault | _ | stored
  · cases h
  · cases h
  · cases h
    exact ⟨htree, htree ▸ hread _ rfl⟩

theorem usable_of_bind (hfail : answers.Fail)
    (h : outcome (Context.bind (answers.fetcher d).store (answers.fetcher d).fetcher ctx b) v = (.ok ctx', v')) :
    b.Usable d v.tree ∧ v'.tree = v.tree := by
  have hfree := (bind_cases _ _ h).1
  unfold Context.bind at h
  cases horigin : b.origin with
  | eager url =>
      rw [horigin] at h
      obtain ⟨bytes, v₁, hbytes, hgive⟩ := outcome_bind_eq_ok h
      obtain ⟨htree, hread⟩ := eagerBytes_offline hfail hbytes
      obtain ⟨-, rfl, value, hparse, -⟩ := give_eq_ok_iff.1 hgive
      exact ⟨.data (by simp [Binding.isLazy, horigin]) hread hparse, htree⟩
  | lazy template =>
      rw [horigin] at h
      refine ⟨.cache (by simp [Binding.isLazy, horigin]) (DataDirectory.load_eq_ok_iff (s := v).1 ?_),
        (addLazy_still hfree h).1.tree⟩
      simp only [addLazy, hfree, Bool.false_eq_true, if_false] at h
      obtain ⟨loaded, v₁, hload, h⟩ := outcome_bind_eq_ok h
      have hloaded := outcome_lift_eq_ok.1 hload
      obtain ⟨rfl, -⟩ := DataDirectory.read_of_load hloaded
      cases loaded with
      | error fault => cases h
      | ok bytes => exact ⟨bytes, hloaded⟩
  | manual =>
      rw [horigin] at h
      obtain ⟨bytes, v₁, hbytes, hgive⟩ := outcome_bind_eq_ok h
      obtain ⟨rfl, hread⟩ := manualBytes_leaves hbytes
      obtain ⟨-, rfl, value, hparse, -⟩ := give_eq_ok_iff.1 hgive
      exact ⟨.data (by simp [Binding.isLazy, horigin]) hread hparse, rfl⟩

/-- A usable binding is made, if it is not eager or every request fails. -/
theorem bind_of_usable (hlocal : b.isEager = false ∨ answers.Fail) (h : b.Usable d v.tree)
    (hfree : ctx.isTaken b.name = false) :
    ∃ ctx' v', outcome (Context.bind (answers.fetcher d).store (answers.fetcher d).fetcher ctx b) v
      = (.ok ctx', v') ∧ v'.tree = v.tree := by
  cases horigin : b.origin with
  | eager url =>
      have hfail : answers.Fail := hlocal.resolve_left (by simp [Binding.isEager_iff.2 ⟨url, horigin⟩])
      cases h with
      | data hlazy hread hparse =>
          obtain ⟨v', hbind, htree⟩ := bind_rebinds hfail hlazy hfree hread hparse
          exact ⟨_, v', hbind, htree⟩
      | cache hlazy hload => simp [Binding.isLazy, horigin] at hlazy
  | lazy template =>
      have hlazy : b.isLazy = true := by simp [Binding.isLazy, horigin]
      obtain ⟨ctx', v', hbind⟩ := addLazy_of_usable answers template hlazy h hfree
      refine ⟨ctx', v', ?_, (addLazy_still hfree hbind).1.tree⟩
      rw [Context.bind, horigin]
      exact hbind
  | manual =>
      cases h with
      | @data bytes value hlazy hread hparse =>
          refine ⟨{ ctx with values := ctx.values ++ [(b.name, value)] }, v, ?_, rfl⟩
          rw [Context.bind, horigin]
          dsimp only
          rw [outcome_bind, manualBytes_of_read hread]
          exact give_eq_ok_iff.2 ⟨hfree, rfl, _, hparse, rfl⟩
      | cache hlazy hload => simp [Binding.isLazy, horigin] at hlazy

/-! ### Answers that replace a file -/

/-- A fetch for a target whose file can be read brings what is in the file afterwards. -/
theorem HttpFetcher.fetch_replaces (htarget : Path.IsSegment target)
    (hread : w.tree.read (d.pathOf target) = .ok old) {r : Except FetchFault ByteArray}
    (h : after ((answers.fetcher d).fetch target url) w = (r, w')) :
    AlikeBut [placeOf w.tree.here (d.pathOf target)] w.tree w'.tree ∧
      ((∃ cause, r = .error cause) ∧ w'.tree = w.tree ∨
        ∃ bytes, r = .ok bytes ∧ w'.tree.read (d.pathOf target) = .ok bytes) := by
  have hleaves := (fetch_leaves h).2
  cases exchange_of_fetch h with
  | failed hw =>
      have htree : w'.tree = w.tree := by rcases hw with rfl | rfl <;> rfl
      exact ⟨htree ▸ .refl _ _, .inl ⟨⟨_, rfl⟩, htree⟩⟩
  | @changed u answer body saved _ hurl hanswer hstatus hbody hsave =>
      have hplaced : w.tree.Placed (d.pathOf target) old := DataDirectory.placed_of_read htarget hread
      have hwritten := hplaced.after_writeDeep
        (s := w.noting url (answer.etag.bind Validators.ofHeader?)) body
      obtain ⟨rfl, rfl⟩ := Prod.mk.inj (hwritten.symm.trans hsave)
      exact ⟨alikeBut_put_file hplaced.file body, .inr ⟨body, rfl, hleaves body rfl⟩⟩
  | unchanged hurl hanswer hstatus hload => exact ⟨.refl _ _, .inr ⟨_, rfl, hleaves _ rfl⟩⟩

/-- An eager binding whose file can be read gets bytes, and they are in this file afterwards. -/
theorem eagerBytes_replaces (htarget : Path.IsSegment b.target)
    (hread : w.tree.read (d.pathOf b.target) = .ok old) {r : Except Failure ByteArray}
    (h : outcome (eagerBytes (answers.fetcher d).store (answers.fetcher d).fetcher b url) w = (r, w')) :
    AlikeBut [placeOf w.tree.here (d.pathOf b.target)] w.tree w'.tree ∧
      ∃ bytes, r = .ok bytes ∧ w'.tree.read (d.pathOf b.target) = .ok bytes := by
  rcases hfetch : after ((answers.fetcher d).fetch b.target url) w with ⟨fetched, w₁⟩
  obtain ⟨halike, hfetched⟩ := HttpFetcher.fetch_replaces htarget hread hfetch
  have hfetch' : outcome (liftM ((answers.fetcher d).fetcher.fetch b.target url) :
      ExceptT Failure (StateM World) _) w = (.ok fetched, w₁) := outcome_lift_eq_ok.2 hfetch
  unfold eagerBytes at h
  rw [outcome_bind, hfetch'] at h
  rcases hfetched with ⟨⟨cause, rfl⟩, htree⟩ | ⟨bytes, rfl, hnew⟩
  · rw [← htree] at hread
    have hload : outcome (liftM ((answers.fetcher d).store.load b.target) : ExceptT Failure (StateM World) _) w₁
        = (.ok (.ok (some old)), w₁) := outcome_lift_eq_ok.2 (DataDirectory.load_of_read (s := w₁) hread)
    dsimp only at h
    rw [outcome_bind, hload] at h
    cases h
    exact ⟨halike, old, rfl, hread⟩
  · cases h
    exact ⟨halike, bytes, rfl, hnew⟩

/-- Making a usable binding goes well and leaves it usable, or brings bytes that are not JSON and leaves them
in the file of its target. -/
theorem Binding.Usable.bind_cases (h : b.Usable d w.tree) (htarget : Path.IsSegment b.target)
    (hfree : ctx.isTaken b.name = false) {r : Except Failure Context}
    (hbind : outcome (Context.bind (answers.fetcher d).store (answers.fetcher d).fetcher ctx b) w = (r, w')) :
    AlikeBut [placeOf w.tree.here (d.pathOf b.target)] w.tree w'.tree ∧
      ((∃ ctx', r = .ok ctx') ∧ b.Usable d w'.tree ∨
        ∃ bytes cause, r = .error (.decode b.name b.target cause) ∧ b.isEager = true ∧
          w'.tree.read (d.pathOf b.target) = .ok bytes ∧ Json.parse bytes = .error cause) := by
  by_cases heager : b.isEager = true
  · obtain ⟨url, horigin⟩ := Binding.isEager_iff.1 heager
    cases h with
    | cache hlazy hload => simp [Binding.isLazy, horigin] at hlazy
    | data hlazy hread hparse =>
        rw [Context.bind, horigin] at hbind
        dsimp only at hbind
        rcases hbytes : outcome (eagerBytes (answers.fetcher d).store (answers.fetcher d).fetcher b url) w
          with ⟨got, w₁⟩
        obtain ⟨halike, bytes, rfl, hnew⟩ := eagerBytes_replaces htarget hread hbytes
        rw [outcome_bind, hbytes] at hbind
        change outcome (give ctx b bytes) w₁ = _ at hbind
        cases hvalue : Json.parse bytes with
        | ok value =>
            rw [give_eq_ok_iff.2 ⟨hfree, rfl, value, hvalue, rfl⟩] at hbind
            cases hbind
            exact ⟨halike, .inl ⟨⟨_, rfl⟩, .data hlazy hnew hvalue⟩⟩
        | error cause =>
            rw [give, outcome_bind, outcome_except, decode, hvalue] at hbind
            cases hbind
            exact ⟨halike, .inr ⟨bytes, cause, rfl, heager, hnew, hvalue⟩⟩
  · have hlocal : b.isEager = false ∨ answers.Fail := .inl (by simpa using heager)
    obtain ⟨ctx', w₁, hmade, htree⟩ := bind_of_usable hlocal h hfree
    obtain ⟨rfl, rfl⟩ := Prod.mk.inj (hmade.symm.trans hbind)
    rw [htree]
    exact ⟨.refl _ _, .inl ⟨⟨ctx', rfl⟩, h⟩⟩

/-! ### All bindings -/

theorem isTaken_bind {store : Store (StateM World)} {fetcher : Fetcher (StateM World)}
    (h : outcome (Context.bind store fetcher ctx b) w = (.ok ctx', w')) (name : String) :
    ctx'.isTaken name = (ctx.isTaken name || b.name == name) := by
  by_cases hname : name = b.name
  · subst hname
    obtain ⟨-, ⟨value, rfl⟩ | ⟨template, bytes, -, rfl⟩⟩ := bind_cases store fetcher h
    · simp [isTaken, value?, List.lookup_append]
    · simp [isTaken, lazy?, List.find?_append, LazyBinding.new]
  · rw [isTaken_of_bind h hname]
    simp [Ne.symm hname]

theorem free_of_bind {store : Store (StateM World)} {fetcher : Fetcher (StateM World)} {others : List Binding}
    (h : outcome (Context.bind store fetcher ctx b) w = (.ok ctx', w')) (hname : b.name ∉ others.map (·.name))
    (hfree : ∀ a ∈ others, ctx.isTaken a.name = false) : ∀ a ∈ others, ctx'.isTaken a.name = false := by
  intro a ha
  rw [isTaken_of_bind h fun heq => hname (List.mem_map.2 ⟨a, ha, heq⟩)]
  exact hfree a ha

/-- The names of the bindings in a context that was made are different, and they were not taken before. -/
theorem names_of_foldlM {store : Store (StateM World)} {fetcher : Fetcher (StateM World)} {bindings : List Binding}
    (h : outcome (bindings.foldlM (Context.bind store fetcher) ctx) w = (.ok ctx', w')) :
    (bindings.map (·.name)).Nodup ∧ (∀ b ∈ bindings, ctx.isTaken b.name = false) ∧
      ∀ name, ctx'.isTaken name = (ctx.isTaken name || bindings.any (·.name == name)) := by
  induction bindings generalizing ctx w with
  | nil =>
      cases h
      simp
  | cons b rest ih =>
      rw [List.foldlM_cons] at h
      obtain ⟨ctx₁, w₁, hbind, hrest⟩ := outcome_bind_eq_ok h
      obtain ⟨hnodup, hfree, htaken⟩ := ih hrest
      have hstep := isTaken_bind hbind
      refine ⟨?_, ?_, fun name => ?_⟩
      · rw [List.map_cons, List.nodup_cons]
        refine ⟨fun hmem => ?_, hnodup⟩
        obtain ⟨a, ha, hname⟩ := List.mem_map.1 hmem
        have hfree := hfree a ha
        rw [hstep, hname] at hfree
        simp at hfree
      · rw [List.forall_mem_cons]
        refine ⟨(bind_cases store fetcher hbind).1, fun a ha => ?_⟩
        have hfree := hfree a ha
        rw [hstep, Bool.or_eq_false_iff] at hfree
        exact hfree.1
      · rw [htaken, hstep, List.any_cons, Bool.or_assoc]

variable {bindings : List Binding} {failure : Failure}

/-- Without a network, bindings stop at one that is eager and has data that is not JSON. -/
inductive Spoilt (d : DataDirectory) (t : FileTree) : List Binding → Failure → Prop
  | here {b : Binding} {rest : List Binding} {bytes : ByteArray} {cause : Json.Fault} (heager : b.isEager = true)
      (hread : t.read (d.pathOf b.target) = .ok bytes) (hparse : Json.parse bytes = .error cause) :
      Spoilt d t (b :: rest) (.decode b.name b.target cause)
  | later {b : Binding} {rest : List Binding} {failure : Failure} (husable : b.Usable d t)
      (h : Spoilt d t rest failure) : Spoilt d t (b :: rest) failure

theorem Spoilt.exists_binding (h : Spoilt d t bindings failure) : ∃ b ∈ bindings, ∃ bytes cause,
    b.isEager = true ∧ t.read (d.pathOf b.target) = .ok bytes ∧ Json.parse bytes = .error cause ∧
      failure = .decode b.name b.target cause := by
  induction h with
  | here heager hread hparse => exact ⟨_, List.mem_cons_self, _, _, heager, hread, hparse, rfl⟩
  | later husable hlater ih =>
      obtain ⟨b, hb, hspoilt⟩ := ih
      exact ⟨b, List.mem_cons_of_mem _ hb, hspoilt⟩

theorem usable_of_foldlM (hfail : answers.Fail)
    (h : outcome (bindings.foldlM (Context.bind (answers.fetcher d).store (answers.fetcher d).fetcher) ctx) v
      = (.ok ctx', v')) :
    (∀ b ∈ bindings, b.Usable d v.tree) ∧ v'.tree = v.tree := by
  induction bindings generalizing ctx v with
  | nil =>
      cases h
      simp
  | cons b rest ih =>
      rw [List.foldlM_cons] at h
      obtain ⟨ctx₁, v₁, hbind, hrest⟩ := outcome_bind_eq_ok h
      obtain ⟨husable, htree⟩ := usable_of_bind hfail hbind
      obtain ⟨hothers, htree'⟩ := ih hrest
      rw [htree] at hothers htree'
      exact ⟨List.forall_mem_cons.2 ⟨husable, hothers⟩, htree'⟩

/-- Making usable bindings goes well or leaves them spoilt. -/
theorem foldlM_cases (husable : ∀ b ∈ bindings, b.Usable d w.tree)
    (htargets : ∀ b ∈ bindings, Path.IsSegment b.target)
    (hplaces : (bindings.map fun b => placeOf w.tree.here (d.pathOf b.target)).Nodup)
    (hnames : (bindings.map (·.name)).Nodup) (hfree : ∀ b ∈ bindings, ctx.isTaken b.name = false)
    {r : Except Failure Context}
    (h : outcome (bindings.foldlM (Context.bind (answers.fetcher d).store (answers.fetcher d).fetcher) ctx) w
      = (r, w')) :
    AlikeBut (bindings.map fun b => placeOf w.tree.here (d.pathOf b.target)) w.tree w'.tree ∧
      ((∃ ctx', r = .ok ctx') ∨ ∃ failure, r = .error failure ∧ Spoilt d w'.tree bindings failure) := by
  induction bindings generalizing ctx w with
  | nil =>
      cases h
      exact ⟨.refl _ _, .inl ⟨_, rfl⟩⟩
  | cons b rest ih =>
      rw [List.forall_mem_cons] at husable htargets hfree
      rw [List.map_cons, List.nodup_cons] at hplaces hnames
      rw [List.foldlM_cons, outcome_bind] at h
      rcases hbind : outcome (Context.bind (answers.fetcher d).store (answers.fetcher d).fetcher ctx b) w
        with ⟨bound, w₁⟩
      obtain ⟨halike, ⟨⟨ctx₁, rfl⟩, hleft⟩ | ⟨bytes, cause, rfl, heager, hread, hparse⟩⟩ :=
        husable.1.bind_cases htargets.1 hfree.1 hbind
      · rw [hbind] at h
        dsimp only at h
        have hhere := halike.here
        -- The file of `b` is none of those that the others change.
        have hothers : ∀ a ∈ rest, a.Usable d w₁.tree := by
          intro a ha
          refine (husable.2 a ha).of_read_eq (halike.read fun hmem => hplaces.1 ?_)
          rw [← List.mem_singleton.1 hmem]
          exact List.mem_map_of_mem ha
        have hrest := ih hothers htargets.2 (hhere ▸ hplaces.2) hnames.2
          (free_of_bind hbind hnames.1 hfree.2) h
        rw [hhere] at hrest
        refine ⟨(halike.mono (by simp)).trans (hrest.1.mono (by simp)), hrest.2.imp_right ?_⟩
        intro hspoilt
        obtain ⟨failure, hr, hspoilt⟩ := hspoilt
        refine ⟨failure, hr, .later (hleft.of_read_eq (hrest.1.read ?_)) hspoilt⟩
        rw [hhere]
        exact hplaces.1
      · rw [hbind] at h
        cases h
        exact ⟨halike.mono (by simp), .inr ⟨_, rfl, .here heager hread hparse⟩⟩

/-- Without a network, spoilt bindings fail as they did when they were spoilt. -/
theorem Spoilt.again (hfail : answers.Fail) (h : Spoilt d v.tree bindings failure)
    (hnames : (bindings.map (·.name)).Nodup) (hfree : ∀ b ∈ bindings, ctx.isTaken b.name = false) :
    ∃ v', outcome (bindings.foldlM (Context.bind (answers.fetcher d).store (answers.fetcher d).fetcher) ctx) v
      = (.error failure, v') ∧ v'.tree = v.tree := by
  generalize htree : v.tree = t at h
  induction h generalizing ctx v with
  | @here b rest bytes cause heager hread hparse =>
      obtain ⟨url, horigin⟩ := Binding.isEager_iff.1 heager
      obtain ⟨v', hbytes, htree'⟩ := eagerBytes_fallsBack hfail url (htree ▸ hread)
      refine ⟨v', ?_, htree'.trans htree⟩
      have hbind : outcome (Context.bind (answers.fetcher d).store (answers.fetcher d).fetcher ctx b) v
          = (.error (.decode b.name b.target cause), v') := by
        rw [Context.bind, horigin]
        dsimp only
        rw [outcome_bind, hbytes]
        dsimp only
        rw [outcome_bind, outcome_except, decode, hparse]
        rfl
      rw [List.foldlM_cons, outcome_bind, hbind]
  | @later b rest failure husable hlater ih =>
      rw [List.map_cons, List.nodup_cons] at hnames
      rw [List.forall_mem_cons] at hfree
      obtain ⟨ctx₁, v₁, hbind, htree₁⟩ := bind_of_usable (.inr hfail) (htree ▸ husable) hfree.1
      obtain ⟨v', hrest, htree'⟩ :=
        ih hnames.2 (free_of_bind hbind hnames.1 hfree.2) (htree₁.trans htree)
      refine ⟨v', ?_, htree'⟩
      rw [List.foldlM_cons, outcome_bind, hbind]
      exact hrest

end StaticPage
