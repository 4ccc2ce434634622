import StaticPage.Proofs.Evaluation.PathHeads
import StaticPage.Proofs.Evaluation.Transparency
import StaticPage.Proofs.Html.Markup

/-!
# Evaluations that show the same

Two computations are alike from a world if they leave the same world and their results show the same text. Loops
are alike if they run over the same things and their iterations are alike, each in the world in which it
begins: `alike_loop`. What a path leads to depends on its head and on the heads of placeholders alone, so
that scopes which agree on these are as good as one another, and a body does not see a variable that it
does not mention: `alike_of_unmentioned`.
-/

namespace StaticPage

variable {σ α β : Type}

theorem Template.expand_congr {t : Template} {resolve resolve' : Placeholder → Option String}
    (h : ∀ p ∈ t.placeholders, resolve p = resolve' p) : t.expand resolve = t.expand resolve' := by
  have hparts : expandParts resolve t.parts = expandParts resolve' t.parts := expandParts_congr h
  have hfirst : t.placeholders.head?.bind resolve = t.placeholders.head?.bind resolve' := by
    cases hlist : t.placeholders with
    | nil => rfl
    | cons p rest => exact h p (by simp [hlist])
  rw [expand, expand, hparts, hfirst]

namespace Context

/-! ### Likeness -/

/-- From a world, two computations leave the same world, and their results show the same text. -/
def Alike (text : α → List Char) (x y : StateT Context (StateM σ) α) (w : Context × σ) : Prop :=
  (exec y w).2 = (exec x w).2 ∧ text (exec y w).1 = text (exec x w).1

theorem alike_refl (text : α → List Char) (x : StateT Context (StateM σ) α) (w : Context × σ) :
    Alike text x x w :=
  ⟨rfl, rfl⟩

theorem Alike.cons {text : α → List Char} {texts : List α → List Char} {x x' : StateT Context (StateM σ) α}
    {y y' : StateT Context (StateM σ) (List α)} {w : Context × σ} (hx : Alike text x x' w)
    (hy : Alike texts y y' (exec x w).2) (htexts : ∀ {a a' as as'}, text a' = text a → texts as' = texts as →
      texts (a' :: as') = texts (a :: as)) :
    Alike texts (do return (← x) :: (← y)) (do return (← x') :: (← y')) w := by
  obtain ⟨hworld, htext⟩ := hx
  obtain ⟨hworlds, hrest⟩ := hy
  unfold Alike
  rw [exec_bind, exec_bind, exec_pure, exec_bind, exec_bind, exec_pure, hworld]
  exact ⟨hworlds, htexts htext hrest⟩

theorem alike_mapM {f : α → StateT Context (StateM σ) (List Block)}
    {f' : β → StateT Context (StateM σ) (List Block)} (g : α → β) {as : List α} {w : Context × σ}
    (h : ∀ before a after, as = before ++ a :: after →
      Alike Html.blocksText (f a) (f' (g a)) (exec (before.mapM f) w).2) :
    Alike Html.iterationsText (as.mapM f) ((as.map g).mapM f') w := by
  induction as generalizing w with
  | nil => exact ⟨rfl, rfl⟩
  | cons a as ih =>
      have hrest : Alike Html.iterationsText (as.mapM f) ((as.map g).mapM f') (exec (f a) w).2 := by
        refine ih fun before b after hsplit => ?_
        have hlater := h (a :: before) b after (by rw [hsplit, List.cons_append])
        rwa [List.mapM_cons, exec_bind, exec_bind, exec_pure] at hlater
      rw [List.map_cons, List.mapM_cons, List.mapM_cons]
      refine Alike.cons (h [] a as rfl) hrest fun hbody hothers => ?_
      rw [Html.iterationsText_cons, Html.iterationsText_cons, hbody, hothers]

variable [MonadWarn (StateM σ)] {fetcher : Fetcher (StateM σ)} {transform : String → String}
  {scope scope' : Scope} {header header' : LoopHeader} {n n' : Node} {body body' rest rest' : List Node}
  {w start : Context × σ} {frame : Frame}

/-- A loop has an iteration with a frame, which begins in a world. -/
def Iterates (fetcher : Fetcher (StateM σ)) (transform : String → String) (scope : Scope) (header : LoopHeader)
    (body : List Node) (w : Context × σ) (frame : Frame) (start : Context × σ) : Prop :=
  ∃ before after, frames header (exec (resolve fetcher scope header.source) w).1 = before ++ frame :: after ∧
    start = (exec (before.mapM fun frame => evalNodes fetcher transform (scope.child frame) body)
      (exec (resolve fetcher scope header.source) w).2).2

theorem Iterates.requests (h : Iterates fetcher transform scope header body w frame start) :
    Relation.ReflTransGen (Asks fetcher) w start := by
  obtain ⟨before, after, -, rfl⟩ := h
  exact (byRequests_resolve scope header.source w).trans
    (ByRequests.mapM (fun frame => byRequests_evalNodes (scope.child frame) body) before _)

theorem Iterates.mem_frames (h : Iterates fetcher transform scope header body w frame start) :
    frame ∈ frames header (exec (resolve fetcher scope header.source) w).1 := by
  obtain ⟨before, after, hsplit, -⟩ := h
  rw [hsplit]
  exact List.mem_append_right _ List.mem_cons_self

theorem alike_loop (g : Frame → Frame)
    (hsource : exec (resolve fetcher scope' header'.source) w = exec (resolve fetcher scope header.source) w)
    (hframes : ∀ found, frames header' found = (frames header found).map g)
    (hbody : ∀ frame start, Iterates fetcher transform scope header body w frame start →
      Alike Html.blocksText (evalNodes fetcher transform (scope.child frame) body)
        (evalNodes fetcher transform (scope'.child (g frame)) body') start) :
    Alike Html.blockText (evalNode fetcher transform scope (.loop header body))
      (evalNode fetcher transform scope' (.loop header' body')) w := by
  let found := exec (resolve fetcher scope header.source) w
  have hiterations : Alike Html.iterationsText
      ((frames header found.1).mapM fun frame => evalNodes fetcher transform (scope.child frame) body)
      (((frames header found.1).map g).mapM fun frame => evalNodes fetcher transform (scope'.child frame) body')
      found.2 :=
    alike_mapM g fun before frame after hsplit => hbody frame _ ⟨before, after, hsplit, rfl⟩
  obtain ⟨hworld, htext⟩ := hiterations
  rw [evalNode, evalNode, Alike, exec_bind, exec_bind, exec_pure, exec_bind, exec_bind, exec_pure, hsource,
    hframes]
  refine ⟨hworld, ?_⟩
  rw [Html.blockText_loop, Html.blockText_loop, htext]

theorem alike_cons
    (hfirst : Alike Html.blockText (evalNode fetcher transform scope n) (evalNode fetcher transform scope' n') w)
    (hrest : Alike Html.blocksText (evalNodes fetcher transform scope rest)
      (evalNodes fetcher transform scope' rest') (exec (evalNode fetcher transform scope n) w).2) :
    Alike Html.blocksText (evalNodes fetcher transform scope (n :: rest))
      (evalNodes fetcher transform scope' (n' :: rest')) w := by
  rw [evalNodes, evalNodes]
  refine hfirst.cons hrest fun htext htexts => ?_
  rw [Html.blocksText, Html.blocksText, htext, htexts]

theorem alike_field {path path' : String}
    (h : exec (resolve fetcher scope' path') w = exec (resolve fetcher scope path) w) :
    Alike Html.blockText (evalNode fetcher transform scope (.field path))
      (evalNode fetcher transform scope' (.field path')) w := by
  rw [evalNode, evalNode, Alike, exec_bind, exec_pure, exec_bind, exec_pure, h]
  exact ⟨rfl, rfl⟩

/-! ### Scopes that agree -/

/-- Scopes that have the same values for all names but some. -/
def AgreeOff (names : List String) (scope scope' : Scope) : Prop :=
  ∀ name ∉ names, scope'.get? name = scope.get? name

/-- No placeholder of a lazy binding asks for one of some names. -/
def Avoids (names : List String) (ctx : Context) : Prop :=
  ∀ b ∈ ctx.lazies, ∀ p ∈ b.template.placeholders, p.head ∉ names

variable {names : List String}

theorem AgreeOff.child (h : AgreeOff names scope scope') (frame : Frame) :
    AgreeOff names (scope.child frame) (scope'.child frame) := by
  intro name hname
  rw [Scope.get?_child, Scope.get?_child, h name hname]

/-- A name that a loop binds is out of the way. -/
theorem AgreeOff.bound {x : String} {value : Json.Value} (h : AgreeOff (x :: names) scope scope')
    (hframe : frame.get? x = some value) : AgreeOff names (scope.child frame) (scope'.child frame) := by
  intro name hname
  by_cases hx : name = x
  · rw [Scope.get?_child, Scope.get?_child, hx, hframe, Option.some_or, Option.some_or]
  · exact h.child frame name (by simpa [hx] using hname)

theorem Avoids.mono {ctx : Context} {others : List String} (h : ctx.Avoids names) (hsub : others ⊆ names) :
    ctx.Avoids others :=
  fun b hb p hp hmem => h b hb p hp (hsub hmem)

theorem Avoids.requests {w w' : Context × σ} (h : w.1.Avoids names)
    (hasks : Relation.ReflTransGen (Asks fetcher) w w') : w'.1.Avoids names := by
  induction hasks with
  | refl => exact h
  | tail _ hstep ih =>
      cases hstep with
      | @ask ctx s b scope url key hlazy hexpand hcache htried =>
          intro a ha
          obtain ⟨before, hbefore, rfl⟩ := List.mem_map.1 ha
          split
          · rw [LazyBinding.learn_template]
            exact ih b (mem_of_lazy? hlazy)
          · exact ih before hbefore

/-- A path whose head is none of the names leads to the same in scopes that agree on the others. -/
theorem resolve_congr (hagree : AgreeOff names scope scope') (havoids : w.1.Avoids names) {path : String}
    (hhead : (splitPath path).1 ∉ names) :
    exec (resolve fetcher scope' path) w = exec (resolve fetcher scope path) w := by
  have hknown {name : String} (hname : name ∉ names) : w.1.known? scope' name = w.1.known? scope name := by
    rw [known?, known?, hagree name hname]
  simp only [resolve, exec_bind, exec_get, hknown hhead]
  cases w.1.known? scope (splitPath path).1 with
  | some value => rfl
  | none =>
      cases hlazy : w.1.lazy? (splitPath path).1 with
      | none => rfl
      | some b =>
          have hexpand : b.template.expand (w.1.placeholderText? scope')
              = b.template.expand (w.1.placeholderText? scope) := by
            apply Template.expand_congr
            intro p hp
            rw [placeholderText?, placeholderText?, hknown (havoids b (mem_of_lazy? hlazy) p hp)]
          simp only [exec_bind, exec_pure, exec_lazyValue, hexpand]

end Context

/-! ### Names that are not mentioned -/

mutual

/-- A name is the head of a path in a part of a body, or a variable of a loop. -/
def Node.Mentions (x : String) : Node → Prop
  | .prose _ _ => False
  | .field path => (Context.splitPath path).1 = x
  | .loop header body =>
    (Context.splitPath header.source).1 = x ∨ x ∈ header.vars ∨ Node.MentionsAny x body

def Node.MentionsAny (x : String) : List Node → Prop
  | [] => False
  | n :: rest => Node.Mentions x n ∨ Node.MentionsAny x rest

end

mutual

instance Node.decidableMentions (x : String) : (n : Node) → Decidable (n.Mentions x)
  | .prose _ _ => inferInstanceAs (Decidable False)
  | .field path => inferInstanceAs (Decidable ((Context.splitPath path).1 = x))
  | .loop header body =>
    have := Node.decidableMentionsAny x body
    inferInstanceAs (Decidable ((Context.splitPath header.source).1 = x ∨ x ∈ header.vars ∨
      Node.MentionsAny x body))

instance Node.decidableMentionsAny (x : String) : (nodes : List Node) → Decidable (Node.MentionsAny x nodes)
  | [] => inferInstanceAs (Decidable False)
  | n :: rest =>
    have := Node.decidableMentions x n
    have := Node.decidableMentionsAny x rest
    inferInstanceAs (Decidable (Node.Mentions x n ∨ Node.MentionsAny x rest))

end

namespace Context

variable [MonadWarn (StateM σ)] {fetcher : Fetcher (StateM σ)} {transform : String → String}

mutual

theorem alike_node_of_unmentioned {x : String} {scope scope' : Scope} (hagree : AgreeOff [x] scope scope')
    {w : Context × σ} (havoids : w.1.Avoids [x]) : (n : Node) → ¬ Node.Mentions x n →
      Alike Html.blockText (evalNode fetcher transform scope n) (evalNode fetcher transform scope' n) w
  | .prose id text, _ => by
      rw [evalNode, evalNode]
      exact alike_refl _ _ w
  | .field path, hx => by
      rw [Node.Mentions] at hx
      exact alike_field (resolve_congr hagree havoids (by simpa using hx))
  | .loop header body, hx => by
      rw [Node.Mentions, not_or, not_or] at hx
      obtain ⟨hsource, -, hbody⟩ := hx
      refine alike_loop id (resolve_congr hagree havoids (by simpa using hsource)) (by simp) ?_
      intro frame start hstart
      exact alike_of_unmentioned (hagree.child frame) (havoids.requests hstart.requests) body hbody

/-- A body does not see a variable that it does not mention. -/
theorem alike_of_unmentioned {x : String} {scope scope' : Scope} (hagree : AgreeOff [x] scope scope')
    {w : Context × σ} (havoids : w.1.Avoids [x]) : (nodes : List Node) → ¬ Node.MentionsAny x nodes →
      Alike Html.blocksText (evalNodes fetcher transform scope nodes) (evalNodes fetcher transform scope' nodes) w
  | [], _ => by
      rw [evalNodes, evalNodes]
      exact alike_refl _ _ w
  | n :: rest, hx => by
      rw [Node.MentionsAny, not_or] at hx
      refine alike_cons (alike_node_of_unmentioned hagree havoids n hx.1) ?_
      exact alike_of_unmentioned hagree (havoids.requests (byRequests_evalNode scope n w)) rest hx.2

end

end Context

end StaticPage
