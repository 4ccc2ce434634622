import StaticPage.Document.Parser
import StaticPage.Proofs.Evaluation.Likeness
import StaticPage.Proofs.Evaluation.LoopPaths

/-!
# Renaming loop variables

A loop that has a variable need not bind it: over a list it binds its first variable only. Where it does not,
the name means what it means around the loop, and so does the new name, which may be something else. Loops
that bind their variables wherever their bodies use them may be renamed: `loop_variable_renamed`.

The two bodies are evaluated in scopes that differ in the old name and the new one. Every path leads to the same
in both, since its head is either renamed, and bound to one value under both names, or none of the two. The
loop may be anywhere in a document. `Spot` says where, and a document shows the same with another loop in
the spot if the two loops are alike whenever evaluation comes to them.
-/

namespace StaticPage

variable {σ : Type}

/-! ### Renaming -/

def renameHead (v w path : String) : String :=
  if (Context.splitPath path).1 = v then Json.Path.extend w (Context.splitPath path).2 else path

mutual

/-- A part of a body with another name for a variable. The bodies of loops that have the variable themselves
stay as they are. -/
def Node.rename (v w : String) : Node → Node
  | .prose id text => .prose id text
  | .field path => .field (renameHead v w path)
  | .loop header body =>
    .loop { header with source := renameHead v w header.source }
      (if v ∈ header.vars then body else Node.renameAll v w body)

def Node.renameAll (v w : String) : List Node → List Node
  | [] => []
  | n :: rest => n.rename v w :: Node.renameAll v w rest

end

def LoopHeader.rename (v w : String) (header : LoopHeader) : LoopHeader :=
  { header with vars := header.vars.map fun x => if x = v then w else x }

def Frame.rename (v w : String) (frame : Frame) : Frame :=
  frame.map fun entry => (if entry.1 = v then w else entry.1, entry.2)

mutual

/-- A path in a part of a body has a name for its head, outside of loops that have a variable of that name. -/
def Node.Uses (v : String) : Node → Prop
  | .prose _ _ => False
  | .field path => (Context.splitPath path).1 = v
  | .loop header body => (Context.splitPath header.source).1 = v ∨ v ∉ header.vars ∧ Node.UsesAny v body

def Node.UsesAny (v : String) : List Node → Prop
  | [] => False
  | n :: rest => Node.Uses v n ∨ Node.UsesAny v rest

end

theorem renameHead_of_ne {v w path : String} (h : (Context.splitPath path).1 ≠ v) :
    renameHead v w path = path :=
  if_neg h

mutual

theorem Node.rename_of_not_uses {v w : String} : (n : Node) → ¬ n.Uses v → n.rename v w = n
  | .prose id text, _ => by rw [rename]
  | .field path, h => by
      rw [Uses] at h
      rw [rename, renameHead_of_ne h]
  | .loop header body, h => by
      rw [Uses, not_or, not_and] at h
      rw [rename, renameHead_of_ne h.1]
      split
      · rfl
      · rename_i hvars
        rw [Node.renameAll_of_not_uses body (h.2 hvars)]

theorem Node.renameAll_of_not_uses {v w : String} : (nodes : List Node) → ¬ UsesAny v nodes →
    renameAll v w nodes = nodes
  | [], _ => by rw [renameAll]
  | n :: rest, h => by
      rw [UsesAny, not_or] at h
      rw [renameAll, Node.rename_of_not_uses n h.1, Node.renameAll_of_not_uses rest h.2]

end

/-! ### Frames -/

theorem Frame.lookup_rename {v w : String} {entries : Frame} (hw : ∀ entry ∈ entries, entry.1 ≠ w) :
    (entries.rename v w).lookup w = entries.lookup v ∧
      ∀ name ∉ [v, w], (entries.rename v w).lookup name = entries.lookup name := by
  have hskip {name key : String} (value : Json.Value) (rest : Frame) (h : name ≠ key) :
      List.lookup name ((key, value) :: rest) = List.lookup name rest := by
    rw [List.lookup_cons, beq_false_of_ne h]
  induction entries with
  | nil => exact ⟨rfl, fun _ _ => rfl⟩
  | cons entry rest ih =>
      obtain ⟨key, value⟩ := entry
      obtain ⟨hkey, hrest⟩ := List.forall_mem_cons.1 hw
      obtain ⟨hnew, hothers⟩ := ih hrest
      have hcons : Frame.rename v w ((key, value) :: rest)
          = (if key = v then w else key, value) :: Frame.rename v w rest := rfl
      rw [hcons]
      by_cases hv : key = v
      · subst hv
        rw [if_pos rfl]
        refine ⟨by rw [List.lookup_cons_self, List.lookup_cons_self], fun name hname => ?_⟩
        simp only [List.mem_cons, List.not_mem_nil, or_false, not_or] at hname
        rw [hskip _ _ hname.2, hskip _ _ hname.1, hothers name (by simp [hname])]
      · rw [if_neg hv]
        refine ⟨by rw [hskip _ _ hkey.symm, hskip _ _ (Ne.symm hv), hnew], fun name hname => ?_⟩
        rw [List.lookup_cons, List.lookup_cons, hothers name hname]

theorem Frame.get?_rename {v w : String} {frame : Frame} (hw : ∀ entry ∈ frame, entry.1 ≠ w) :
    (frame.rename v w).get? w = frame.get? v ∧
      ∀ name ∉ [v, w], (frame.rename v w).get? name = frame.get? name := by
  have hreverse : (frame.rename v w).reverse = Frame.rename v w frame.reverse := List.map_reverse.symm
  unfold Frame.get?
  rw [hreverse]
  exact lookup_rename fun entry hentry => hw entry (List.mem_reverse.1 hentry)

namespace Context

theorem frames_rename (v w : String) (header : LoopHeader) (found : Option Json.Value) :
    frames (header.rename v w) found = (frames header found).map (Frame.rename v w) := by
  have hitem (item : Json.Value) :
      itemFrame (header.rename v w).vars item = Frame.rename v w (itemFrame header.vars item) := by
    unfold LoopHeader.rename
    cases header.vars with
    | nil => rfl
    | cons x rest => rfl
  have hentry (entry : String × Json.Value) :
      entryFrame (header.rename v w).vars entry = Frame.rename v w (entryFrame header.vars entry) := by
    unfold LoopHeader.rename
    rcases header.vars with _ | ⟨x, _ | ⟨y, _ | ⟨z, rest⟩⟩⟩ <;> rfl
  unfold frames
  split
  · rw [List.map_map]
    exact List.map_congr_left fun item _ => hitem item
  · rw [List.map_map]
    exact List.map_congr_left fun entry _ => hentry entry
  · rfl

/-- Of its variables a loop binds the first one, and over an object both. -/
theorem isSome_get?_iff {header : LoopHeader} {v : String} (hvar : v ∈ header.vars) (hvars : header.vars.length ≤ 2)
    {found : Option Json.Value} {frame : Frame} (hframe : frame ∈ frames header found) :
    (frame.get? v).isSome ↔ header.vars.head? = some v ∨ ∃ entries, found = some (.object entries) := by
  unfold frames at hframe
  split at hframe
  · rename_i items
    obtain ⟨item, -, rfl⟩ := List.mem_map.1 hframe
    rcases hlist : header.vars with _ | ⟨x, rest⟩
    · rw [hlist] at hvar
      cases hvar
    · by_cases hx : x = v
      · simp [itemFrame, Frame.get?, hx]
      · have hv : (v == x) = false := beq_false_of_ne (Ne.symm hx)
        simp [itemFrame, Frame.get?, List.lookup_cons, hx, hv]
  · rename_i entries
    obtain ⟨entry, -, rfl⟩ := List.mem_map.1 hframe
    rcases hlist : header.vars with _ | ⟨x, _ | ⟨y, rest⟩⟩
    · rw [hlist] at hvar
      cases hvar
    · obtain rfl : v = x := by simpa [hlist] using hvar
      simp [entryFrame, Frame.get?]
    · obtain rfl : rest = [] := by simpa [hlist] using hvars
      have hxy : v = x ∨ v = y := by simpa [hlist] using hvar
      by_cases hy : v = y
      · simp [entryFrame, Frame.get?, hy]
      · obtain rfl : v = x := hxy.resolve_right hy
        have hne : (v == y) = false := beq_false_of_ne hy
        simp [entryFrame, Frame.get?, List.lookup_cons, hne]
  · cases hframe

/-! ### Loops that bind their variables -/

end Context

mutual

/-- In a part of a body, loops that have a variable bind it, or do not use it. -/
def Node.Binds [MonadWarn (StateM σ)] (fetcher : Fetcher (StateM σ)) (transform : String → String) (v : String)
    (scope : Scope) : Node → Context × σ → Prop
  | .prose _ _, _ => True
  | .field _, _ => True
  | .loop header body, w =>
    ∀ frame start, Context.Iterates fetcher transform scope header body w frame start → frame.get? v = none →
      (v ∈ header.vars → ¬ Node.UsesAny v body) ∧
        Node.BindsAll fetcher transform v (scope.child frame) body start

/-- In a body, loops that have a variable bind it, or do not use it. -/
def Node.BindsAll [MonadWarn (StateM σ)] (fetcher : Fetcher (StateM σ)) (transform : String → String) (v : String)
    (scope : Scope) : List Node → Context × σ → Prop
  | [], _ => True
  | n :: rest, w => Node.Binds fetcher transform v scope n w ∧
      Node.BindsAll fetcher transform v scope rest
        (Context.exec (Context.evalNode fetcher transform scope n) w).2

end

namespace Context

variable [MonadWarn (StateM σ)] {fetcher : Fetcher (StateM σ)} {transform : String → String}

/-- A loop binds a variable of its own in each iteration, if its body uses it. So do the loops in its body, unless
a loop around them has bound the variable again. -/
def BindsOwn (fetcher : Fetcher (StateM σ)) (transform : String → String) (v : String) (scope : Scope)
    (header : LoopHeader) (body : List Node) (w : Context × σ) : Prop :=
  ∀ frame start, Iterates fetcher transform scope header body w frame start →
    (Node.UsesAny v body → (frame.get? v).isSome) ∧
      Node.BindsAll fetcher transform v (scope.child frame) body start

/-! ### Renamed bodies -/

/-- A path with another name for its head leads to the same if the names have the same value. -/
theorem resolve_rename {v w : String} (hv : '.' ∉ v.toList) (hw : '.' ∉ w.toList) {scope scope' : Scope}
    (hagree : AgreeOff [v, w] scope scope') {x : Context × σ} (havoids : x.1.Avoids [v, w]) {path : String}
    (hfree : (splitPath path).1 ≠ w)
    (hvalue : (splitPath path).1 = v → ∃ value, scope.get? v = some value ∧ scope'.get? w = some value) :
    exec (resolve fetcher scope' (renameHead v w path)) x = exec (resolve fetcher scope path) x := by
  by_cases hhead : (splitPath path).1 = v
  · obtain ⟨value, hold, hnew⟩ := hvalue hhead
    obtain ⟨hpath, -⟩ := extend_splitPath path
    rw [hhead] at hpath
    rw [renameHead, if_pos hhead, exec_resolve_variable fetcher hw hnew]
    rw [← hpath, exec_resolve_variable fetcher hv hold, splitPath_extend hv]
  · rw [renameHead_of_ne hhead]
    exact resolve_congr hagree havoids (by simp [hhead, hfree])

mutual

theorem alike_rename_node {v w : String} (hdot : '.' ∉ v.toList) (hdot' : '.' ∉ w.toList) {scope scope' : Scope}
    (hagree : AgreeOff [v, w] scope scope') {x : Context × σ} (havoids : x.1.Avoids [v, w]) :
    (n : Node) → ¬ n.Mentions w →
      (n.Uses v → ∃ value, scope.get? v = some value ∧ scope'.get? w = some value) →
      n.Binds fetcher transform v scope x →
        Alike Html.blockText (evalNode fetcher transform scope n)
          (evalNode fetcher transform scope' (n.rename v w)) x
  | .prose id text, _, _, _ => by
      rw [Node.rename, evalNode, evalNode]
      exact alike_refl _ _ x
  | .field path, hfree, hvalue, _ => by
      rw [Node.Mentions] at hfree
      rw [Node.Uses] at hvalue
      rw [Node.rename]
      exact alike_field (resolve_rename hdot hdot' hagree havoids hfree hvalue)
  | .loop header body, hfree, hvalue, hbinds => by
      rw [Node.Mentions, not_or, not_or] at hfree
      obtain ⟨hsource, hvars, hbody⟩ := hfree
      rw [Node.Uses] at hvalue
      rw [Node.Binds] at hbinds
      rw [Node.rename]
      refine alike_loop id (resolve_rename hdot hdot' hagree havoids hsource fun h => hvalue (.inl h))
        (fun found => (List.map_id _).symm) ?_
      intro frame start hstart
      have hlater := havoids.requests hstart.requests
      by_cases hown : v ∈ header.vars
      · rw [if_pos hown]
        cases hframe : frame.get? v with
        | some value =>
            -- the loop binds the variable again
            have hothers := hlater.mono (List.subset_cons_self v [w])
            exact alike_of_unmentioned (hagree.bound hframe) hothers body hbody
        | none =>
            obtain ⟨hunused, hinner⟩ := hbinds frame start hstart hframe
            have halike := alike_rename_nodes hdot hdot' (hagree.child frame) hlater body hbody
              (fun huses => absurd huses (hunused hown)) hinner
            rwa [Node.renameAll_of_not_uses body (hunused hown)] at halike
      · rw [if_neg hown]
        have hv := get?_eq_none_of_mem_frames hstart.mem_frames hown
        have hw := get?_eq_none_of_mem_frames hstart.mem_frames hvars
        obtain ⟨-, hinner⟩ := hbinds frame start hstart hv
        refine alike_rename_nodes hdot hdot' (hagree.child frame) hlater body hbody (fun huses => ?_) hinner
        rw [Scope.get?_child, Scope.get?_child, hv, hw]
        exact hvalue (.inr ⟨hown, huses⟩)

/-- A body and the renamed one are alike where the old and the new name have one value. -/
theorem alike_rename_nodes {v w : String} (hdot : '.' ∉ v.toList) (hdot' : '.' ∉ w.toList) {scope scope' : Scope}
    (hagree : AgreeOff [v, w] scope scope') {x : Context × σ} (havoids : x.1.Avoids [v, w]) :
    (nodes : List Node) → ¬ Node.MentionsAny w nodes →
      (Node.UsesAny v nodes → ∃ value, scope.get? v = some value ∧ scope'.get? w = some value) →
      Node.BindsAll fetcher transform v scope nodes x →
        Alike Html.blocksText (evalNodes fetcher transform scope nodes)
          (evalNodes fetcher transform scope' (Node.renameAll v w nodes)) x
  | [], _, _, _ => by
      rw [Node.renameAll, evalNodes, evalNodes]
      exact alike_refl _ _ x
  | n :: rest, hfree, hvalue, hbinds => by
      rw [Node.MentionsAny, not_or] at hfree
      rw [Node.UsesAny] at hvalue
      rw [Node.BindsAll] at hbinds
      rw [Node.renameAll]
      have hfirst := alike_rename_node hdot hdot' hagree havoids n hfree.1 (fun h => hvalue (.inl h)) hbinds.1
      refine alike_cons hfirst ?_
      exact alike_rename_nodes hdot hdot' hagree (havoids.requests (byRequests_evalNode scope n x)) rest hfree.2
        (fun h => hvalue (.inr h)) hbinds.2

end

theorem alike_rename_loop {v w : String} (hv : '.' ∉ v.toList) (hw : '.' ∉ w.toList) {scope : Scope}
    {header : LoopHeader} (hvars : w ∉ header.vars) {body : List Node} (hfree : ¬ Node.MentionsAny w body)
    {x : Context × σ} (havoids : x.1.Avoids [v, w])
    (hbinds : BindsOwn fetcher transform v scope header body x) :
    Alike Html.blockText (evalNode fetcher transform scope (.loop header body))
      (evalNode fetcher transform scope (.loop (header.rename v w) (Node.renameAll v w body))) x := by
  refine alike_loop (Frame.rename v w) rfl (frames_rename v w header) fun frame start hstart => ?_
  obtain ⟨hown, hinner⟩ := hbinds frame start hstart
  obtain ⟨hnew, hothers⟩ := Frame.get?_rename (v := v) (w := w) fun entry hentry heq =>
    hvars (heq ▸ mem_vars_of_mem_frames hstart.mem_frames entry hentry)
  refine alike_rename_nodes hv hw ?_ (havoids.requests hstart.requests) body hfree (fun huses => ?_) hinner
  · intro name hname
    rw [Scope.get?_child, Scope.get?_child, hothers name hname]
  · obtain ⟨value, hvalue⟩ := Option.isSome_iff_exists.1 (hown huses)
    refine ⟨value, ?_, ?_⟩
    · rw [Scope.get?_child, hvalue, Option.some_or]
    · rw [Scope.get?_child, hnew, hvalue, Option.some_or]

end Context

/-! ### Spots in a body -/

/-- A spot in a body: among other parts, or in the body of a loop among other parts. -/
inductive Spot where
  | here (before after : List Node)
  | inside (before : List Node) (header : LoopHeader) (spot : Spot) (after : List Node)

namespace Spot

def fill (n : Node) : Spot → List Node
  | here before after => before ++ n :: after
  | inside before header spot after => before ++ .loop header (spot.fill n) :: after

variable [MonadWarn (StateM σ)] {fetcher : Fetcher (StateM σ)} {transform : String → String}

/-- The evaluation of the body comes to the spot in a scope and a world. -/
def Comes (fetcher : Fetcher (StateM σ)) (transform : String → String) (n : Node) (scope' : Scope)
    (x' : Context × σ) : Spot → Scope → Context × σ → Prop
  | here before _, scope, x =>
    scope' = scope ∧ x' = (Context.exec (Context.evalNodes fetcher transform scope before) x).2
  | inside before header spot _, scope, x => ∃ frame start,
    Context.Iterates fetcher transform scope header (spot.fill n)
        (Context.exec (Context.evalNodes fetcher transform scope before) x).2 frame start ∧
      spot.Comes fetcher transform n scope' x' (scope.child frame) start

open Context

theorem Comes.requests {n : Node} {scope' : Scope} {x' : Context × σ} {spot : Spot} {scope : Scope}
    {x : Context × σ} (h : spot.Comes fetcher transform n scope' x' scope x) :
    Relation.ReflTransGen (Asks fetcher) x x' := by
  induction spot generalizing scope x with
  | here before after =>
      obtain ⟨-, rfl⟩ := h
      exact byRequests_evalNodes scope before x
  | inside before header spot after ih =>
      obtain ⟨frame, start, hstart, hcomes⟩ := h
      exact (byRequests_evalNodes scope before x).trans (hstart.requests.trans (ih hcomes))

theorem alike_append {n n' : Node} {after : List Node} {scope : Scope} {x : Context × σ} {before : List Node}
    (h : Alike Html.blockText (evalNode fetcher transform scope n) (evalNode fetcher transform scope n')
      (exec (evalNodes fetcher transform scope before) x).2) :
    Alike Html.blocksText (evalNodes fetcher transform scope (before ++ n :: after))
      (evalNodes fetcher transform scope (before ++ n' :: after)) x := by
  induction before generalizing x with
  | nil =>
      rw [evalNodes, exec_pure] at h
      exact alike_cons h (alike_refl _ _ _)
  | cons first before ih =>
      rw [evalNodes, exec_bind, exec_bind, exec_pure] at h
      exact alike_cons (alike_refl _ _ _) (ih h)

/-- Bodies that differ in a spot are alike if what is there is, whenever evaluation comes to it. -/
theorem alike_fill {n n' : Node} {spot : Spot} {scope : Scope} {x : Context × σ}
    (h : ∀ scope' x', spot.Comes fetcher transform n scope' x' scope x →
      Alike Html.blockText (evalNode fetcher transform scope' n) (evalNode fetcher transform scope' n') x') :
    Alike Html.blocksText (evalNodes fetcher transform scope (spot.fill n))
      (evalNodes fetcher transform scope (spot.fill n')) x := by
  induction spot generalizing scope x with
  | here before after => exact alike_append (h scope _ ⟨rfl, rfl⟩)
  | inside before header spot after ih =>
      refine alike_append (alike_loop id rfl (fun found => (List.map_id _).symm) fun frame start hstart => ?_)
      exact ih fun scope' x' hcomes => h scope' x' ⟨frame, start, hstart, hcomes⟩

end Spot

namespace Context

variable [MonadWarn (StateM σ)]

/-- **Loop variables can be renamed** where they are bound. For any loop in a document, a variable of it and a new
name, if no placeholder asks for one of them, the new name is no other variable of the loop and is not
mentioned in its body, and whenever evaluation comes to the loop it binds the variable, then the two
documents are made into the same context, leave the same context and the same world after the same
requests, and show the same page. -/
theorem loop_variable_renamed (store : Store (StateM σ)) (fetcher : Fetcher (StateM σ))
    (transform : String → String) (bindings : List Binding) (spot : Spot) (header : LoopHeader) (body : List Node)
    {v w : String} (hv : '.' ∉ v.toList) (hw : '.' ∉ w.toList) (hvars : w ∉ header.vars)
    (hfree : ¬ Node.MentionsAny w body)
    (htemplates : ∀ b ∈ bindings, ∀ template, b.origin = .lazy template →
      ∀ p ∈ (Template.parse template).placeholders, p.head ≠ v ∧ p.head ≠ w) (world : σ) :
    let doc : Document := ⟨bindings, spot.fill (.loop header body)⟩
    let renamed : Document := ⟨bindings, spot.fill (.loop (header.rename v w) (Node.renameAll v w body))⟩
    outcome (ofDocument store fetcher renamed) world = outcome (ofDocument store fetcher doc) world ∧
    ∀ ctx s, outcome (ofDocument store fetcher doc) world = (.ok ctx, s) →
      (∀ scope x, spot.Comes fetcher transform (.loop header body) scope x .root (ctx, s) →
        BindsOwn fetcher transform v scope header body x) →
      (exec (evaluate fetcher transform renamed.nodes) (ctx, s)).2
          = (exec (evaluate fetcher transform doc.nodes) (ctx, s)).2 ∧
        Html.render (exec (evaluate fetcher transform renamed.nodes) (ctx, s)).1
          = Html.render (exec (evaluate fetcher transform doc.nodes) (ctx, s)).1 := by
  intro doc renamed
  refine ⟨rfl, fun ctx s hmade hbinds => ?_⟩
  have havoids : ctx.Avoids [v, w] := by
    intro a ha p hp
    obtain ⟨b, hb, template, horigin, htemplate⟩ := ofDocument_templates hmade a ha
    rw [htemplate] at hp
    have hhead := htemplates b hb template horigin p hp
    simpa using hhead
  have halike : Alike Html.blocksText (evalNodes fetcher transform .root doc.nodes)
      (evalNodes fetcher transform .root renamed.nodes) (ctx, s) := by
    refine Spot.alike_fill fun scope x hcomes => ?_
    exact alike_rename_loop hv hw hvars hfree (havoids.requests hcomes.requests) (hbinds scope x hcomes)
  exact ⟨halike.1, congrArg String.ofList halike.2⟩

/-- A loop over an object, in which another loop has the same variable. -/
theorem loop_variable_renamed_object :
    let bindings : List Binding := [⟨"o", "o.json", .manual, 1⟩]
    let header : LoopHeader := ⟨["k", "v"], "o", []⟩
    let body : List Node := [.field "v.a", .loop ⟨["v"], "v.b", []⟩ [.field "v"]]
    let renamed : List Node := [.loop ⟨["k", "w"], "o", []⟩ [.field "w.a", .loop ⟨["v"], "w.b", []⟩ [.field "v"]]]
    let desk := Desk.prepared [("o.json", "\x7b\"x\":\x7b\"a\":1,\"b\":[2]\x7d\x7d")] []
    let object : Json.Value := .object [("x", .object [("a", .number (.int 1)), ("b", .array [.number (.int 2)])])]
    let start : Context × Desk := (⟨[("o", object)], []⟩, desk)
    outcome (ofDocument MemoryStore.store CannedAnswers.fetcher ⟨bindings, renamed⟩) desk = (.ok start.1, desk) ∧
      Html.render (exec (evaluate CannedAnswers.fetcher id renamed) start).1
        = Html.render (exec (evaluate CannedAnswers.fetcher id [.loop header body]) start).1 := by
  intro bindings header body renamed desk object start
  have hrenamed : Spot.fill (.loop (header.rename "v" "w") (Node.renameAll "v" "w" body)) (.here [] [])
      = renamed := by
    with_unfolding_all rfl
  have hfree : ¬ Node.MentionsAny "w" body := by
    with_unfolding_all decide
  have hmade : outcome (ofDocument MemoryStore.store CannedAnswers.fetcher
      ⟨bindings, Spot.fill (.loop header body) (.here [] [])⟩) desk = (.ok start.1, desk) := by
    with_unfolding_all rfl
  have hsource : (exec (resolve (CannedAnswers.fetcher (m := StateM Desk)) .root "o") start).1 = some object := by
    with_unfolding_all rfl
  obtain ⟨hsame, hshown⟩ := loop_variable_renamed MemoryStore.store CannedAnswers.fetcher id bindings
    (.here [] []) header body (v := "v") (w := "w") (by decide) (by decide) (by decide) hfree
    (by simp [bindings]) desk
  rw [hrenamed] at hsame hshown
  refine ⟨hsame.trans hmade, (hshown start.1 desk hmade ?_).2⟩
  rintro scope x ⟨rfl, rfl⟩ frame first hfirst
  refine ⟨fun _ => ?_, trivial, ?_, trivial⟩
  · exact (isSome_get?_iff (by decide) (by decide) hfirst.mem_frames).2 (.inr ⟨_, hsource⟩)
  · intro inner second hsecond hunbound
    have hbound := (isSome_get?_iff (v := "v") (by decide) (by decide) hsecond.mem_frames).2 (.inl rfl)
    rw [hunbound] at hbound
    cases hbound

/-- A loop over a list with two variables, the second of which is not bound, so that a name outside is seen. -/
def outlined : Document where
  bindings := [⟨"v", "v.json", .manual, 1⟩, ⟨"xs", "xs.json", .manual, 2⟩]
  nodes := [.loop ⟨["k", "v"], "xs", []⟩ [.field "v"]]

/-- Renaming a variable that is not bound changes the page. -/
theorem unbound_variable_renamed :
    let renamed : List Node :=
      [.loop (LoopHeader.rename "v" "w" ⟨["k", "v"], "xs", []⟩) (Node.renameAll "v" "w" [.field "v"])]
    let desk := Desk.prepared [("v.json", "\"outer\""), ("xs.json", "[1]")] []
    let ctx : Context := ⟨[("v", .string "outer"), ("xs", .array [.number (.int 1)])], []⟩
    Document.parse "v = v.json\nxs = xs.json\n\n[for k, v in xs]\n  v\n" = .ok outlined ∧
      outcome (ofDocument MemoryStore.store CannedAnswers.fetcher outlined) desk = (.ok ctx, desk) ∧
      ¬ Node.MentionsAny "w" outlined.nodes ∧
      Html.render (exec (evaluate (CannedAnswers.fetcher (m := StateM Desk)) id outlined.nodes) (ctx, desk)).1
        = "<section class=\"section\"><div class=\"box\"><p>outer</p></div></section>" ∧
      Html.render (exec (evaluate (CannedAnswers.fetcher (m := StateM Desk)) id renamed) (ctx, desk)).1
        = "<section class=\"section\"><div class=\"box\"><p></p></div></section>" := by
  refine ⟨?_, ?_, ?_, ?_, ?_⟩
  · with_unfolding_all rfl
  · with_unfolding_all rfl
  · with_unfolding_all decide
  · with_unfolding_all rfl
  · with_unfolding_all rfl

end Context

end StaticPage
