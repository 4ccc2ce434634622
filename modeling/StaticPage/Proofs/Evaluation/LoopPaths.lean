import StaticPage.Proofs.Evaluation.PathHeads
import StaticPage.Proofs.Evaluation.Replays
import StaticPage.Proofs.Evaluation.Transparency

/-!
# Loop variables and direct paths

In the iterations of a loop, its variable leads where the path of the source leads with an index or a key
behind it. On the way into the body the variable is found in the frame, however deep the field, unless
another loop on the way has it too: `shows_evalNodes`. The direct path looks the source up once more. What
the source was is settled by then, so that it is the same whatever has been requested in between.
-/

namespace StaticPage

variable {σ α β : Type}

/-! ### What fields show -/

mutual

/-- In the block of a part of a body, the fields on a variable show its values, by what is behind the
variable in their paths. Loops that have a variable of this name are left out. -/
def Node.Shows (x : String) (value : Option String → Option Json.Value) : Node → Block → Prop
  | .prose _ _, .prose _ _ => True
  | .field path, .field path' found =>
    path' = path ∧ ∀ rest, path = Json.Path.extend x rest → found = value rest
  | .loop header body, .loop source iterations =>
    source = header.source ∧ (x ∉ header.vars → ∀ blocks ∈ iterations, Node.ShowsAll x value body blocks)
  | _, _ => False

def Node.ShowsAll (x : String) (value : Option String → Option Json.Value) : List Node → List Block → Prop
  | [], [] => True
  | n :: nodes, block :: blocks => Node.Shows x value n block ∧ Node.ShowsAll x value nodes blocks
  | _, _ => False

end

/-! ### Frames -/

/-- The variable that has the value of an entry, in a loop over an object. -/
def LoopHeader.valueVariable? (header : LoopHeader) : Option String :=
  match header.vars with
  | [_, v] => some v
  | v :: _ => some v
  | [] => none

namespace Frame

theorem get?_eq_none {frame : Frame} {name : String} (h : ∀ entry ∈ frame, entry.1 ≠ name) :
    frame.get? name = none := by
  rw [get?, List.lookup_eq_none_iff]
  intro entry hentry
  have hne := h entry (List.mem_reverse.1 hentry)
  exact bne_iff_ne.2 hne.symm

theorem get?_itemFrame {vars : List String} {x : String} (hx : vars.head? = some x) (item : Json.Value) :
    Frame.get? (Context.itemFrame vars item) x = some item := by
  cases vars with
  | nil => cases hx
  | cons v rest =>
      cases hx
      simp [Context.itemFrame, get?]

theorem get?_entryFrame {header : LoopHeader} {x : String} (hx : header.valueVariable? = some x)
    (entry : String × Json.Value) :
    Frame.get? (Context.entryFrame header.vars entry) x = some entry.2 := by
  unfold LoopHeader.valueVariable? at hx
  unfold Context.entryFrame
  split at hx <;> cases hx <;> simp [get?, *]

end Frame

namespace Context

theorem mem_vars_of_mem_frames {header : LoopHeader} {source : Option Json.Value} {frame : Frame}
    (hframe : frame ∈ frames header source) : ∀ entry ∈ frame, entry.1 ∈ header.vars := by
  intro entry hentry
  unfold frames at hframe
  split at hframe
  · obtain ⟨item, -, rfl⟩ := List.mem_map.1 hframe
    unfold itemFrame at hentry
    split at hentry <;> simp_all
  · obtain ⟨pair, -, rfl⟩ := List.mem_map.1 hframe
    unfold entryFrame at hentry
    split at hentry <;> simp_all
    rcases hentry with rfl | rfl <;> simp
  · cases hframe

theorem get?_eq_none_of_mem_frames {header : LoopHeader} {source : Option Json.Value} {frame : Frame}
    (hframe : frame ∈ frames header source) {name : String} (hname : name ∉ header.vars) :
    frame.get? name = none :=
  Frame.get?_eq_none fun entry hentry heq => hname (heq ▸ mem_vars_of_mem_frames hframe entry hentry)

/-! ### Results of computations -/

/-- A computation all of whose results have a property. -/
def Results (P : α → Prop) (x : StateT Context (StateM σ) α) : Prop :=
  ∀ w, P (exec x w).1

theorem results_mapM {P : α → β → Prop} {f : α → StateT Context (StateM σ) β} {as : List α}
    (hf : ∀ a ∈ as, Results (P a) (f a)) : Results (List.Forall₂ P as) (as.mapM f) := by
  induction as with
  | nil => exact fun _ => .nil
  | cons a as ih =>
      intro w
      rw [List.mapM_cons, exec_bind, exec_bind, exec_pure]
      exact .cons (hf a List.mem_cons_self w) (ih (fun b hb => hf b (List.mem_cons_of_mem _ hb)) _)

theorem exists_of_map_forall₂ {γ : Type} {P : β → γ → Prop} {f : α → β} {as : List α} {cs : List γ}
    (h : List.Forall₂ P (as.map f) cs) :
    cs.length = as.length ∧ ∀ (j : Nat) a, as[j]? = some a → ∃ c, cs[j]? = some c ∧ P (f a) c := by
  rw [List.forall₂_map_left_iff] at h
  refine ⟨h.length_eq.symm, fun j a ha => ?_⟩
  obtain ⟨hj, rfl⟩ := List.getElem?_eq_some_iff.1 ha
  have hj' : j < cs.length := h.length_eq ▸ hj
  exact ⟨cs[j], List.getElem?_eq_getElem hj', h.get hj hj'⟩

variable [MonadWarn (StateM σ)] {fetcher : Fetcher (StateM σ)} {transform : String → String}

mutual

/-- Fields on a variable show what the paths behind it lead to in its value. -/
theorem shows_evalNode {x : String} (hx : '.' ∉ x.toList) {value : Json.Value} {scope : Scope}
    (hscope : scope.get? x = some value) :
    (n : Node) → Results (Node.Shows x (descend value) n) (evalNode fetcher transform scope n)
  | .prose id text => fun _ => by
      rw [evalNode, exec_pure, Node.Shows]
      trivial
  | .field path => fun w => by
      rw [evalNode, exec_bind, exec_pure, Node.Shows]
      refine ⟨rfl, ?_⟩
      rintro rest rfl
      rw [exec_resolve_variable fetcher hx hscope]
  | .loop header body => fun w => by
      rw [evalNode, exec_bind, exec_bind, exec_pure, Node.Shows]
      refine ⟨rfl, fun hvars blocks hblocks => ?_⟩
      generalize exec (resolve fetcher scope header.source) w = found at hblocks
      have hall : ∀ frame ∈ frames header found.1, Results (Node.ShowsAll x (descend value) body)
          (evalNodes fetcher transform (scope.child frame) body) := by
        intro frame hframe
        refine shows_evalNodes hx ?_ body
        rw [Scope.get?_child, get?_eq_none_of_mem_frames hframe hvars, Option.none_or, hscope]
      have hiterations := results_mapM (P := fun _ => Node.ShowsAll x (descend value) body) hall found.2
      obtain ⟨-, -, hshows⟩ := exists_of_forall₂ hiterations hblocks
      exact hshows

theorem shows_evalNodes {x : String} (hx : '.' ∉ x.toList) {value : Json.Value} {scope : Scope}
    (hscope : scope.get? x = some value) :
    (nodes : List Node) →
      Results (Node.ShowsAll x (descend value) nodes) (evalNodes fetcher transform scope nodes)
  | [] => fun _ => by
      rw [evalNodes, exec_pure, Node.ShowsAll]
      trivial
  | n :: rest => fun w => by
      rw [evalNodes, exec_bind, exec_bind, exec_pure, Node.ShowsAll]
      exact ⟨shows_evalNode hx hscope n w, shows_evalNodes hx hscope rest _⟩

end

/-! ### Loops and direct paths -/

/-- The iterations of a loop are those of its frames. The fields on a variable show what the frame has for
it. -/
theorem exists_iterations (fetcher : Fetcher (StateM σ)) (transform : String → String) (scope : Scope)
    (header : LoopHeader) (body : List Node) (w : Context × σ) : ∃ iterations,
      (exec (evalNode fetcher transform scope (.loop header body)) w).1 = .loop header.source iterations ∧
      List.Forall₂ (fun frame blocks => ∀ x value, '.' ∉ x.toList → frame.get? x = some value →
          Node.ShowsAll x (descend value) body blocks)
        (frames header (exec (resolve fetcher scope header.source) w).1) iterations := by
  rw [evalNode, exec_bind, exec_bind, exec_pure]
  refine ⟨_, rfl, ?_⟩
  apply results_mapM
  intro frame _ w' x value hx hframe
  refine shows_evalNodes hx ?_ body w'
  rw [Scope.get?_child, hframe, Option.some_or]

/-- What has been looked up once is there ever after. -/
theorem resolve_again {scope : Scope} {path : String} {w later : Context × σ}
    (hlater : later = w ∨ Relation.ReflTransGen (Asks fetcher) (exec (resolve fetcher scope path) w).2 later) :
    (exec (resolve fetcher scope path) later).1 = (exec (resolve fetcher scope path) w).1 := by
  rcases hlater with rfl | hlater
  · rfl
  · exact (recalls_eq.resolve scope path w later later hlater rfl).1

theorem not_mem_toString (n : Nat) : '.' ∉ (toString n).toList := by
  have htext : (toString n).toList = Nat.toDigits 10 n := Nat.toList_repr
  intro hmem
  rw [htext] at hmem
  exact absurd (Nat.isDigit_of_mem_toDigits (by decide) (by decide) hmem) (by decide)

/-- The fields on a variable show what a path leads to, and what the paths behind it lead to. -/
def ShowsPath (fetcher : Fetcher (StateM σ)) (scope : Scope) (path : String) (w : Context × σ) (x : String)
    (body : List Node) (blocks : List Block) : Prop :=
  Node.ShowsAll x (fun rest => (exec (resolve fetcher scope (Json.Path.extend path rest)) w).1) body blocks

theorem showsPath_child {scope : Scope} {path segment : String} (hsegment : '.' ∉ segment.toList)
    {source value : Json.Value} (hchild : source.child? segment = some value) {w later : Context × σ}
    (hsource : (exec (resolve fetcher scope path) w).1 = some source)
    (hlater : later = w ∨ Relation.ReflTransGen (Asks fetcher) (exec (resolve fetcher scope path) w).2 later)
    {x : String} {body : List Node} {blocks : List Block} (h : Node.ShowsAll x (descend value) body blocks) :
    ShowsPath fetcher scope (path ++ "." ++ segment) later x body blocks := by
  have hvalues : descend value = fun rest =>
      (exec (resolve fetcher scope (Json.Path.extend (path ++ "." ++ segment) rest)) later).1 := by
    funext rest
    rw [exec_resolve_child fetcher scope path hsegment, resolve_again hlater, hsource]
    simp only [Option.bind_some, hchild]
  rwa [ShowsPath, ← hvalues]

/-- **Loop variables agree with direct paths.** A path behind another one leads where it leads from the end of
the other. In a loop that is not sorted, the fields on its variable show in each iteration what the path of
the source leads to with the index or the key behind it, from the scope around the loop, before the loop
as at any time after the source has been looked up. -/
theorem loop_variables_on_paths (fetcher : Fetcher (StateM σ)) (transform : String → String) (scope : Scope)
    (header : LoopHeader) (hsort : header.sort = []) (body : List Node) (w : Context × σ) :
    (∀ (v : Json.Value) (p q : String), v.get? (p ++ "." ++ q) = (v.get? p).bind (·.get? q)) ∧
    ∃ iterations,
      (exec (evalNode fetcher transform scope (.loop header body)) w).1 = .loop header.source iterations ∧
      ∀ later, (later = w ∨
          Relation.ReflTransGen (Asks fetcher) (exec (resolve fetcher scope header.source) w).2 later) →
        (∀ items x, (exec (resolve fetcher scope header.source) w).1 = some (.array items) →
          header.vars.head? = some x → '.' ∉ x.toList →
            iterations.length = items.length ∧ ∀ j < items.length, j < Json.Path.indexLimit →
              ∃ blocks, iterations[j]? = some blocks ∧
                ShowsPath fetcher scope (header.source ++ "." ++ toString j) later x body blocks) ∧
        (∀ entries x, (exec (resolve fetcher scope header.source) w).1 = some (.object entries) →
          (Dictionary.keys entries).Nodup → header.valueVariable? = some x → '.' ∉ x.toList →
            iterations.length = entries.length ∧ ∀ (j : Nat) key value, entries[j]? = some (key, value) →
              '.' ∉ key.toList → ∃ blocks, iterations[j]? = some blocks ∧
                ShowsPath fetcher scope (header.source ++ "." ++ key) later x body blocks) := by
  refine ⟨Json.Value.get?_append, ?_⟩
  obtain ⟨iterations, hloop, hall⟩ := exists_iterations fetcher transform scope header body w
  refine ⟨iterations, hloop, fun later hlater => ⟨?_, ?_⟩⟩
  · intro items x hsource hvar hx
    have hframes : frames header (some (.array items)) = items.map (itemFrame header.vars) := by
      simp [frames, hsort, Ranking.sortItems, Ranking.sortBy]
    rw [hsource, hframes] at hall
    obtain ⟨hlength, hblocks⟩ := exists_of_map_forall₂ hall
    refine ⟨hlength, fun j hj hlimit => ?_⟩
    have hitem : items[j]? = some items[j] := List.getElem?_eq_getElem hj
    obtain ⟨blocks, hiteration, hshows⟩ := hblocks j items[j] hitem
    have hchild : (Json.Value.array items).child? (toString j) = some items[j] := by
      rw [Json.Value.child?, Json.Path.index?_toString hlimit, Option.bind_some, hitem]
    refine ⟨blocks, hiteration, showsPath_child (not_mem_toString j) hchild hsource hlater ?_⟩
    exact hshows x _ hx (Frame.get?_itemFrame hvar _)
  · intro entries x hsource hkeys hvar hx
    have hframes : frames header (some (.object entries)) = entries.map (entryFrame header.vars) := by
      simp [frames, hsort, Ranking.sortBy]
    rw [hsource, hframes] at hall
    obtain ⟨hlength, hblocks⟩ := exists_of_map_forall₂ hall
    refine ⟨hlength, fun j key value hentry hkey => ?_⟩
    obtain ⟨blocks, hiteration, hshows⟩ := hblocks j (key, value) hentry
    have hchild : (Json.Value.object entries).child? key = some value :=
      (Dictionary.lookup_eq_some_iff hkeys).2 (List.mem_of_getElem? hentry)
    refine ⟨blocks, hiteration, showsPath_child hkey hchild hsource hlater ?_⟩
    exact hshows x value hx (Frame.get?_entryFrame hvar (key, value))

/-- A list that is fetched for the loop over it, and an object. -/
theorem loop_variables_on_paths_fetched :
    let fetcher : Fetcher (StateM Clock) := Fetcher.answering fun _ => .ok "[[1],null]".toUTF8
    let ctx : Context := ⟨[("o", .object [("a", .string "b")])], [.new "l" "l.json" "http://x/{s}"]⟩
    let w : Context × Clock := (ctx, ⟨0⟩)
    let scope : Scope := ⟨[("s", .string "a")], []⟩
    (∃ iterations,
      (exec (evalNode fetcher id scope (.loop ⟨["x"], "l", []⟩ [.field "x.0"])) w).1 = .loop "l" iterations ∧
      ∃ blocks, iterations[0]? = some blocks ∧ ShowsPath fetcher scope ("l" ++ "." ++ toString 0)
        (exec (resolve fetcher scope "l") w).2 "x" [.field "x.0"] blocks) ∧
    ∃ iterations,
      (exec (evalNode fetcher id scope (.loop ⟨["k", "v"], "o", []⟩ [.field "v"])) w).1
        = .loop "o" iterations ∧
      ∃ blocks, iterations[0]? = some blocks ∧
        ShowsPath fetcher scope ("o" ++ "." ++ "a") w "v" [.field "v"] blocks := by
  intro fetcher ctx w scope
  refine ⟨?_, ?_⟩
  · have hsource : (exec (resolve fetcher scope "l") w).1
        = some (.array [.array [.number (.int 1)], .null]) := by
      with_unfolding_all rfl
    obtain ⟨-, iterations, hloop, hall⟩ :=
      loop_variables_on_paths fetcher id scope ⟨["x"], "l", []⟩ rfl [.field "x.0"] w
    obtain ⟨hitems, -⟩ := hall _ (.inr .refl)
    obtain ⟨-, hshows⟩ := hitems _ "x" hsource rfl (by decide)
    exact ⟨iterations, hloop, hshows 0 (by decide) (by decide)⟩
  · have hsource : (exec (resolve fetcher scope "o") w).1 = some (.object [("a", .string "b")]) := by
      with_unfolding_all rfl
    obtain ⟨-, iterations, hloop, hall⟩ :=
      loop_variables_on_paths fetcher id scope ⟨["k", "v"], "o", []⟩ rfl [.field "v"] w
    obtain ⟨-, hentries⟩ := hall w (.inl rfl)
    obtain ⟨-, hshows⟩ := hentries _ "v" hsource (by decide) rfl (by decide)
    exact ⟨iterations, hloop, hshows 0 "a" _ rfl (by decide)⟩

end Context

end StaticPage
