import StaticPage.Proofs.Evaluation.Requests
import StaticPage.Proofs.Json.Paths
import StaticPage.Proofs.Text.Cutting

/-!
# Heads of paths

The head of a path names something, and the rest leads into it. A path with more behind it has the head that it
had, so that looking it up is looking up the path and then the rest, with the same requests:
`exec_resolve_append`. A path whose head is a loop variable is looked up without any, `exec_resolve_variable`.
-/

namespace StaticPage

variable {σ : Type}

namespace Context

/-! ### Splitting paths -/

theorem splitPath_extend {head : String} (h : '.' ∉ head.toList) (rest : Option String) :
    splitPath (Json.Path.extend head rest) = (head, rest) := by
  cases rest with
  | none => rw [Json.Path.extend, splitPath, Text.cut?_eq_none_iff.2 h]
  | some rest =>
      have htext : (head ++ "." ++ rest).toList = head.toList ++ '.' :: rest.toList := by simp
      rw [Json.Path.extend, splitPath, htext, Text.cut?_append h]
      simp

theorem extend_splitPath (path : String) :
    Json.Path.extend (splitPath path).1 (splitPath path).2 = path ∧ '.' ∉ (splitPath path).1.toList := by
  unfold splitPath
  split
  · rename_i head rest hcut
    obtain ⟨htext, hhead⟩ := Text.cut?_eq_some_iff.1 hcut
    refine ⟨?_, by simpa using hhead⟩
    apply String.toList_injective
    simp [Json.Path.extend, htext]
  · rename_i hcut
    exact ⟨rfl, Text.cut?_eq_none_iff.1 hcut⟩

theorem splitPath_append (path more : String) : splitPath (path ++ "." ++ more)
    = ((splitPath path).1, some (((splitPath path).2.map (· ++ ".")).getD "" ++ more)) := by
  obtain ⟨hpath, hhead⟩ := extend_splitPath path
  generalize (splitPath path).1 = head at hpath hhead ⊢
  generalize (splitPath path).2 = rest at hpath ⊢
  subst hpath
  have hmore : Json.Path.extend head rest ++ "." ++ more
      = Json.Path.extend head (some ((rest.map (· ++ ".")).getD "" ++ more)) := by
    cases rest <;> simp [Json.Path.extend, String.append_assoc]
  rw [hmore, splitPath_extend hhead]

/-! ### Descending -/

theorem descend_append (v : Json.Value) (rest : Option String) (more : String) :
    descend v (some ((rest.map (· ++ ".")).getD "" ++ more)) = (descend v rest).bind (·.get? more) := by
  cases rest with
  | none =>
      rw [descend, descend, Json.Value.present?_bind_get?]
      simp
  | some rest => exact Json.Value.get?_append v rest more

/-! ### Looking up -/

variable [MonadWarn (StateM σ)] (fetcher : Fetcher (StateM σ))

/-- A path behind another one is looked up by looking that one up, and then leads on from there. -/
theorem exec_resolve_append (scope : Scope) (path more : String) (w : Context × σ) :
    exec (resolve fetcher scope (path ++ "." ++ more)) w
      = ((exec (resolve fetcher scope path) w).1.bind (·.get? more), (exec (resolve fetcher scope path) w).2) := by
  simp only [resolve, exec_bind, exec_get, splitPath_append]
  cases w.1.known? scope (splitPath path).1 with
  | some value => simp only [exec_pure, descend_append]
  | none =>
      cases w.1.lazy? (splitPath path).1 with
      | none => rfl
      | some b => simp only [exec_bind, exec_pure, descend_append, Option.bind_assoc]

theorem exec_resolve_child (scope : Scope) (path : String) {segment : String} (h : '.' ∉ segment.toList)
    (rest : Option String) (w : Context × σ) :
    exec (resolve fetcher scope (Json.Path.extend (path ++ "." ++ segment) rest)) w
      = ((exec (resolve fetcher scope path) w).1.bind fun v => (v.child? segment).bind (descend · rest),
        (exec (resolve fetcher scope path) w).2) := by
  have hchild : exec (resolve fetcher scope (path ++ "." ++ segment)) w
      = ((exec (resolve fetcher scope path) w).1.bind fun v => (v.child? segment).bind Json.Value.present?,
        (exec (resolve fetcher scope path) w).2) := by
    rw [exec_resolve_append]
    simp only [Json.Value.get?_of_not_mem _ h]
  cases rest with
  | none => exact hchild
  | some rest =>
      rw [Json.Path.extend, exec_resolve_append, hchild]
      simp only [Option.bind_assoc, Json.Value.present?_bind_get?]
      rfl

/-- A path whose head is a loop variable leads into the value of the variable. -/
theorem exec_resolve_variable {scope : Scope} {x : String} (hx : '.' ∉ x.toList) {value : Json.Value}
    (hscope : scope.get? x = some value) (rest : Option String) (w : Context × σ) :
    exec (resolve fetcher scope (Json.Path.extend x rest)) w = (descend value rest, w) := by
  have hknown : w.1.known? scope x = some value := by
    rw [known?, hscope]
    rfl
  simp only [resolve, exec_bind, exec_get, splitPath_extend hx, hknown, exec_pure]

end Context

end StaticPage
