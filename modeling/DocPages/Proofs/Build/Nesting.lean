import DocPages.Proofs.Build.Program

namespace DocPages

variable [PropertyFamily]

namespace Step

/-- What surrounds a program in the scope of a group: the steps before the group that holds the
program, the parameters of that group, and the steps after it. -/
structure Level where
  before : List Step := []
  params : Params
  after : List Step := []

/-- A program inside groups, one in the other. -/
def nest : List Level → List Step → List Step
  | [], program => program
  | level :: rest, program => level.before ++ group level.params (nest rest program) :: level.after

def innermostScope (levels : List Level) (scope : Scope) : Scope :=
  levels.foldl (fun scope level => (level.params.resolve scope .main).toScope) scope

/-- A value is that of the last group whose parameters set it, or else that of the outer scope. -/
theorem innermostScope_value {β : Type} (value : Scope → β) (given : Params → Option β)
    (h : ∀ params scope, value (params.resolve scope .main).toScope =
      (given params).getD (value scope))
    (levels : List Level) (scope : Scope) :
    value (innermostScope levels scope) =
      (levels.reverse.findSome? fun level => given level.params).getD (value scope) := by
  induction levels generalizing scope with
  | nil => rfl
  | cons level rest ih =>
      rw [innermostScope, List.foldl_cons]
      refine (ih _).trans ?_
      rw [h, List.reverse_cons, List.findSome?_append, Option.getD_or, List.findSome?_singleton]

end Step

/-- The group at an address among groups, each number the place of the next group among the nodes
of the one before. -/
def GroupOf.at? (group : Group) : List Nat → Option Group
  | [] => some group
  | i :: rest => do
      let inner ← group.children[i]? >>= Node.asGroup?
      inner.at? rest

namespace Step

theorem exists_innermost {levels : List Level} {program : List Step} {tools : Toolkit}
    {root : Group}
    (h : (runAll (nest levels program)).nodes tools root.attrs.toScope = .ok root.children) :
    ∃ address inner, address.length = levels.length ∧ root.at? address = some inner ∧
      (runAll program).nodes tools inner.attrs.toScope = .ok inner.children ∧
      inner.attrs.toScope = innermostScope levels root.attrs.toScope := by
  induction levels generalizing root with
  | nil => exact ⟨[], root, rfl, rfl, h, rfl⟩
  | cons level rest ih =>
      rw [nest, nodes_runAll_append, bind_eq_ok] at h
      obtain ⟨before, _, h⟩ := h
      rw [nodes_runAll_cons, nodes_run_group, bind_map_left, bind_assoc, bind_eq_ok] at h
      obtain ⟨children, hchildren, h⟩ := h
      rw [bind_assoc, bind_eq_ok] at h
      obtain ⟨after, _, h⟩ := h
      have hroot : before ++ .group ⟨children, level.params.resolve root.attrs.toScope .main⟩ ::
          after = root.children := Except.ok.inj h
      obtain ⟨address, inner, hlength, hat, hinner, hscope⟩ :=
        @ih ⟨children, level.params.resolve root.attrs.toScope .main⟩ hchildren
      refine ⟨before.length :: address, inner, congrArg (· + 1) hlength, ?_, hinner, hscope⟩
      rw [GroupOf.at?, ← hroot, List.getElem?_append_right (Nat.le_refl _), Nat.sub_self]
      exact hat

end Step

end DocPages
