import DocPages.Build.Basic
import DocPages.Proofs.Traversal

/-!
Appending to a scope.

An action is append-only if, wherever it is run, it leaves the values of the scope and the nodes
that are there already, and appends what it makes in an empty scope. What it makes there is its
`yield`: its value and the nodes that it appends, as a function of the values of the scope alone.
-/

namespace DocPages

variable [PropertyFamily] {α β : Type}

namespace Run

/-- The value of a computation that starts after some observations. -/
def valueAfter (run : Run α) (tools : Toolkit) (log : List Observation) :
    Except MissingDivergent α :=
  Prod.fst <$> (ReaderT.run run tools).run log

/-- The value of a computation that starts before any observation. -/
def value (run : Run α) (tools : Toolkit) : Except MissingDivergent α := run.valueAfter tools []

/-- What was handed back before has no influence on the value. -/
def Settled (run : Run α) : Prop := ∀ tools log, run.valueAfter tools log = run.value tools

theorem valueAfter_bind (run : Run α) {f : α → Run β} (hf : ∀ a, Settled (f a))
    (tools : Toolkit) (log : List Observation) :
    (run >>= f).valueAfter tools log =
      run.valueAfter tools log >>= fun a => (f a).value tools := by
  have hbind : (run >>= f).valueAfter tools log =
      (ReaderT.run run tools).run log >>= fun (a, seen) => (f a).valueAfter tools seen :=
    map_bind _ _ _
  rw [hbind, valueAfter, bind_map_left]
  congr 1
  funext result
  exact hf result.1 tools result.2

theorem value_bind (run : Run α) {f : α → Run β} (hf : ∀ a, Settled (f a)) (tools : Toolkit) :
    (run >>= f).value tools = run.value tools >>= fun a => (f a).value tools :=
  valueAfter_bind run hf tools []

theorem settled_pure (a : α) : Settled (pure a : Run α) := fun _ _ => rfl

theorem settled_throw (missing : MissingDivergent) : Settled (throw missing : Run α) :=
  fun _ _ => rfl

theorem settled_observe (observation : Observation) : Settled (observe observation) :=
  fun _ _ => rfl

theorem Settled.bind {run : Run α} {f : α → Run β} (hrun : Settled run)
    (hf : ∀ a, Settled (f a)) : Settled (run >>= f) := by
  intro tools log
  rw [valueAfter_bind run hf, value_bind run hf, hrun]

theorem Settled.map {run : Run α} (h : Settled run) (f : α → β) : Settled (f <$> run) := by
  rw [map_eq_pure_bind]
  exact h.bind fun _ => settled_pure _

theorem value_map (run : Run α) (f : α → β) (tools : Toolkit) :
    (f <$> run).value tools = f <$> run.value tools := by
  rw [map_eq_pure_bind, value_bind run fun _ => settled_pure _]
  exact bind_pure_comp _ _

theorem settled_mapM {f : α → Run β} {l : List α} (hf : ∀ a ∈ l, Settled (f a)) :
    Settled (l.mapM f) := by
  induction l with
  | nil => exact settled_pure []
  | cons a rest ih =>
      rw [List.forall_mem_cons] at hf
      rw [List.mapM_cons]
      exact hf.1.bind fun _ => (ih hf.2).bind fun _ => settled_pure _

theorem value_mapM {f : α → Run β} {l : List α} (hf : ∀ a ∈ l, Settled (f a))
    (tools : Toolkit) : (l.mapM f).value tools = l.mapM fun a => (f a).value tools := by
  induction l with
  | nil => rfl
  | cons a rest ih =>
      rw [List.forall_mem_cons] at hf
      have hrest := settled_mapM hf.2
      simp only [List.mapM_cons, value_bind _ fun _ => hrest.bind fun _ => settled_pure _,
        value_bind _ fun _ => settled_pure _, ih hf.2]
      rfl

end Run

namespace Build

/-- What an action comes to from a draft and after some observations. -/
def runFrom (build : Build α) (tools : Toolkit) (draft : Draft) (log : List Observation) :
    Except MissingDivergent (α × Draft) :=
  Run.valueAfter (StateT.run build draft) tools log

/-- What an action makes in an empty scope: its value and the nodes that it appends. -/
def yield (build : Build α) (tools : Toolkit) (scope : Scope) :
    Except MissingDivergent (α × List Node) :=
  (fun (a, draft) => (a, draft.nodes)) <$> build.runFrom tools { scope } []

/-- The nodes that an action appends in an empty scope. -/
def nodes (build : Build Unit) (tools : Toolkit) (scope : Scope) :
    Except MissingDivergent (List Node) :=
  Prod.snd <$> build.yield tools scope

/-- Wherever an action is run, it leaves the values of the scope and the nodes that are there, and
appends what it makes in an empty scope. -/
def AppendOnly (build : Build α) : Prop :=
  ∀ tools scope nodes log, build.runFrom tools ⟨scope, nodes⟩ log =
    (fun (a, added) => (a, ⟨scope, nodes ++ added⟩)) <$> build.yield tools scope

theorem AppendOnly.settled {build : Build α} (h : AppendOnly build) (draft : Draft) :
    Run.Settled (StateT.run build draft) := by
  intro tools log
  exact (h tools draft.scope draft.nodes log).trans (h tools draft.scope draft.nodes []).symm

theorem runFrom_bind {build : Build α} {f : α → Build β} (hbuild : AppendOnly build)
    (hf : ∀ a, AppendOnly (f a)) (tools : Toolkit) (scope : Scope) (nodes : List Node)
    (log : List Observation) :
    (build >>= f).runFrom tools ⟨scope, nodes⟩ log = do
      let (a, front) ← build.yield tools scope
      let (b, back) ← (f a).yield tools scope
      return (b, ⟨scope, nodes ++ (front ++ back)⟩) := by
  have hbind : (build >>= f).runFrom tools ⟨scope, nodes⟩ log =
      build.runFrom tools ⟨scope, nodes⟩ log >>= fun (a, draft) =>
        (f a).runFrom tools draft [] := by
    rw [runFrom, StateT.run_bind]
    exact Run.valueAfter_bind _ (fun (a, draft) => (hf a).settled draft) tools log
  rw [hbind, hbuild, bind_map_left]
  congr 1
  funext (a, front)
  simp only [hf a tools scope, List.append_assoc, bind_pure_comp]

theorem yield_bind {build : Build α} {f : α → Build β} (hbuild : AppendOnly build)
    (hf : ∀ a, AppendOnly (f a)) (tools : Toolkit) (scope : Scope) :
    (build >>= f).yield tools scope = do
      let (a, front) ← build.yield tools scope
      let (b, back) ← (f a).yield tools scope
      return (b, front ++ back) := by
  rw [yield, runFrom_bind hbuild hf]
  simp only [map_bind, map_pure, List.nil_append]

theorem AppendOnly.bind {build : Build α} {f : α → Build β} (hbuild : AppendOnly build)
    (hf : ∀ a, AppendOnly (f a)) : AppendOnly (build >>= f) := by
  intro tools scope nodes log
  rw [runFrom_bind hbuild hf, yield_bind hbuild hf]
  simp only [map_bind, map_pure]

theorem nodes_bind {build : Build α} {next : α → Build Unit} (hbuild : AppendOnly build)
    (hnext : ∀ a, AppendOnly (next a)) (tools : Toolkit) (scope : Scope) :
    (build >>= next).nodes tools scope = do
      let (a, front) ← build.yield tools scope
      let back ← (next a).nodes tools scope
      return front ++ back := by
  rw [nodes, yield_bind hbuild hnext]
  simp only [nodes, map_bind, map_pure, bind_map_left]

theorem nodes_seq {first next : Build Unit} (hfirst : AppendOnly first) (hnext : AppendOnly next)
    (tools : Toolkit) (scope : Scope) :
    (do first; next).nodes tools scope = do
      let front ← first.nodes tools scope
      let back ← next.nodes tools scope
      return front ++ back := by
  rw [nodes_bind hfirst fun _ => hnext, nodes.eq_def first, bind_map_left]

theorem yield_eq_nodes (build : Build Unit) (tools : Toolkit) (scope : Scope) :
    build.yield tools scope = (fun added => ((), added)) <$> build.nodes tools scope := by
  rw [nodes, Functor.map_map]
  exact (id_map' _).symm

theorem AppendOnly.runFrom_eq {build : Build Unit} (h : AppendOnly build) (tools : Toolkit)
    (scope : Scope) (nodes : List Node) (log : List Observation) :
    build.runFrom tools ⟨scope, nodes⟩ log =
      (fun added => ((), ⟨scope, nodes ++ added⟩)) <$> build.nodes tools scope := by
  rw [h, yield_eq_nodes, Functor.map_map]

theorem appendOnly_pure (a : α) : AppendOnly (pure a : Build α) := by
  intro tools scope nodes log
  exact congrArg (fun nodes => Except.ok (a, Draft.mk scope nodes)) (List.append_nil nodes).symm

theorem yield_pure (a : α) (tools : Toolkit) (scope : Scope) :
    (pure a : Build α).yield tools scope = pure (a, []) := rfl

theorem appendOnly_read : AppendOnly (read : Build Toolkit) := by
  intro tools scope nodes log
  exact congrArg (fun nodes => Except.ok (tools, Draft.mk scope nodes)) (List.append_nil nodes).symm

theorem appendOnly_defaults : AppendOnly defaults := by
  intro tools scope nodes log
  exact congrArg (fun nodes => Except.ok (scope, Draft.mk scope nodes)) (List.append_nil nodes).symm

theorem appendOnly_resolve (params : Params) (kind : Kind) : AppendOnly (resolve params kind) :=
  appendOnly_defaults.bind fun _ => appendOnly_pure _

theorem appendOnly_extend (added : List Node) : AppendOnly (extend added) := fun _ _ _ _ => rfl

theorem appendOnly_push (node : Node) : AppendOnly (push node) := appendOnly_extend [node]

theorem nodes_push (node : Node) (tools : Toolkit) (scope : Scope) :
    (push node).nodes tools scope = pure [node] := rfl

theorem runFrom_lift {run : Run α} (h : run.Settled) (tools : Toolkit) (draft : Draft)
    (log : List Observation) :
    (liftM run : Build α).runFrom tools draft log = (·, draft) <$> run.value tools := by
  have hbind : (liftM run : Build α).runFrom tools draft log =
      (run >>= fun a => pure (a, draft)).valueAfter tools log := rfl
  rw [hbind, Run.valueAfter_bind run fun _ => Run.settled_pure _, h]
  exact bind_pure_comp _ _

theorem yield_lift {run : Run α} (h : run.Settled) (tools : Toolkit) (scope : Scope) :
    (liftM run : Build α).yield tools scope = (·, []) <$> run.value tools := by
  rw [yield, runFrom_lift h, Functor.map_map]

theorem appendOnly_lift {run : Run α} (h : run.Settled) : AppendOnly (liftM run : Build α) := by
  intro tools scope nodes log
  rw [runFrom_lift h, yield_lift h, Functor.map_map]
  simp only [List.append_nil]

theorem valueAfter_inScope {body : Build Unit} (h : AppendOnly body) (attrs : Attrs)
    (tools : Toolkit) (log : List Observation) :
    (Run.inScope attrs body).valueAfter tools log =
      (⟨·, attrs⟩) <$> body.nodes tools attrs.toScope := by
  let close (result : Unit × Draft) : Run Group :=
    pure ⟨result.2.nodes, { toScope := result.2.scope, kind := attrs.kind }⟩
  have hbind : (Run.inScope attrs body).valueAfter tools log =
      body.runFrom tools { scope := attrs.toScope } log >>= fun result =>
        (close result).value tools :=
    Run.valueAfter_bind _ (fun _ => Run.settled_pure _) tools log
  rw [hbind, h, nodes, bind_map_left, Functor.map_map]
  exact bind_pure_comp _ _

theorem settled_inScope {body : Build Unit} (h : AppendOnly body) (attrs : Attrs) :
    Run.Settled (Run.inScope attrs body) := by
  intro tools log
  rw [valueAfter_inScope h, Run.value, valueAfter_inScope h]

theorem value_inScope {body : Build Unit} (h : AppendOnly body) (attrs : Attrs)
    (tools : Toolkit) :
    (Run.inScope attrs body).value tools = (⟨·, attrs⟩) <$> body.nodes tools attrs.toScope :=
  valueAfter_inScope h attrs tools []

theorem appendOnly_mapM {f : α → Build β} {l : List α} (hf : ∀ a ∈ l, AppendOnly (f a)) :
    AppendOnly (l.mapM f) := by
  induction l with
  | nil => exact appendOnly_pure []
  | cons a rest ih =>
      rw [List.forall_mem_cons] at hf
      rw [List.mapM_cons]
      exact hf.1.bind fun _ => (ih hf.2).bind fun _ => appendOnly_pure _

theorem yield_mapM {f : α → Build β} {g : α → Toolkit → Scope → Except MissingDivergent β}
    {l : List α} (hf : ∀ a ∈ l, AppendOnly (f a))
    (hg : ∀ a ∈ l, ∀ tools scope, (f a).yield tools scope = (·, []) <$> g a tools scope)
    (tools : Toolkit) (scope : Scope) :
    (l.mapM f).yield tools scope = (·, []) <$> l.mapM fun a => g a tools scope := by
  induction l with
  | nil => rfl
  | cons a rest ih =>
      rw [List.forall_mem_cons] at hf hg
      rw [List.mapM_cons, List.mapM_cons,
        yield_bind hf.1 fun _ => (appendOnly_mapM hf.2).bind fun _ => appendOnly_pure _, hg.1,
        bind_map_left, map_bind]
      congr 1
      funext b
      simp only [yield_bind (appendOnly_mapM hf.2) fun _ => appendOnly_pure _, ih hf.2 hg.2,
        bind_map_left, map_bind, yield_pure, bind_assoc, pure_bind, map_pure, List.nil_append]

end Build

end DocPages
