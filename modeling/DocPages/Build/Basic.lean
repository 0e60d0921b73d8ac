import DocPages.Build.Params
import DocPages.Content.Node
import DocPages.DocTag.Content
import DocPages.Documentable

/-!
Building content in scopes.

A `Build` action works inside one scope: it reads the values of the scope and appends nodes to
what has been built there. `Run.inScope` opens a scope for an action and closes it into a group.
Scopes nest, and nothing but the values they are opened with passes from one to the next.
-/

namespace DocPages

variable [PropertyFamily]

/-- A divergent instance of these entities was given nothing that diverges. -/
structure MissingDivergent where
  dris : DriSet
deriving DecidableEq

def MissingDivergent.message (error : MissingDivergent) : String :=
  "divergent instance for [" ++ ", ".intercalate (error.dris.toList.map Dri.display) ++
    "] was built without divergent content"

/-- What operations hand back to the author of a program while it runs. -/
inductive Observation where
  | scope (scope : Scope)
  | signature (node : Node)
  | group (group : Group)
  | divergentInstance (outcome : Except MissingDivergent Unit)

/-- What all scopes share: how comments and signatures become content, and what stands between the
elements of a list unless it is given there. -/
structure Toolkit where
  comment : DocTag → Identity → PlatformSet → List Node
  signature : Documentable → Node
  listSeparator : String

/-- The values of a scope and the nodes appended to it so far. -/
structure Draft where
  scope : Scope
  nodes : List Node := []

/-- A computation with the shared tools that records what it hands back, and that ends for good
when a required divergent part is missing. -/
abbrev Run := ReaderT Toolkit (StateT (List Observation) (Except MissingDivergent))

/-- A computation inside a scope. -/
abbrev Build := StateT Draft Run

namespace Run

def observe (observation : Observation) : Run Unit := modify (· ++ [observation])

/-- Opens a scope, runs the body in it, and makes a group of what it appended. -/
def inScope (attrs : Attrs) (body : Build Unit) : Run Group := do
  let ((), draft) ← StateT.run body { scope := attrs.toScope }
  return ⟨draft.nodes, { toScope := draft.scope, kind := attrs.kind }⟩

/-- Builds the content for some entities; what `params` sets comes first. -/
def contentFor (dris : DriSet) (platforms : PlatformSet) (params : Params) (body : Build Unit) :
    Run Group :=
  inScope (params.resolve { dris, platforms } .main) body

def contentForDri (dri : Dri) (platforms : PlatformSet) (body : Build Unit) : Run Group :=
  contentFor (Keyed.singleton dri) platforms {} body

def contentForDocumentable (documentable : Documentable) (params : Params) (body : Build Unit) :
    Run Group :=
  contentFor (Keyed.singleton documentable.dri) documentable.platforms params body

/-- The outcome of a computation together with all that it handed back. -/
def outcome {α : Type} (run : Run α) (tools : Toolkit) :
    Except MissingDivergent (α × List Observation) :=
  (ReaderT.run run tools).run []

end Run

namespace Build

/-- The values of the scope. -/
def defaults : Build Scope := return (← get).scope

def resolve (params : Params) (kind : Kind) : Build Attrs := return params.resolve (← defaults) kind

def extend (nodes : List Node) : Build Unit :=
  modify fun draft => { draft with nodes := draft.nodes ++ nodes }

def push (node : Node) : Build Unit := extend [node]

/-- A group built in a nested scope and not appended. -/
def nested (params : Params) (kind : Kind) (body : Build Unit) : Build Group := do
  Run.inScope (← resolve params kind) body

end Build

end DocPages
