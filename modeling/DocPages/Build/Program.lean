import DocPages.Build.Divergent
import DocPages.Build.Operations

namespace DocPages

variable [PropertyFamily]

/-- One operation of a scope with all that it is given. -/
inductive Step where
  | text (s : String) (params : Params)
  | header (level : UInt8) (params : Params) (body : List Step)
  | linkTable (dris : List Dri) (params : Params)
  /-- A table; its operation runs a body and then builds the rows, each in a nested scope. -/
  | table (params : Params) (body : List Step) (rows : List (Params × List Step))
  | block (name : String) (level : UInt8) (params : Params) (renderWhenEmpty : Bool)
      (elements : List (Documentable × List Step))
  | list (framing : Framing) (params : Params) (bodies : List (List Step))
  | listDefault (bodies : List (List Step))
  | link (s : String) (address : Dri) (params : Params)
  | linkContent (address : Dri) (params : Params) (body : List Step)
  | resolvedLink (s : String) (address : String) (params : Params)
  | comment (tag : DocTag) (params : Params)
  | group (params : Params) (body : List Step)
  /-- A group that is handed back, and appended only if asked for. -/
  | buildGroup (params : Params) (body : List Step) (append : Bool)
  | hint (params : Params) (body : List Step)
  | hintFor (dri : Dri) (body : List Step)
  | platformText (values : PlatformDependent String) (platforms : PlatformSet)
      (transform : String → String)
  | platformTextAll (values : PlatformDependent String) (transform : String → String)
  | extend (nodes : List Node)
  /-- A signature that is appended. -/
  | signature (documentable : Documentable)
  /-- A signature that is handed back. -/
  | askSignature (documentable : Documentable)
  /-- The content for some entities, built apart from the scope and then appended. -/
  | contentFor (dris : DriSet) (platforms : PlatformSet) (params : Params) (body : List Step)
  | askDefaults
  | divergentGroup (params : Params) (calls : List (InstanceCall (List Step)))

namespace Step

mutual

def run : Step → Build Unit
  | text s params => Build.text s params
  | header level params body => Build.header level params (runAll body)
  | linkTable dris params => Build.linkTable dris params
  | table params body rows =>
      Build.table params do
        runAll body
        runRows rows
  | block name level params renderWhenEmpty elements =>
      Build.block name level params renderWhenEmpty (runElements elements)
  | list framing params bodies => Build.list (runEach bodies) framing params id
  | listDefault bodies => Build.listDefault (runEach bodies) id
  | link s address params => Build.link s address params
  | linkContent address params body => Build.linkContent address params (runAll body)
  | resolvedLink s address params => Build.resolvedLink s address params
  | comment tag params => Build.comment tag params
  | group params body => Build.group params (runAll body)
  | buildGroup params body append => do
      let g ← Build.buildGroup params (runAll body)
      Run.observe (.group g)
      if append then Build.push (.group g) else pure ()
  | hint params body => Build.hint params (runAll body)
  | hintFor dri body => Build.hintFor dri (runAll body)
  | platformText values platforms transform => Build.platformText values platforms transform
  | platformTextAll values transform => Build.platformTextAll values transform
  | extend nodes => Build.extend nodes
  | signature documentable => do
      Build.push (← Build.signature documentable)
  | askSignature documentable => do
      Run.observe (.signature (← Build.signature documentable))
  | contentFor dris platforms params body => do
      let g ← Run.contentFor dris platforms params (runAll body)
      Build.push (.group g)
  | askDefaults => do
      Run.observe (.scope (← Build.defaults))
  | divergentGroup params calls => Build.divergentGroup params (runCalls calls)

/-- Runs the steps of a program in order. -/
def runAll : List Step → Build Unit
  | [] => pure ()
  | step :: rest => do
      step.run
      runAll rest

def runEach : List (List Step) → List (Build Unit)
  | [] => []
  | body :: rest => runAll body :: runEach rest

def runRows : List (Params × List Step) → Build (List Group)
  | [] => pure []
  | (params, body) :: rest => do
      let row ← Build.buildGroup params (runAll body)
      return row :: (← runRows rest)

def runElements : List (Documentable × List Step) → List (Documentable × Build Unit)
  | [] => []
  | (documentable, body) :: rest => (documentable, runAll body) :: runElements rest

def runCalls : List (InstanceCall (List Step)) → List (InstanceCall (Build Unit))
  | [] => []
  | ⟨required, dris, platforms, params, writes⟩ :: rest =>
      ⟨required, dris, platforms, params, runWrites writes⟩ :: runCalls rest

def runWrites : List (SlotWrite (List Step)) → List (SlotWrite (Build Unit))
  | [] => []
  | ⟨slot, params, body⟩ :: rest => ⟨slot, params, runAll body⟩ :: runWrites rest

end

end Step

end DocPages
