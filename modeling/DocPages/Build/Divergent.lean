import DocPages.Build.Basic

namespace DocPages

variable [PropertyFamily]

/-- The places of an instance. -/
inductive Slot where
  | before
  | divergent
  | after
deriving DecidableEq, Inhabited, Repr

/-- Fills a slot with what a body `β` builds. -/
structure SlotWrite (β : Type) where
  slot : Slot
  params : Params := {}
  body : β

/-- Asks for one instance. If it is required, the whole run ends when its divergent slot stays
empty; otherwise the instance is left out then. -/
structure InstanceCall (β : Type) where
  required : Bool
  dris : DriSet
  platforms : PlatformSet
  params : Params := {}
  writes : List (SlotWrite β)

/-- The slots of an instance as far as they are filled. -/
structure Slots where
  before : Option Group := none
  divergent : Option Group := none
  after : Option Group := none

namespace Slots

/-- Fills a slot, in the stead of what it held. -/
def fill (slots : Slots) (slot : Slot) (group : Group) : Slots :=
  match slot with
  | .before => { slots with before := some group }
  | .divergent => { slots with divergent := some group }
  | .after => { slots with after := some group }

def toInstance (slots : Slots) (attrs : Attrs) : Except MissingDivergent Instance :=
  match slots.divergent with
  | some divergent => .ok ⟨slots.before, divergent, slots.after, attrs⟩
  | none => .error ⟨attrs.dris⟩

end Slots

namespace InstanceCall

/-- The attributes of the instance inside a group of the given ones. -/
def attrs {β : Type} (call : InstanceCall β) (group : Attrs) : Attrs :=
  { call.params with dris := some call.dris, platforms := some call.platforms }.resolve
    group.toScope group.kind

/-- Runs all writes of a call in order and gathers the instance. -/
def gather (call : InstanceCall (Build Unit)) (group : Attrs) :
    Run (Except MissingDivergent Instance) := do
  let own := call.attrs group
  let slots ← call.writes.foldlM (fun (slots : Slots) write => do
    let content ← Run.inScope (write.params.resolve own.toScope .main) write.body
    return slots.fill write.slot content) {}
  return slots.toInstance own

/-- The instance of a call, if there is one. -/
def instance? (call : InstanceCall (Build Unit)) (group : Attrs) : Run (Option Instance) := do
  let result ← call.gather group
  match result with
  | .ok variant => do
      unless call.required do Run.observe (.divergentInstance (.ok ()))
      return some variant
  | .error missing => do
      if call.required then throw missing
      Run.observe (.divergentInstance (.error missing))
      return none

/-- The instances of several calls, made in order. -/
def instances (group : Attrs) : List (InstanceCall (Build Unit)) → Run (List Instance)
  | [] => pure []
  | call :: rest => do
      let found ← call.instance? group
      return found.toList ++ (← instances group rest)

end InstanceCall

/-- All platforms of some instances. -/
def platformsOf (instances : List Instance) : PlatformSet :=
  Keyed.ofList (instances.flatMap fun variant => variant.attrs.platforms.toList)

namespace Build

/-- A group of the instances asked for. Its platforms are those of its instances. -/
def divergentGroup (params : Params) (calls : List (InstanceCall (Build Unit))) : Build Unit := do
  let attrs ← resolve params .main
  let instances ← InstanceCall.instances attrs calls
  push (.divergentGroup instances { attrs with platforms := platformsOf instances })

end Build

end DocPages
