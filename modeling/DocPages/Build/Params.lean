import DocPages.Content.Attrs

namespace DocPages

variable [PropertyFamily]

/-- The values that an operation is given explicitly. -/
@[ext]
structure Params where
  dris : Option DriSet := none
  platforms : Option PlatformSet := none
  kind : Option Kind := none
  styles : Option StyleSet := none
  extra : Option Properties := none
deriving DecidableEq, Inhabited

namespace Params

def ofDri (dri : Dri) : Params := { dris := some (Keyed.singleton dri) }

def ofPlatform (platform : PlatformData) : Params :=
  { platforms := some (Keyed.singleton platform) }

/-- The attributes of what an operation makes: each field as given, or else as in the scope; the
role as given, or else the one that the operation itself gives. -/
def resolve (params : Params) (scope : Scope) (kind : Kind) : Attrs where
  dris := params.dris.getD scope.dris
  platforms := params.platforms.getD scope.platforms
  styles := params.styles.getD scope.styles
  extra := params.extra.getD scope.extra
  kind := params.kind.getD kind

@[simp] theorem resolve_empty (scope : Scope) (kind : Kind) :
    ({} : Params).resolve scope kind = { toScope := scope, kind } := rfl

end Params

end DocPages
