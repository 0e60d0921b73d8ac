namespace DocPages

inductive Json where
  | null
  | bool (value : Bool)
  | number (value : Int)
  | string (value : String)
  | array (elements : List Json)
  | object (members : List (String × Json))
deriving Inhabited

namespace Json

/-- A text, or null in its absence. -/
def ofOption : Option String → Json
  | none => null
  | some value => string value

end Json

end DocPages
