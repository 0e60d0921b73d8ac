namespace DocPages

variable {α κ : Type} [DecidableEq κ]

/-- Adds an element to the group of its key, or to the end as a group of its own. -/
def addToGroup (key : α → κ) (a : α) : List (κ × List α) → List (κ × List α)
  | [] => [(key a, [a])]
  | (k, group) :: rest =>
      if k = key a then (k, group ++ [a]) :: rest else (k, group) :: addToGroup key a rest

/-- The groups of a list together with their keys. -/
def keyedGroups (key : α → κ) (elements : List α) : List (κ × List α) :=
  elements.foldl (fun groups a => addToGroup key a groups) []

def groupsBy (key : α → κ) (elements : List α) : List (List α) :=
  (keyedGroups key elements).map Prod.snd

@[simp] theorem groupsBy_nil (key : α → κ) : groupsBy key [] = [] := rfl

end DocPages
