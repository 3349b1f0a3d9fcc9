import ApiTypings.TypeScript.Identifier

/-!
# Declaration names

Every component schema gets a name of its own. A name that is taken already is
followed by the least number that makes it new.
-/

namespace ApiTypings
namespace Component

/-- The name of the declaration of all paths. -/
def pathsName : String := "paths"

/-- A name that is not taken: the wanted one, or the wanted one with the least
number from one on. Among as many numbers as there are taken names, and one
more, one is free. -/
def freshName (taken : List String) (wanted : String) : String :=
  if taken.contains wanted then
    let numbered := (List.range (taken.length + 1)).map fun n => wanted ++ toString (n + 1)
    (numbered.find? fun name => !taken.contains name).getD wanted
  else wanted

/-- The names of components in order, given the names taken before. -/
def assignNames (taken : List String) : List String → List (String × String)
  | [] => []
  | name :: rest =>
      let fresh := freshName taken (TypeScript.declarableName name)
      (name, fresh) :: assignNames (fresh :: taken) rest

end Component
end ApiTypings
