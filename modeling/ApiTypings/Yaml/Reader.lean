import ApiTypings.Yaml.Node

/-!
# Reading YAML

The value of a document. Keys of mappings must be scalars.
-/

namespace ApiTypings
namespace Yaml

mutual

/-- The value of a node. -/
def Node.value : Node → Except Fault Value
  | .scalar kind content => kind.value content
  | .sequence items => (Node.values items).map .list
  | .mapping entries => (Node.pairs entries).map .ofEntries

/-- The values of nodes in order. -/
def Node.values : List Node → Except Fault (List Value)
  | [] => .ok []
  | item :: rest => do
      let first ← item.value
      return first :: (← Node.values rest)

/-- The keys and values of entries in order. -/
def Node.pairs : List (Node × Node) → Except Fault (List (Key × Value))
  | [] => .ok []
  | (key, value) :: rest => do
      match (← key.value).key? with
      | none => throw .malformed
      | some name =>
          let first ← value.value
          return (name, first) :: (← Node.pairs rest)

end

/-- The value of a text; a text without a document is null. -/
def read (text : List Char) : Except Fault Value := do
  match ← document (← tokens text) with
  | none => return .null
  | some node => node.value

end Yaml
end ApiTypings
