import ApiTypings.Yaml.Token

/-!
# Nodes

A document as a tree of scalars, sequences and mappings. Aliases are replaced by
the nodes that they name, and merged mappings by their entries.
-/

namespace ApiTypings
namespace Yaml

/-- A node of a document. -/
inductive Node
  | scalar (kind : Kind) (content : String)
  | sequence (items : List Node)
  | mapping (entries : List (Node × Node))
  deriving Inhabited

/-- What stands for a value that is left out. -/
def Node.absent : Node := .scalar .null ""

/-- The tags of the standard, by the names that follow its address. -/
def standardAddress : String := "tag:yaml.org,2002:"

/-- The kind of scalars of a tag. -/
def Kind.ofTag? (tag : String) : Option Kind :=
  [("null", Kind.null), ("bool", .bool), ("int", .int), ("float", .float),
    ("timestamp", .moment), ("str", .text)].findSome? fun entry =>
      if tag == standardAddress ++ entry.1 then some entry.2 else none

/-- The properties of a node. -/
structure Properties where
  anchor : Option String := none
  tag : Option String := none
  deriving DecidableEq, Repr

namespace Properties

/-- Whether the tag leaves the kind of the node open. -/
def isOpen (properties : Properties) : Bool :=
  properties.tag.isNone || properties.tag == some "!"

/-- The scalar with the given content. -/
def scalar (properties : Properties) (content : String) (isPlain : Bool) : Except Fault Node :=
  match properties.tag with
  | some "!" => .ok (.scalar (.ofPlain content.toList) content)
  | some tag =>
      match Kind.ofTag? tag with
      | some kind => .ok (.scalar kind content)
      | none => .error .malformed
  | none => .ok (.scalar (if isPlain then .ofPlain content.toList else .text) content)

/-- The collection with the given content, unless its tag names another kind. -/
def collection (properties : Properties) (name : String) (node : Node) : Except Fault Node :=
  if properties.isOpen || properties.tag == some (standardAddress ++ name) then .ok node
  else .error .malformed

end Properties

/-- The entries that are merged under a key: those of a mapping, or those of the
mappings of a sequence, the last one first. -/
def mergedEntries : Node → Except Fault (List (Node × Node))
  | .mapping entries => .ok entries
  | .sequence items => do
      let parts ← items.mapM fun
        | .mapping entries => .ok entries
        | _ => .error .malformed
      return parts.reverse.flatten
  | .scalar .. => .error .malformed

/-- The mapping with the given entries. Entries that are merged stand before the
others, so that the others count. -/
def Node.ofEntries (entries : List (Node × Node)) : Except Fault Node := do
  let isMerge : Node → Bool
    | .scalar .merge _ => true
    | _ => false
  let merged ← (entries.filter fun entry => isMerge entry.1).mapM fun entry =>
    mergedEntries entry.2
  let own := (entries.filter fun entry => !isMerge entry.1).map fun
    | (.scalar .default content, value) => (.scalar .text content, value)
    | entry => entry
  return .mapping (merged.flatten ++ own)

/-- What is left of the tokens, and what was defined before them. -/
structure Remainder where
  tokens : List Token
  anchors : List (String × Node) := []
  handles : List (String × String) := []

/-- What was read, and the remainder. -/
abbrev Parsed (α : Type) := Except Fault (α × Remainder)

namespace Remainder

/-- The next token. -/
def head? (remainder : Remainder) : Option Token :=
  remainder.tokens.head?

/-- What follows the next token. -/
def tail (remainder : Remainder) : Remainder :=
  { remainder with tokens := remainder.tokens.tail }

/-- Whether one of the given tokens is next. -/
def isNext (remainder : Remainder) (expected : List Token) : Bool :=
  match remainder.head? with
  | some token => expected.contains token
  | none => false

/-- The full address of a tag. -/
def tagText (remainder : Remainder) (tag : Tag) : Except Fault String :=
  match tag.handle with
  | none => .ok tag.address
  | some handle =>
      match remainder.handles.lookup handle with
      | some start => .ok (start ++ tag.address)
      | none => .error .malformed

/-- The properties of the next node: an anchor and a tag in either order. -/
def properties (remainder : Remainder) : Except Fault (Properties × Remainder) :=
  match remainder.tokens with
  | .anchor anchor :: .tag tag :: rest | .tag tag :: .anchor anchor :: rest => do
      return (⟨some anchor, some (← remainder.tagText tag)⟩, { remainder with tokens := rest })
  | .anchor anchor :: rest => .ok (⟨some anchor, none⟩, { remainder with tokens := rest })
  | .tag tag :: rest => do
      return (⟨none, some (← remainder.tagText tag)⟩, { remainder with tokens := rest })
  | _ => .ok ({}, remainder)

/-- The node that an alias names. -/
def named (remainder : Remainder) (name : String) : Except Fault Node :=
  match remainder.anchors.lookup name with
  | some node => .ok node
  | none => .error .malformed

/-- Give a node the name of its anchor, which must be new. -/
def define (remainder : Remainder) (properties : Properties) (node : Node) : Parsed Node :=
  match properties.anchor with
  | none => .ok (node, remainder)
  | some name =>
      if (remainder.anchors.lookup name).isSome then .error .malformed
      else .ok (node, { remainder with anchors := (name, node) :: remainder.anchors })

end Remainder

/-- Where a node stands. -/
inductive Position
  /-- In a flow collection. -/
  | flow
  /-- In a block. -/
  | block
  /-- After a key of a block mapping, where a sequence needs no indentation. -/
  | entry
  deriving DecidableEq, Repr

/-- A node that has properties and nothing else. -/
def absent (properties : Properties) (here : Remainder) : Parsed Node :=
  if properties.anchor.isSome || properties.tag.isSome then
    (properties.scalar "" properties.isOpen).map (·, here)
  else .error .malformed

/-- Whether a flow collection ends, and what follows its closing bracket or the
comma before its next part. The first part has no comma before it. -/
def separated (closing : Token) (isFirst : Bool) (here : Remainder) : Parsed Bool :=
  if here.isNext [closing] then .ok (true, here.tail)
  else if isFirst then .ok (false, here)
  else if here.isNext [.flowEntry] then
    if here.tail.isNext [closing] then .ok (true, here.tail.tail) else .ok (false, here.tail)
  else .error .malformed

mutual

/-- The node that comes next. -/
def node (fuel : Nat) (position : Position) (start : Remainder) : Parsed Node :=
  match fuel with
  | 0 => .error .malformed
  | fuel + 1 =>
      match start.head? with
      | some (.alias name) => (start.named name).map fun found => (found, start.tail)
      | _ =>
          match start.properties with
          | .error fault => .error fault
          | .ok (properties, here) =>
              match content fuel position properties here with
              | .error fault => .error fault
              | .ok (found, rest) => rest.define properties found

/-- The content of a node after its properties. -/
def content (fuel : Nat) (position : Position) (properties : Properties) (here : Remainder) :
    Parsed Node :=
  match fuel with
  | 0 => .error .malformed
  | fuel + 1 =>
      let collected (name : String) (result : Parsed Node) : Parsed Node :=
        match result with
        | .error fault => .error fault
        | .ok (found, rest) => (properties.collection name found).map (·, rest)
      let inBlock := position != .flow
      match here.head? with
      | some .blockEntry =>
          if position == .entry then collected "seq" (looseItems fuel [] here)
          else absent properties here
      | some (.scalar text isPlain) => (properties.scalar text isPlain).map (·, here.tail)
      | some .openSequence => collected "seq" (flowItems fuel [] here.tail)
      | some .openMapping => collected "map" (flowEntries fuel [] here.tail)
      | some .blockSequence =>
          if inBlock then collected "seq" (blockItems fuel [] here.tail)
          else absent properties here
      | some .blockMapping =>
          if inBlock then collected "map" (blockEntries fuel [] here.tail)
          else absent properties here
      | _ => absent properties here

/-- The node that comes next, or what stands for one if one of the given tokens
is next. -/
def nodeUnless
    (fuel : Nat)
    (position : Position)
    (ends : List Token)
    (start : Remainder) :
    Parsed Node :=
  match fuel with
  | 0 => .error .malformed
  | fuel + 1 =>
      if start.isNext ends then .ok (.absent, start) else node fuel position start

/-- The items of a block sequence; `read` holds those before in reverse. -/
def blockItems (fuel : Nat) (read : List Node) (here : Remainder) : Parsed Node :=
  match fuel with
  | 0 => .error .malformed
  | fuel + 1 =>
      match here.head? with
      | some .blockEntry =>
          match nodeUnless fuel .block [.blockEntry, .blockEnd] here.tail with
          | .error fault => .error fault
          | .ok (item, rest) => blockItems fuel (item :: read) rest
      | some .blockEnd => .ok (.sequence read.reverse, here.tail)
      | _ => .error .malformed

/-- The items of a sequence without indentation of its own. -/
def looseItems (fuel : Nat) (read : List Node) (here : Remainder) : Parsed Node :=
  match fuel with
  | 0 => .error .malformed
  | fuel + 1 =>
      match here.head? with
      | some .blockEntry =>
          match nodeUnless fuel .block [.blockEntry, .key, .value, .blockEnd] here.tail with
          | .error fault => .error fault
          | .ok (item, rest) => looseItems fuel (item :: read) rest
      | _ => .ok (.sequence read.reverse, here)

/-- The value of an entry, if its colon comes next. -/
def entryValue
    (fuel : Nat)
    (position : Position)
    (ends : List Token)
    (here : Remainder) :
    Parsed Node :=
  match fuel with
  | 0 => .error .malformed
  | fuel + 1 =>
      match here.head? with
      | some .value => nodeUnless fuel position ends here.tail
      | _ => .ok (.absent, here)

/-- The entries of a block mapping. -/
def blockEntries (fuel : Nat) (read : List (Node × Node)) (here : Remainder) : Parsed Node :=
  match fuel with
  | 0 => .error .malformed
  | fuel + 1 =>
      let ends : List Token := [.key, .value, .blockEnd]
      match here.head? with
      | some .key =>
          match nodeUnless fuel .entry ends here.tail with
          | .error fault => .error fault
          | .ok (key, afterKey) =>
              match entryValue fuel .entry ends afterKey with
              | .error fault => .error fault
              | .ok (value, rest) => blockEntries fuel ((key, value) :: read) rest
      | some .blockEnd => (Node.ofEntries read.reverse).map (·, here.tail)
      | _ => .error .malformed

/-- The items of a flow sequence. An item may be an entry, which stands for a
mapping of its own. -/
def flowItems (fuel : Nat) (read : List Node) (here : Remainder) : Parsed Node :=
  match fuel with
  | 0 => .error .malformed
  | fuel + 1 =>
      match separated .closeSequence read.isEmpty here with
      | .error fault => .error fault
      | .ok (true, rest) => .ok (.sequence read.reverse, rest)
      | .ok (false, start) =>
          let ends : List Token := [.flowEntry, .closeSequence]
          match start.head? with
          | some .key =>
              match nodeUnless fuel .flow (.value :: ends) start.tail with
              | .error fault => .error fault
              | .ok (key, afterKey) =>
                  match entryValue fuel .flow ends afterKey with
                  | .error fault => .error fault
                  | .ok (value, rest) =>
                      match Node.ofEntries [(key, value)] with
                      | .error fault => .error fault
                      | .ok item => flowItems fuel (item :: read) rest
          | _ =>
              match node fuel .flow start with
              | .error fault => .error fault
              | .ok (item, rest) => flowItems fuel (item :: read) rest

/-- The entries of a flow mapping. -/
def flowEntries (fuel : Nat) (read : List (Node × Node)) (here : Remainder) : Parsed Node :=
  match fuel with
  | 0 => .error .malformed
  | fuel + 1 =>
      match separated .closeMapping read.isEmpty here with
      | .error fault => .error fault
      | .ok (true, rest) => (Node.ofEntries read.reverse).map (·, rest)
      | .ok (false, start) =>
          let ends : List Token := [.flowEntry, .closeMapping]
          match start.head? with
          | some .key =>
              match nodeUnless fuel .flow (.value :: ends) start.tail with
              | .error fault => .error fault
              | .ok (key, afterKey) =>
                  match entryValue fuel .flow ends afterKey with
                  | .error fault => .error fault
                  | .ok (value, rest) => flowEntries fuel ((key, value) :: read) rest
          | _ =>
              match node fuel .flow start with
              | .error fault => .error fault
              | .ok (key, rest) => flowEntries fuel ((key, .absent) :: read) rest

end

/-- The directives of a document: the handles that they define. -/
def directives (version : Bool) (handles : List (String × String)) :
    List Token → Except Fault (List (String × String) × List Token)
  | .directive (.version major) :: rest =>
      if version || major != 1 then .error .malformed else directives true handles rest
  | .directive (.handle name start) :: rest =>
      if (handles.lookup name).isSome then .error .malformed
      else directives version ((name, start) :: handles) rest
  | .directive .other :: rest => directives version handles rest
  | rest => .ok (handles, rest)

/-- The handles that every document has. -/
def standardHandles : List (String × String) := [("!", "!"), ("!!", standardAddress)]

/-- Nothing but marks of an end may follow a document. -/
def ensureEnd (rest : List Token) : Except Fault Unit :=
  if rest.all (· == .documentEnd) then .ok () else .error .malformed

/-- The node of a document and its end. -/
def documentNode (handles : List (String × String)) (tokens : List Token) : Except Fault Node := do
  let (found, rest) ← node (2 * tokens.length + 8) .block ⟨tokens, [], handles⟩
  ensureEnd rest.tokens
  return found

/-- The only document of a text. -/
def document (tokens : List Token) : Except Fault (Option Node) :=
  match tokens with
  | [] => .ok none
  | .directive _ :: _ | .documentStart :: _ => do
      let (handles, rest) ← directives false [] tokens
      match rest with
      | .documentStart :: body =>
          match body with
          | [] | .directive _ :: _ | .documentStart :: _ | .documentEnd :: _ =>
              ensureEnd body
              return some .absent
          | _ => return some (← documentNode (handles ++ standardHandles) body)
      | _ => throw .malformed
  | _ => (documentNode standardHandles tokens).map some

end Yaml
end ApiTypings
