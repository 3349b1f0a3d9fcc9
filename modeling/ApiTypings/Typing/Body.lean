import ApiTypings.Document.SchemaKind
import ApiTypings.TypeScript.Comment
import ApiTypings.TypeScript.TypeExpr
import ApiTypings.Typing.Site

/-!
# Object bodies

What a schema says about the members of an object. Branches that all describe
objects are merged into one body: the last type of a property wins at its first
place, required names add up, and the last word on further keys counts.
-/

namespace ApiTypings
namespace Typing

open Component Document TypeScript

/-- The comment on a schema or a reference. -/
def describe (options : Options) : Node → Except Json.WriteError (List String)
  | .reference reference =>
      if options.includeDescriptions then (Remark.about reference.description).lines
      else .ok []
  | .inline schema =>
      let described := options.includeDescriptions
      let remark : Remark :=
        { Remark.about (if described then schema.description else none) with
          tags := if described && schema.deprecated then [.text "@deprecated"] else []
          example? := if options.includeExamples then schema.sample else none }
      remark.lines

/-- The members of an object. -/
structure Body where
  properties : List (String × Site)
  required : List String
  additional : Option (Additional Site)

namespace Body

/-- What a schema itself says about the members of an object. -/
def ofSchema (stack : List Pointer) (schema : Schema) : Body :=
  { properties := (schema.properties.getD []).map fun entry => (entry.1, ⟨stack, entry.2⟩)
    required := schema.required
    additional := schema.additional.map fun
      | .allowed flag => .allowed flag
      | .typed node => .typed ⟨stack, node⟩ }

/-- One body for several. -/
def merge (bodies : List Body) : Body :=
  { properties := Entries.ofPairs (bodies.flatMap Body.properties)
    required := bodies.flatMap Body.required
    additional := (bodies.filterMap Body.additional).getLast? }

/-- Where the types of the members stand. -/
inductive Mentions (body : Body) (site : Site) : Prop
  | property (name : String) (member : (name, site) ∈ body.properties)
  | additional (given : body.additional = some (.typed site))

/-- The type of further keys. -/
def index
    (options : Options)
    (body : Body)
    (typeOf : (site : Site) → body.Mentions site → Traced TypeExpr) :
    Traced (Option TypeExpr) :=
  match given : body.additional with
  | none => .done (if options.additionalProperties then some .unknown else none)
  | some (.allowed flag) => .done (if flag then some .unknown else none)
  | some (.typed site) => (typeOf site (.additional given)).andThen fun type => .done (some type)

/-- The keyword for the values of an object without members. -/
def emptyValue (body : Body) : Keyword :=
  match body.additional with
  | some (.allowed false) => .never
  | _ => .unknown

/-- The type of a body, given the types of its members. -/
def type
    (options : Options)
    (body : Body)
    (typeOf : (site : Site) → body.Mentions site → Traced TypeExpr) :
    Traced TypeExpr := do
  let members ← Traced.sequence <| body.properties.attach.map fun ⟨entry, member⟩ => do
    let comment ← Traced.ofWritten (describe options entry.2.node)
    let type ← typeOf entry.2 (.property entry.1 member)
    return {
      key := .quoted entry.1
      type := type
      optional := !body.required.contains entry.1
      readonly := options.immutable
      comment := comment : Member TypeExpr }
  let further ← body.index options typeOf
  let signature := further.toList.map fun type =>
    { key := .anyKey, type := type, readonly := options.immutable : Member TypeExpr }
  return .objectOr body.emptyValue (members ++ signature)

/-- What the body of a schema mentions is below the schema. -/
theorem below_of_mentions
    {scope : Scope}
    {stack : List Pointer}
    {schema : Schema}
    {site : Site}
    (within : Site.Within scope ⟨stack, .inline schema⟩)
    (mentioned : (ofSchema stack schema).Mentions site) :
    site.Below scope ⟨stack, .inline schema⟩ := by
  cases mentioned with
  | property name member =>
      simp only [ofSchema, List.mem_map, Prod.mk.injEq, Prod.exists] at member
      obtain ⟨_, node, given, rfl, rfl⟩ := member
      exact .of_part within (Schema.mem_parts_of_property given)
  | additional given =>
      cases stated : schema.additional with
      | none => simp [ofSchema, stated] at given
      | some further =>
          cases further with
          | allowed flag => simp [ofSchema, stated] at given
          | typed node =>
              simp only [ofSchema, stated, Option.map_some, Option.some.injEq,
                Additional.typed.injEq] at given
              rw [← given]
              exact .of_part within (Schema.mem_parts_of_additional stated)

/-- What a merged body mentions is mentioned by one of its parts. -/
theorem mentions_of_merge
    {bodies : List Body}
    {site : Site}
    (mentioned : (merge bodies).Mentions site) :
    ∃ body ∈ bodies, body.Mentions site := by
  cases mentioned with
  | property name member =>
      obtain ⟨body, listed, given⟩ := List.mem_flatMap.mp (Entries.mem_of_mem_ofPairs member)
      exact ⟨body, listed, .property name given⟩
  | additional given =>
      have member := List.mem_of_getLast? given
      obtain ⟨body, listed, stated⟩ := List.mem_filterMap.mp member
      exact ⟨body, listed, .additional stated⟩

end Body

end Typing
end ApiTypings
