import ApiTypings.Proofs.TypeScript.Building
import ApiTypings.Proofs.Typing.Cases

/-!
# What a site denotes

The rules by which a tree is assigned to a site, as a relation. It is read off the
schema alone: there is no text and no comment in it, and nothing that fails.
-/

namespace ApiTypings
namespace TypeScript

/-- The tree of a scalar value; lists, mappings and dates have none. -/
def Tree.ofScalar? : Value → Option Tree
  | .null => some .null
  | .bool flag => some (Literal.bool flag).tree
  | .int number => some (Literal.int number).tree
  | .float number => some (Literal.float number).tree
  | .text content => some (Literal.text content).tree
  | .moment _ | .list _ | .mapping _ | .keyed _ => none

/-- The union of the trees of values; nothing is known unless all have one. -/
def Tree.ofValues (values : List Value) : Tree :=
  match values.mapM Tree.ofScalar? with
  | some trees => .unionOf trees
  | none => .unknown

end TypeScript

namespace Typing

open Component Document TypeScript

/-- The tree of further keys of a body, if there are any. -/
def Body.further (options : Options) (body : Body) (trees : Site → Tree) : Option Tree :=
  match body.additional with
  | none => if options.additionalProperties then some .unknown else none
  | some (.allowed flag) => if flag then some .unknown else none
  | some (.typed site) => some (trees site)

/-- The fields of a body: its properties in order, and the signature of further
keys. -/
def Body.fields (options : Options) (body : Body) (trees : Site → Tree) : List (TypeScript.Field Tree) :=
  (body.properties.map fun entry =>
    ⟨.quoted entry.1, trees entry.2, !body.required.contains entry.1, options.immutable⟩) ++
  (body.further options trees).toList.map fun tree =>
    ⟨.anyKey, tree, false, options.immutable⟩

theorem Body.fields_congr
    (options : Options)
    {body : Body}
    {trees others : Site → Tree}
    (agree : ∀ site, body.Mentions site → trees site = others site) :
    body.fields options trees = body.fields options others := by
  have further : body.further options trees = body.further options others := by
    unfold Body.further
    split
    · rfl
    · rfl
    · rename_i given
      rw [agree _ (.additional given)]
  unfold Body.fields
  rw [further]
  congr 1
  refine List.map_congr_left ?_
  intro entry listed
  rw [agree entry.2 (.property entry.1 listed)]

/-- What denotes a tree: a site, a node that may be missing, a body, and a schema
with what it is made of. -/
inductive Subject
  | site (site : Site)
  | optional (stack : List Pointer) (node : Option Node)
  | body (body : Body)
  | form (stack : List Pointer) (schema : Schema) (form : Form)
  | clause (stack : List Pointer) (schema : Schema) (clause : Clause)
  | core (stack : List Pointer) (schema : Schema)

/-- The bodies from which the branches of `allOf` can be merged. -/
abbrev Context.merging
    (context : Context)
    (stack : List Pointer)
    (schema : Schema)
    (branches : List Node) :
    Bodies :=
  mergedBodies stack schema branches fun node _ => bodiesOf context ⟨stack, node⟩

/-- The rules by which a subject denotes a tree. -/
inductive Denotes (context : Context) : Subject → Tree → Prop
  -- A reference denotes the declaration it leads to, or what a parameter denotes.
  | named
      {stack : List Pointer}
      {reference : Reference}
      {name : String}
      (referred : context.refer stack reference.target = .ok (.named name)) :
      Denotes context (.site ⟨stack, .reference reference⟩) (.name name)
  | unexpanded
      {stack : List Pointer}
      {reference : Reference}
      (referred : context.refer stack reference.target = .ok .unknown) :
      Denotes context (.site ⟨stack, .reference reference⟩) .unknown
  | inlined
      {stack : List Pointer}
      {reference : Reference}
      {inner : Site}
      {tree : Tree}
      (referred : context.refer stack reference.target = .ok (.inlined inner))
      (denotes : Denotes context (.site inner) tree) :
      Denotes context (.site ⟨stack, .reference reference⟩) tree
  -- A nullable schema admits `null` besides what it describes.
  | plain
      {stack : List Pointer}
      {schema : Schema}
      {tree : Tree}
      (strict : schema.isNullable context.options = false)
      (denotes : Denotes context (.core stack schema) tree) :
      Denotes context (.site ⟨stack, .inline schema⟩) tree
  | nullable
      {stack : List Pointer}
      {schema : Schema}
      {tree : Tree}
      (admits : schema.isNullable context.options = true)
      (denotes : Denotes context (.core stack schema) tree) :
      Denotes context (.site ⟨stack, .inline schema⟩) tree.orNull
  | missing (stack : List Pointer) : Denotes context (.optional stack none) .unknown
  | present
      {stack : List Pointer}
      {node : Node}
      {tree : Tree}
      (denotes : Denotes context (.site ⟨stack, node⟩) tree) :
      Denotes context (.optional stack (some node)) tree
  -- A schema denotes the intersection of its clauses, its values, or the union of its
  -- forms.
  | composed
      {stack : List Pointer}
      {schema : Schema}
      {trees : Clause → Tree}
      (composed : schema.isComposed = true)
      (each : ∀ clause ∈ schema.clauses,
        Denotes context (.clause stack schema clause) (trees clause)) :
      Denotes context (.core stack schema) (.intersectionOf (schema.clauses.map trees))
  | constant
      {stack : List Pointer}
      {schema : Schema}
      {value : Value}
      (single : schema.isComposed = false)
      (given : schema.const = some value) :
      Denotes context (.core stack schema) ((Tree.ofScalar? value).getD .unknown)
  | enumerated
      {stack : List Pointer}
      {schema : Schema}
      {values : List Value}
      (single : schema.isComposed = false)
      (unfixed : schema.const = none)
      (given : schema.enum = some values) :
      Denotes context (.core stack schema) (.ofValues values)
  | formed
      {stack : List Pointer}
      {schema : Schema}
      {trees : Form → Tree}
      (single : schema.isComposed = false)
      (unfixed : schema.const = none)
      (unlisted : schema.enum = none)
      (each : ∀ form ∈ schema.forms, Denotes context (.form stack schema form) (trees form)) :
      Denotes context (.core stack schema) (.unionOf (schema.forms.map trees))
  -- The forms of a schema without composition.
  | keyword (stack : List Pointer) (schema : Schema) (word : Keyword) :
      Denotes context (.form stack schema (.keyword word)) (.name word.render)
  | array
      {stack : List Pointer}
      {schema : Schema}
      {item : Tree}
      (unbounded : context.options.supportArrayLength = false ∨ schema.fixedLength? = none)
      (denotes : Denotes context (.optional stack schema.items) item) :
      Denotes context (.form stack schema .array) (.array item)
  | tuple
      {stack : List Pointer}
      {schema : Schema}
      {item : Tree}
      {length : Nat}
      (supported : context.options.supportArrayLength = true)
      (fixed : schema.fixedLength? = some length)
      (denotes : Denotes context (.optional stack schema.items) item) :
      Denotes context (.form stack schema .array) (.tuple (List.replicate length item))
  | object
      {stack : List Pointer}
      {schema : Schema}
      {tree : Tree}
      (denotes : Denotes context (.body (Body.ofSchema stack schema)) tree) :
      Denotes context (.form stack schema .object) tree
  -- The clauses of a composed schema.
  | merged
      {stack : List Pointer}
      {schema : Schema}
      {branches : List Node}
      {bodies : List Body}
      {tree : Tree}
      (taken : context.merging stack schema branches = .ok (some bodies))
      (stated : (branches.isEmpty && !schema.hasObjectKeywords) = false)
      (denotes : Denotes context (.body (Body.merge bodies)) tree) :
      Denotes context (.clause stack schema (.allOf branches)) tree
  | vacuous
      {stack : List Pointer}
      {schema : Schema}
      {branches : List Node}
      {bodies : List Body}
      (taken : context.merging stack schema branches = .ok (some bodies))
      (unstated : (branches.isEmpty && !schema.hasObjectKeywords) = true) :
      Denotes context (.clause stack schema (.allOf branches)) .unknown
  | intersected
      {stack : List Pointer}
      {schema : Schema}
      {branches : List Node}
      {trees : Node → Tree}
      (taken : context.merging stack schema branches = .ok none)
      (silent : schema.hasMembers = false)
      (each : ∀ node ∈ branches, Denotes context (.site ⟨stack, node⟩) (trees node)) :
      Denotes context (.clause stack schema (.allOf branches))
        (.intersectionOf (branches.map trees))
  | extended
      {stack : List Pointer}
      {schema : Schema}
      {branches : List Node}
      {trees : Node → Tree}
      {own : Tree}
      (taken : context.merging stack schema branches = .ok none)
      (speaks : schema.hasMembers = true)
      (each : ∀ node ∈ branches, Denotes context (.site ⟨stack, node⟩) (trees node))
      (denotes : Denotes context (.body (Body.ofSchema stack schema)) own) :
      Denotes context (.clause stack schema (.allOf branches))
        (.intersectionOf (branches.map trees ++ [own]))
  | oneOf
      {stack : List Pointer}
      {schema : Schema}
      {branches : List Node}
      {trees : Node → Tree}
      (each : ∀ node ∈ branches, Denotes context (.site ⟨stack, node⟩) (trees node)) :
      Denotes context (.clause stack schema (.oneOf branches)) (.unionOf (branches.map trees))
  | anyOf
      {stack : List Pointer}
      {schema : Schema}
      {branches : List Node}
      {trees : Node → Tree}
      (each : ∀ node ∈ branches, Denotes context (.site ⟨stack, node⟩) (trees node)) :
      Denotes context (.clause stack schema (.anyOf branches)) (.unionOf (branches.map trees))
  | negation (stack : List Pointer) (schema : Schema) :
      Denotes context (.clause stack schema .negation) .unknown
  | own
      {stack : List Pointer}
      {schema : Schema}
      {tree : Tree}
      (denotes : Denotes context (.body (Body.ofSchema stack schema)) tree) :
      Denotes context (.clause stack schema .own) tree
  -- The members of an object, each in its own place.
  | members
      {body : Body}
      {trees : Site → Tree}
      (each : ∀ site, body.Mentions site → Denotes context (.site site) (trees site)) :
      Denotes context (.body body)
        (.objectOr body.emptyValue (body.fields context.options trees))

/-- A subject denotes one tree at most. -/
theorem Denotes.unique
    {context : Context}
    {subject : Subject}
    {tree other : Tree}
    (denotes : Denotes context subject tree)
    (denotesOther : Denotes context subject other) :
    other = tree := by
  induction denotes generalizing other with
  | named referred =>
      cases denotesOther with
      | named again => simp_all
      | unexpanded again => simp_all
      | inlined again _ => simp_all
  | unexpanded referred =>
      cases denotesOther with
      | named again => simp_all
      | unexpanded again => rfl
      | inlined again _ => simp_all
  | inlined referred _ hypothesis =>
      cases denotesOther with
      | named again => simp_all
      | unexpanded again => simp_all
      | inlined again denotesInner =>
          rw [referred] at again
          cases again
          exact hypothesis denotesInner
  | plain strict _ hypothesis =>
      cases denotesOther with
      | plain _ denotesCore => exact hypothesis denotesCore
      | nullable admits _ => simp_all
  | nullable admits _ hypothesis =>
      cases denotesOther with
      | plain strict _ => simp_all
      | nullable _ denotesCore => rw [hypothesis denotesCore]
  | missing stack =>
      cases denotesOther
      rfl
  | present _ hypothesis =>
      cases denotesOther with
      | present denotesNode => exact hypothesis denotesNode
  | composed composed _ hypothesis =>
      cases denotesOther with
      | composed _ each =>
          rw [List.map_congr_left fun clause listed => hypothesis clause listed (each clause listed)]
      | constant single _ => simp_all
      | enumerated single _ _ => simp_all
      | formed single _ _ _ => simp_all
  | constant single given =>
      cases denotesOther with
      | composed composed _ => simp_all
      | constant _ again => simp_all
      | enumerated _ unfixed _ => simp_all
      | formed _ unfixed _ _ => simp_all
  | enumerated single unfixed given =>
      cases denotesOther with
      | composed composed _ => simp_all
      | constant _ again => simp_all
      | enumerated _ _ again => simp_all
      | formed _ _ unlisted _ => simp_all
  | formed single unfixed unlisted _ hypothesis =>
      cases denotesOther with
      | composed composed _ => simp_all
      | constant _ again => simp_all
      | enumerated _ _ again => simp_all
      | formed _ _ _ each =>
          rw [List.map_congr_left fun form listed => hypothesis form listed (each form listed)]
  | keyword stack schema word =>
      cases denotesOther
      rfl
  | array unbounded _ hypothesis =>
      cases denotesOther with
      | array _ denotesItem => rw [hypothesis denotesItem]
      | tuple supported fixed _ => simp_all
  | tuple supported fixed _ hypothesis =>
      cases denotesOther with
      | array unbounded _ => simp_all
      | tuple _ again denotesItem =>
          rw [fixed] at again
          cases again
          rw [hypothesis denotesItem]
  | object _ hypothesis =>
      cases denotesOther with
      | object denotesBody => exact hypothesis denotesBody
  | merged taken stated _ hypothesis =>
      cases denotesOther with
      | merged again _ denotesBody =>
          rw [taken] at again
          cases again
          exact hypothesis denotesBody
      | vacuous _ unstated => simp_all
      | intersected again _ _ => simp_all
      | extended again _ _ _ => simp_all
  | vacuous taken unstated =>
      cases denotesOther with
      | merged _ stated _ => simp_all
      | vacuous _ _ => rfl
      | intersected again _ _ => simp_all
      | extended again _ _ _ => simp_all
  | intersected taken silent _ hypothesis =>
      cases denotesOther with
      | merged again _ _ => simp_all
      | vacuous again _ => simp_all
      | intersected _ _ each =>
          rw [List.map_congr_left fun node listed => hypothesis node listed (each node listed)]
      | extended _ speaks _ _ => simp_all
  | extended taken speaks _ _ hypothesis ownHypothesis =>
      cases denotesOther with
      | merged again _ _ => simp_all
      | vacuous again _ => simp_all
      | intersected _ silent _ => simp_all
      | extended _ _ each denotesOwn =>
          rw [List.map_congr_left fun node listed => hypothesis node listed (each node listed),
            ownHypothesis denotesOwn]
  | oneOf _ hypothesis =>
      cases denotesOther with
      | oneOf each =>
          rw [List.map_congr_left fun node listed => hypothesis node listed (each node listed)]
  | anyOf _ hypothesis =>
      cases denotesOther with
      | anyOf each =>
          rw [List.map_congr_left fun node listed => hypothesis node listed (each node listed)]
  | negation stack schema =>
      cases denotesOther
      rfl
  | own _ hypothesis =>
      cases denotesOther with
      | own denotesBody => exact hypothesis denotesBody
  | members _ hypothesis =>
      cases denotesOther with
      | members each =>
          rw [Body.fields_congr context.options fun site mentioned =>
            hypothesis site mentioned (each site mentioned)]

end Typing
end ApiTypings
