import ApiTypings.Decimal.Layout
import ApiTypings.Json.Writer
import ApiTypings.Text.Blank
import ApiTypings.Text.Quoted
import ApiTypings.TypeScript.TopLevel
import ApiTypings.Value

/-!
# Type expressions

The types that declarations are made of, as trees, and the text of a tree at an
indentation. Unions and intersections have at least two members, and the
functions that build them leave no union directly inside a union and no
intersection directly inside an intersection.
-/

namespace ApiTypings
namespace TypeScript

/-- The types that are words of the language. -/
inductive Keyword
  | unknown
  | never
  | void
  | string
  | number
  | boolean
  | null
  deriving DecidableEq, Repr

/-- The word of a keyword. -/
def Keyword.render : Keyword → String
  | .unknown => "unknown"
  | .never => "never"
  | .void => "void"
  | .string => "string"
  | .number => "number"
  | .boolean => "boolean"
  | .null => "null"

/-- The values that are types of their own. -/
inductive Literal
  | bool (flag : Bool)
  | int (number : Int)
  | float (number : Float)
  | text (content : String)

/-- The text of a literal. -/
def Literal.render : Literal → String
  | .bool flag => if flag then "true" else "false"
  | .int number => toString number
  | .float number => Decimal.Layout.json.text number
  | .text content => Text.quoted content

/-- The key of a member: a plain word, a quoted name, or the signature that
stands for all further keys. -/
inductive MemberKey
  | word (name : String)
  | quoted (name : String)
  | anyKey
  deriving DecidableEq, Repr

/-- The text of a key. -/
def MemberKey.render : MemberKey → String
  | .word name => name
  | .quoted name => Text.quoted name
  | .anyKey => "[key: string]"

/-- A member of an object type, with the lines of the comment in front of it. -/
structure Member (τ : Type) where
  key : MemberKey
  type : τ
  optional : Bool := false
  readonly : Bool := false
  comment : List String := []

/-- A type expression. -/
inductive TypeExpr
  | keyword (word : Keyword)
  | literal (value : Literal)
  | reference (name : String)
  | template
  | negation
  | record (value : Keyword)
  | array (item : TypeExpr)
  | tuple (item : TypeExpr) (length : Nat)
  | object (members : List (Member TypeExpr))
  | union (first second : TypeExpr) (rest : List TypeExpr)
  | intersection (first second : TypeExpr) (rest : List TypeExpr)

namespace TypeExpr

/-- The type of which nothing is known. -/
def unknown : TypeExpr := .keyword .unknown

/-- The type of `null`. -/
def null : TypeExpr := .keyword .null

/-- The members of a union; any other type is its only member. -/
def alternatives : TypeExpr → List TypeExpr
  | .union first second rest => first :: second :: rest
  | other => [other]

/-- The parts of an intersection; any other type is its only part. -/
def parts : TypeExpr → List TypeExpr
  | .intersection first second rest => first :: second :: rest
  | other => [other]

/-- The union of types; nothing is known of the union of none. -/
def unionOf (types : List TypeExpr) : TypeExpr :=
  match types.flatMap alternatives with
  | [] => unknown
  | [only] => only
  | first :: second :: rest => .union first second rest

/-- The intersection of types; nothing is known of the intersection of none. -/
def intersectionOf (types : List TypeExpr) : TypeExpr :=
  match types.flatMap parts with
  | [] => unknown
  | [only] => only
  | first :: second :: rest => .intersection first second rest

/-- Whether a type is written `null`, blanks around a name aside. -/
def isNull : TypeExpr → Bool
  | .keyword .null => true
  | .reference name => Text.trim name.toList == "null".toList
  | _ => false

/-- A type that admits `null`. -/
def orNull (type : TypeExpr) : TypeExpr :=
  if type.alternatives.any isNull then type else unionOf [type, null]

/-- The object type with the given members; without any, every key holds a
value of the given keyword. -/
def objectOr (empty : Keyword) (members : List (Member TypeExpr)) : TypeExpr :=
  if members.isEmpty then .record empty else .object members

/-- The type of a scalar value; lists, mappings and dates have none. -/
def ofScalar : Value → Except Json.WriteError (Option TypeExpr)
  | .null => .ok (some null)
  | .bool flag => .ok (some (.literal (.bool flag)))
  | .int number =>
      if Decimal.isWritable number then .ok (some (.literal (.int number)))
      else .error .longInteger
  | .float number => .ok (some (.literal (.float number)))
  | .text content => .ok (some (.literal (.text content)))
  | .moment _ | .list _ | .mapping _ | .keyed _ => .ok none

/-- Whether a type is a union. -/
def isUnion : TypeExpr → Bool
  | .union .. => true
  | _ => false

/-- Whether a type has an operator at top level. -/
def isCompound : TypeExpr → Bool
  | .union .. => true
  | .intersection .. => true
  | _ => false

end TypeExpr

/-- Two blanks for every level. -/
def indentation (level : Nat) : String :=
  String.ofList (List.replicate (2 * level) ' ')

/-- A text in parentheses if the flag says so. -/
def grouped (flag : Bool) (text : String) : String :=
  if flag then "(" ++ text ++ ")" else text

/-- What stands for a negated schema. -/
def negationText : String :=
  "unknown /* not: negated schemas are not expressible */"

/-- The lines of a member at a level, given the text of its type. -/
def Member.lines {τ : Type} (member : Member τ) (level : Nat) (type : String) :
    List String :=
  let pad := indentation level
  member.comment.map (pad ++ ·) ++
    [pad ++ (if member.readonly then "readonly " else "") ++ member.key.render ++
      (if member.optional then "?" else "") ++ ": " ++ type ++ ";"]

namespace TypeExpr

mutual

/-- The text of a type at a level of indentation. -/
def render (level : Nat) : TypeExpr → String
  | .keyword word => word.render
  | .literal value => value.render
  | .reference name => name
  | .template => "`$\x7bstring\x7d`"
  | .negation => negationText
  | .record value => "Record<string, " ++ value.render ++ ">"
  | .array item => grouped item.isCompound (item.render level) ++ "[]"
  | .tuple item length =>
      "[" ++ ", ".intercalate (List.replicate length (item.render level)) ++ "]"
  | .object members =>
      "\x7b\n" ++ "\n".intercalate (renderMembers (level + 1) members) ++ "\n" ++
        indentation level ++ "\x7d"
  | .union first second rest =>
      " | ".intercalate
        (first.render level :: second.render level :: renderAlternatives level rest)
  | .intersection first second rest =>
      " & ".intercalate
        (grouped first.isUnion (first.render level) ::
          grouped second.isUnion (second.render level) :: renderParts level rest)

/-- The lines of the members of an object type. -/
def renderMembers (level : Nat) : List (Member TypeExpr) → List String
  | [] => []
  | ⟨key, type, optional, readonly, comment⟩ :: rest =>
      (Member.mk key type optional readonly comment).lines level (type.render level) ++
        renderMembers level rest

/-- The texts of further members of a union. -/
def renderAlternatives (level : Nat) : List TypeExpr → List String
  | [] => []
  | type :: rest => type.render level :: renderAlternatives level rest

/-- The texts of further parts of an intersection; a union stands in
parentheses. -/
def renderParts (level : Nat) : List TypeExpr → List String
  | [] => []
  | type :: rest =>
      grouped type.isUnion (type.render level) :: renderParts level rest

end

theorem renderAlternatives_eq_map (level : Nat) (types : List TypeExpr) :
    renderAlternatives level types = types.map (render level) := by
  induction types with
  | nil => rfl
  | cons type rest hypothesis => rw [renderAlternatives, hypothesis, List.map_cons]

theorem renderParts_eq_map (level : Nat) (types : List TypeExpr) :
    renderParts level types = types.map fun type => grouped type.isUnion (type.render level) := by
  induction types with
  | nil => rfl
  | cons type rest hypothesis => rw [renderParts, hypothesis, List.map_cons]

theorem renderMembers_eq_flatMap (level : Nat) (members : List (Member TypeExpr)) :
    renderMembers level members =
      members.flatMap fun member => member.lines level (member.type.render level) := by
  induction members with
  | nil => rfl
  | cons member rest hypothesis =>
      obtain ⟨key, type, optional, readonly, comment⟩ := member
      rw [renderMembers, hypothesis, List.flatMap_cons]

theorem render_union (level : Nat) (first second : TypeExpr) (rest : List TypeExpr) :
    render level (.union first second rest) =
      " | ".intercalate ((first :: second :: rest).map (render level)) := by
  rw [render, renderAlternatives_eq_map, List.map_cons, List.map_cons]

theorem render_intersection (level : Nat) (first second : TypeExpr) (rest : List TypeExpr) :
    render level (.intersection first second rest) =
      " & ".intercalate ((first :: second :: rest).map fun type =>
        grouped type.isUnion (type.render level)) := by
  rw [render, renderParts_eq_map, List.map_cons, List.map_cons]

end TypeExpr

end TypeScript
end ApiTypings
