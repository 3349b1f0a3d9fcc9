import ApiTypings.Json.Reader
import ApiTypings.Proofs.TypeScript.Token
import ApiTypings.TypeScript.TypeExpr

/-!
# The grammar of types

How tokens are put together to types. A suffix `[]` binds tighter than `&`, and
`&` binds tighter than `|`; parentheses group. Trees say what was read: they hold
no parentheses, and neither white space nor comments.
-/

namespace ApiTypings
namespace TypeScript

/-- A member of an object type, as it is read. -/
structure Field (τ : Type) where
  key : MemberKey
  type : τ
  optional : Bool
  readonly : Bool

/-- A type, as it is read. Keywords and the names of declarations are words. -/
inductive Tree
  | name (word : String)
  | numeral (negative : Bool) (digits : String)
  | string (content : String)
  | template (raw : List Char)
  | generic (word : String) (arguments : List Tree)
  | array (item : Tree)
  | tuple (items : List Tree)
  | object (fields : List (Field Tree))
  | union (members : List Tree)
  | intersection (parts : List Tree)

/-- Whether a text is a number in decimal digits, with or without a fraction and
an exponent. -/
def isDecimal (text : List Char) : Bool :=
  match Json.wholePart text with
  | none => false
  | some (_, rest) => (Json.exponentPart (Json.fractionPart rest).2).2.isEmpty

example :
    isDecimal "1.5e+3".toList = true ∧ isDecimal "01".toList = false ∧
      isDecimal "NaN".toList = false := by
  decide

/-- How tokens are read as the key of a member. -/
inductive ReadsKey : List Token → MemberKey → Prop
  | word (name : String) : ReadsKey [.word name] (.word name)
  | number {digits : String} (decimal : isDecimal digits.toList = true) :
      ReadsKey [.number digits] (.word digits)
  | quoted {raw : List Char} {name : String} (unquoted : Json.unquote? raw = some name) :
      ReadsKey [.string raw] (.quoted name)
  | anyKey (name : String) :
      ReadsKey [.mark '[', .word name, .mark ':', .word "string", .mark ']'] .anyKey

/-- The tokens of a member, given those of its key and of its type. -/
def Field.tokens {τ : Type} (field : Field τ) (key type : List Token) : List Token :=
  (if field.readonly then [.word "readonly"] else []) ++
    (key ++ ((if field.optional then [.mark '?'] else []) ++ .mark ':' :: (type ++ [.mark ';'])))

/-- How tight a type is bound: an operand of `&`, one of `|`, or neither. -/
inductive Binding
  | operand
  | intersection
  | union
  deriving DecidableEq, Repr

/-- How tokens are read as a type. -/
inductive Reads : Binding → List Token → Tree → Prop
  | name (word : String) : Reads .operand [.word word] (.name word)
  | number
      {digits : String}
      (decimal : isDecimal digits.toList = true) :
      Reads .operand [.number digits] (.numeral false digits)
  | negative
      {digits : String}
      (decimal : isDecimal digits.toList = true) :
      Reads .operand [.mark '-', .number digits] (.numeral true digits)
  | string
      {raw : List Char}
      {content : String}
      (unquoted : Json.unquote? raw = some content) :
      Reads .operand [.string raw] (.string content)
  | template (raw : List Char) : Reads .operand [.template raw] (.template raw)
  | generic
      (word : String)
      {arguments : List (List Token × Tree)}
      (nonempty : arguments ≠ [])
      (each : ∀ argument ∈ arguments, Reads .union argument.1 argument.2) :
      Reads .operand
        (.word word :: .mark '<' ::
          ([.mark ','].intercalate (arguments.map Prod.fst) ++ [.mark '>']))
        (.generic word (arguments.map Prod.snd))
  | array
      {tokens : List Token}
      {item : Tree}
      (reads : Reads .operand tokens item) :
      Reads .operand (tokens ++ [.mark '[', .mark ']']) (.array item)
  | tuple
      {items : List (List Token × Tree)}
      (each : ∀ item ∈ items, Reads .union item.1 item.2) :
      Reads .operand
        (.mark '[' :: ([.mark ','].intercalate (items.map Prod.fst) ++ [.mark ']']))
        (.tuple (items.map Prod.snd))
  | object
      {fields : List (Field Tree × List Token × List Token)}
      (keys : ∀ entry ∈ fields, ReadsKey entry.2.1 entry.1.key)
      (types : ∀ entry ∈ fields, Reads .union entry.2.2 entry.1.type) :
      Reads .operand
        (.mark '{' ::
          (fields.flatMap (fun entry => entry.1.tokens entry.2.1 entry.2.2) ++ [.mark '}']))
        (.object (fields.map Prod.fst))
  | group
      {tokens : List Token}
      {tree : Tree}
      (reads : Reads .union tokens tree) :
      Reads .operand (.mark '(' :: (tokens ++ [.mark ')'])) tree
  | part
      {tokens : List Token}
      {tree : Tree}
      (reads : Reads .operand tokens tree) :
      Reads .intersection tokens tree
  | intersection
      {parts : List (List Token × Tree)}
      (several : 2 ≤ parts.length)
      (each : ∀ part ∈ parts, Reads .operand part.1 part.2) :
      Reads .intersection ([.mark '&'].intercalate (parts.map Prod.fst))
        (.intersection (parts.map Prod.snd))
  | member
      {tokens : List Token}
      {tree : Tree}
      (reads : Reads .intersection tokens tree) :
      Reads .union tokens tree
  | union
      {members : List (List Token × Tree)}
      (several : 2 ≤ members.length)
      (each : ∀ member ∈ members, Reads .intersection member.1 member.2) :
      Reads .union ([.mark '|'].intercalate (members.map Prod.fst))
        (.union (members.map Prod.snd))

/-- A text is read as a type. -/
def Parses (text : String) (tree : Tree) : Prop :=
  Reads .union (tokens text.toList) tree

/-- Whether every number in a type is finite. -/
inductive Tree.Finite : Tree → Prop
  | name (word : String) : Finite (.name word)
  | numeral
      (negative : Bool)
      {digits : String}
      (number : digits ≠ Decimal.Layout.json.notANumber)
      (bounded : digits ≠ Decimal.Layout.json.infinity) :
      Finite (.numeral negative digits)
  | string (content : String) : Finite (.string content)
  | template (raw : List Char) : Finite (.template raw)
  | generic
      (word : String)
      {arguments : List Tree}
      (each : ∀ argument ∈ arguments, Finite argument) :
      Finite (.generic word arguments)
  | array {item : Tree} (finite : Finite item) : Finite (.array item)
  | tuple {items : List Tree} (each : ∀ item ∈ items, Finite item) : Finite (.tuple items)
  | object {fields : List (Field Tree)} (each : ∀ field ∈ fields, Finite field.type) :
      Finite (.object fields)
  | union {members : List Tree} (each : ∀ member ∈ members, Finite member) :
      Finite (.union members)
  | intersection {parts : List Tree} (each : ∀ part ∈ parts, Finite part) :
      Finite (.intersection parts)

/-- The digits of a number that is read are digits. -/
theorem Tree.Finite.of_isDecimal
    (negative : Bool)
    {digits : String}
    (decimal : isDecimal digits.toList = true) :
    Finite (.numeral negative digits) := by
  refine .numeral negative ?_ ?_ <;> rintro rfl <;> exact absurd decimal (by decide)

/-- Only finite numbers are read. -/
theorem Reads.finite
    {binding : Binding}
    {tokens : List Token}
    {tree : Tree}
    (reads : Reads binding tokens tree) :
    tree.Finite := by
  have second {items : List (List Token × Tree)} (each : ∀ item ∈ items, item.2.Finite) :
      ∀ tree ∈ items.map Prod.snd, tree.Finite := by
    intro tree member
    obtain ⟨item, listed, rfl⟩ := List.mem_map.mp member
    exact each item listed
  induction reads with
  | name word => exact .name word
  | number decimal => exact .of_isDecimal false decimal
  | negative decimal => exact .of_isDecimal true decimal
  | string _ => exact .string _
  | template raw => exact .template raw
  | generic word _ _ each => exact .generic word (second each)
  | array _ finite => exact .array finite
  | tuple _ each => exact .tuple (second each)
  | object _ _ each =>
      refine .object ?_
      intro field member
      obtain ⟨entry, listed, rfl⟩ := List.mem_map.mp member
      exact each entry listed
  | group _ finite => exact finite
  | part _ finite => exact finite
  | intersection _ _ each => exact .intersection (second each)
  | member _ finite => exact finite
  | union _ _ each => exact .union (second each)

end TypeScript
end ApiTypings
