import ApiTypings.Component.Catalog
import ApiTypings.Proofs.TypeScript.Numeral

/-!
# The names of declarations

The names under which components are declared consist of name characters, but for a
line feed that a component name may end with, and none of them is reserved.
-/

namespace ApiTypings
namespace TypeScript

/-- The characters of the names of declarations. -/
def isDeclarable (c : Char) : Bool :=
  isNameChar c || c == '\n'

theorem all_isDeclarable {text : List Char} (names : text.all isNameChar = true) :
    text.all isDeclarable = true := by
  simp only [List.all_eq_true, isDeclarable, Bool.or_eq_true] at names ⊢
  intro c member
  exact .inl (names c member)

/-! ## Names that can be declared -/

theorem isNameChar_toUpper {c : Char} (name : isNameChar c = true) :
    isNameChar c.toUpper = true := by
  have small : c.toNat < 128 := by
    have range := toNat_of_isNameChar name
    omega
  have all : ∀ n : Fin 128, isNameChar (Char.ofNat n) = true →
      isNameChar (Char.ofNat n).toUpper = true := by
    decide
  have here := all ⟨c.toNat, small⟩
  rw [Char.ofNat_toNat] at here
  exact here name

theorem all_capitalize {text : List Char} (names : text.all isNameChar = true) :
    (Text.capitalize text).all isNameChar = true := by
  cases text with
  | nil => rfl
  | cons c rest =>
      simp only [List.all_cons, Bool.and_eq_true] at names
      have small : c.toNat < 0x80 := by
        have range := toNat_of_isNameChar names.1
        omega
      simp [Text.capitalize, Text.capital, small, isNameChar_toUpper names.1, names.2]

theorem all_of_mem_nameRuns
    {current text run : List Char}
    (started : current.all isNameChar = true)
    (listed : run ∈ nameRuns current text) :
    run.all isNameChar = true := by
  induction text generalizing current with
  | nil =>
      unfold nameRuns at listed
      split at listed
      · contradiction
      · rw [List.mem_singleton.mp listed, List.all_reverse]
        exact started
  | cons c rest hypothesis =>
      unfold nameRuns at listed
      split at listed
      · rename_i name
        refine hypothesis ?_ listed
        simp [name, started]
      · split at listed
        · exact hypothesis rfl listed
        · rcases List.mem_cons.mp listed with rfl | later
          · rw [List.all_reverse]
            exact started
          · exact hypothesis rfl later

theorem all_pascalCase (name : List Char) : (pascalCase name).all isNameChar = true := by
  have joined : ((nameRuns [] (Text.removeAccents name)).flatMap Text.capitalize).all
      isNameChar = true := by
    rw [List.all_flatMap, List.all_eq_true]
    intro run listed
    exact all_capitalize (all_of_mem_nameRuns rfl listed)
  unfold pascalCase
  dsimp only
  split
  · split
    · rw [List.all_cons, joined]
      rfl
    · exact joined
  · rfl

theorem all_of_isIdentifier {name : List Char} (identifier : isIdentifier name = true) :
    name.all isDeclarable = true := by
  cases name with
  | nil => contradiction
  | cons c rest =>
      simp only [isIdentifier, Bool.and_eq_true] at identifier
      obtain ⟨start, body⟩ := identifier
      have first : isDeclarable c = true := by
        simp [isDeclarable, isNameChar_of_isNameStart start]
      rw [List.all_cons, first, Bool.true_and]
      split at body
      · rename_i broken
        have whole := List.dropLast_append_getLast? _ (Option.mem_def.mpr (eq_of_beq broken))
        rw [← whole, List.all_append, all_isDeclarable body]
        rfl
      · exact all_isDeclarable body

/-- The name under which a component is declared can be declared. -/
theorem declarableName_spec (name : String) :
    (declarableName name).toList.all isDeclarable = true ∧
      declarableName name ∉ reservedNames := by
  have unnamed : unnamedType.toList.all isDeclarable = true ∧ unnamedType ∉ reservedNames := by
    decide
  have apart : ∀ reserved ∈ reservedNames, reserved ++ "_" ∉ reservedNames := by
    decide
  unfold declarableName
  split
  · exact unnamed
  · dsimp only
    generalize same : (if isIdentifier name.toList then name
      else String.ofList (pascalCase name.toList)) = plain
    have declarable : plain.toList.all isDeclarable = true := by
      rw [← same]
      split
      · rename_i identifier
        exact all_of_isIdentifier identifier
      · rw [String.toList_ofList]
        exact all_isDeclarable (all_pascalCase name.toList)
    split
    · rename_i reserved
      refine ⟨?_, apart plain (List.contains_iff_mem.mp reserved)⟩
      rw [String.toList_append, List.all_append, declarable]
      rfl
    · rename_i free
      split
      · exact unnamed
      · exact ⟨declarable, fun reserved => free (List.contains_iff_mem.mpr reserved)⟩

end TypeScript

namespace Component

open TypeScript

/-! ## Names that are not taken -/

theorem toList_toString (number : Nat) : (toString number).toList = Decimal.digits number := by
  rw [Nat.toString_eq_repr, Nat.repr_eq_ofList_toDigits, String.toList_ofList]
  rfl

/-- A number is written in name characters. -/
theorem all_isNameChar_toString (number : Nat) :
    (toString number).toList.all isNameChar = true := by
  rw [toList_toString, List.all_eq_true]
  intro c member
  simp [isNameChar, Char.isAlphanum, allDigits_digits number c member]

/-- A name stays one that can be declared when a number is put behind it. -/
theorem declarable_numbered
    {name : String}
    (declarable : name.toList.all isDeclarable = true)
    {number : Nat}
    (positive : 0 < number) :
    (name ++ toString number).toList.all isDeclarable = true ∧
      name ++ toString number ∉ reservedNames := by
  have digits := allDigits_digits number
  constructor
  · rw [String.toList_append, List.all_append, declarable, Bool.true_and]
    exact all_isDeclarable (all_isNameChar_toString number)
  · have plain : (reservedNames.all fun name => name.toList.all fun c => !c.isDigit) = true := rfl
    intro reserved
    obtain ⟨c, rest, same, _⟩ := digits_pos positive
    have here : c ∈ Decimal.digits number := by
      rw [same]
      exact List.mem_cons_self
    have inName : c ∈ (name ++ toString number).toList := by
      rw [String.toList_append, toList_toString]
      exact List.mem_append_right _ here
    have noDigit := List.all_eq_true.mp (List.all_eq_true.mp plain _ reserved) c inName
    rw [digits c here] at noDigit
    exact Bool.false_ne_true noDigit

theorem freshName_spec
    (taken : List String)
    {wanted : String}
    (declarable : wanted.toList.all isDeclarable = true)
    (free : wanted ∉ reservedNames) :
    (freshName taken wanted).toList.all isDeclarable = true ∧
      freshName taken wanted ∉ reservedNames := by
  unfold freshName
  split
  · dsimp only
    cases found : ((List.range (taken.length + 1)).map fun n => wanted ++ toString (n + 1)).find?
        fun name => !taken.contains name with
    | none => exact ⟨declarable, free⟩
    | some name =>
        obtain ⟨n, _, rfl⟩ := List.mem_map.mp (List.mem_of_find?_eq_some found)
        exact declarable_numbered declarable n.succ_pos
  · exact ⟨declarable, free⟩

theorem assignNames_spec
    {taken names : List String}
    {entry : String × String}
    (listed : entry ∈ assignNames taken names) :
    entry.2.toList.all isDeclarable = true ∧ entry.2 ∉ reservedNames := by
  induction names generalizing taken with
  | nil => contradiction
  | cons name rest hypothesis =>
      rcases List.mem_cons.mp listed with rfl | later
      · obtain ⟨declarable, free⟩ := declarableName_spec name
        exact freshName_spec taken declarable free
      · exact hypothesis later

/-- A catalog gives a name to some declaration. -/
def Catalog.Declares (catalog : Catalog) (name : String) : Prop :=
  ∃ key, (key, name) ∈ catalog.names

theorem Catalog.declares_of_lookup
    {catalog : Catalog}
    {key name : String}
    (found : catalog.names.lookup key = some name) :
    catalog.Declares name := by
  obtain ⟨before, behind, same, _⟩ := List.lookup_eq_some_iff.mp found
  refine ⟨key, ?_⟩
  rw [same]
  exact List.mem_append_right _ List.mem_cons_self

/-- The names of the declarations of a document. -/
theorem Catalog.declares_spec
    {description : Document.Description}
    {name : String}
    (declares : (Catalog.ofDescription description).Declares name) :
    name.toList.all isDeclarable = true ∧ name ∉ reservedNames := by
  obtain ⟨key, listed⟩ := declares
  exact assignNames_spec listed

theorem exists_lookup_assignNames
    {names : List String}
    {name : String}
    (listed : name ∈ names)
    (taken : List String) :
    ∃ fresh, (assignNames taken names).lookup name = some fresh := by
  induction names generalizing taken with
  | nil => contradiction
  | cons first rest hypothesis =>
      unfold assignNames
      by_cases same : name = first
      · rw [same]
        exact ⟨_, List.lookup_cons_self⟩
      · have later : name ∈ rest := (List.mem_cons.mp listed).resolve_left same
        obtain ⟨fresh, found⟩ := hypothesis later (freshName taken (declarableName first) :: taken)
        refine ⟨fresh, ?_⟩
        rw [List.lookup_cons, beq_eq_false_iff_ne.mpr same]
        exact found

namespace Catalog

theorem exists_lookup_of_mem_keys
    {description : Document.Description}
    {key : String}
    (listed : key ∈ Entries.keys description.components.schemas) :
    ∃ name, (Catalog.ofDescription description).names.lookup key = some name :=
  exists_lookup_assignNames listed _

/-- A component schema is found under its pointer. -/
theorem exists_get?_of_mem_keys
    {catalog : Catalog}
    {key : String}
    (listed : key ∈ Entries.keys catalog.description.components.schemas) :
    ∃ node ∈ catalog.description.components.schemas.map Prod.snd,
      catalog.get? ⟨.schemas, key⟩ = some (OrReference.map .schema node) := by
  obtain ⟨entry, inSchemas, rfl⟩ := List.mem_map.mp listed
  cases found : catalog.get? ⟨.schemas, entry.1⟩ with
  | none =>
      have missing := List.lookup_eq_none_iff.mp found _ (List.mem_map_of_mem inSchemas)
      simp at missing
  | some component =>
      obtain ⟨other, inSection, same⟩ := List.mem_map.mp (get?_mem found)
      rw [← (Prod.mk.inj same).2]
      exact ⟨other.2, List.mem_map_of_mem inSection, rfl⟩

theorem mem_keys_of_mem_declarations
    {catalog : Catalog}
    {entry : Pointer × String × Document.Node}
    (declared : entry ∈ catalog.declarations) :
    ∃ key ∈ Entries.keys catalog.description.components.schemas, entry.1 = ⟨.schemas, key⟩ := by
  obtain ⟨component, listed, rfl⟩ := List.mem_map.mp declared
  exact ⟨component.1, List.mem_map_of_mem listed, rfl⟩

/-- A component schema of a document is declared under the name that the table gives
for its pointer. -/
theorem declaredName?_of_mem_declarations
    {description : Document.Description}
    {entry : Pointer × String × Document.Node}
    (declared : entry ∈ (Catalog.ofDescription description).declarations) :
    (Catalog.ofDescription description).declaredName? entry.1 = some entry.2.1 := by
  obtain ⟨component, listed, rfl⟩ := List.mem_map.mp declared
  have inKeys : component.1 ∈ Entries.keys description.components.schemas :=
    List.mem_map_of_mem listed
  obtain ⟨name, found⟩ := exists_lookup_of_mem_keys inKeys
  simp only [declaredName?, if_true, found, Option.getD_some]

/-- Every component schema of a document is declared by a name. -/
theorem declares_of_mem_declarations
    {description : Document.Description}
    {entry : Pointer × String × Document.Node}
    (declared : entry ∈ (Catalog.ofDescription description).declarations) :
    (Catalog.ofDescription description).Declares entry.2.1 := by
  have named := declaredName?_of_mem_declarations declared
  unfold declaredName? at named
  split at named
  · exact declares_of_lookup named
  · contradiction

end Catalog

end Component
end ApiTypings
