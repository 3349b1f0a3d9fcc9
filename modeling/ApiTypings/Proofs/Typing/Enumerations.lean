import ApiTypings.Proofs.Json.Unquote
import ApiTypings.Proofs.TypeScript.Splitting
import ApiTypings.Typing.Schema

/-!
# Literals of enumerations

The type of an enumeration is the union of the literals of its values. The literals are found
again as the members of its text, in order and as often as they were given, and a text is read
back from its literal. The only values that spoil this are integers of too many digits.
-/

namespace ApiTypings
namespace TypeScript

/-! ## Literals are not trimmed -/

theorem trim_of_ends
    {text : List Char}
    (first : ∀ c ∈ text.head?, Text.isBlank c = false)
    (last : ∀ c ∈ text.getLast?, Text.isBlank c = false) :
    Text.trim text = text := by
  have kept {list : List Char} (visible : ∀ c ∈ list.head?, Text.isBlank c = false) :
      list.dropWhile Text.isBlank = list := by
    cases list with
    | nil => rfl
    | cons c rest => exact List.dropWhile_cons_of_neg (by simp [visible c rfl])
  rw [Text.trim, kept first, Text.trimEnd, kept, List.reverse_reverse]
  rwa [List.head?_reverse]

theorem trim_of_visible
    {text : List Char}
    (visible : ∀ c ∈ text, Text.isBlank c = false) :
    Text.trim text = text :=
  trim_of_ends (fun c first => visible c (List.mem_of_head? first))
    fun c last => visible c (List.mem_of_getLast? last)

theorem IsNumeral.isBlank_eq_false
    {text : List Char}
    (numeral : IsNumeral text)
    {c : Char}
    (member : c ∈ text) :
    Text.isBlank c = false := by
  rcases numeral.mem_cases member with digit | mark
  · exact isBlank_of_isNameChar (by simp [isNameChar, Char.isAlphanum, digit])
  · have every : ['.', 'e', '+', '-'].all (fun mark => !Text.isBlank mark) = true := rfl
    simpa using List.all_eq_true.mp every c mark

theorem trim_signed
    (negative : Bool)
    {text : List Char}
    (visible : ∀ c ∈ text, Text.isBlank c = false) :
    Text.trim ((if negative then "-" else "") ++ String.ofList text).toList =
      ((if negative then "-" else "") ++ String.ofList text).toList := by
  apply trim_of_visible
  intro c member
  rw [String.toList_append, String.toList_ofList] at member
  rcases List.mem_append.mp member with sign | inside
  · cases negative with
    | false => simp at sign
    | true =>
        obtain rfl : c = '-' := by simpa using sign
        rfl
  · exact visible c inside

theorem trim_literal (value : Literal) :
    Text.trim value.render.toList = value.render.toList := by
  cases value with
  | bool flag => cases flag <;> rfl
  | int number =>
      change Text.trim (toString number).toList = (toString number).toList
      rw [toString_int]
      exact trim_signed _ fun c => (isNumeral_digits number.natAbs).isBlank_eq_false
  | float number =>
      unfold Literal.render Decimal.Layout.text
      dsimp only
      cases Decimal.Reading.ofFloat number with
      | notANumber => rfl
      | infinite negative => cases negative <;> rfl
      | finite negative magnitude =>
          exact trim_signed negative fun c =>
            (isNumeral_shortest Decimal.Layout.json magnitude).isBlank_eq_false
  | text content =>
      have quote : Text.isBlank '"' = false := rfl
      change Text.trim (Text.quoted content).toList = (Text.quoted content).toList
      rw [Text.quoted, String.toList_ofList, Text.quote]
      apply trim_of_ends
      · simpa using quote
      · rw [← List.cons_append, List.getLast?_concat]
        simpa using quote

namespace TypeExpr

/-- The members of a union of scalars are their texts. -/
theorem splitTopLevel_unionOf
    {types : List TypeExpr}
    (some : types ≠ [])
    (atoms : ∀ type ∈ types, type = null ∨ ∃ content, type = literal content)
    (level : Nat) :
    splitTopLevel ((unionOf types).render level).toList '|' =
      types.map fun type => (type.render 0).toList := by
  -- No names and no keys occur in scalars, so none need to be allowed.
  have regular : Regular (fun _ => False) (fun _ => False) := by
    refine ⟨?_, ?_, ?_⟩ <;> exact fun _ impossible => impossible.elim
  have sound : (unionOf types).Sound (fun _ => False) (fun _ => False) := by
    apply sound_unionOf
    intro type listed
    rcases atoms type listed with rfl | ⟨content, rfl⟩
    · exact .keyword .null
    · exact .literal content
  have simple : ∀ type ∈ types, type.alternatives = [type] := by
    intro type listed
    rcases atoms type listed with rfl | ⟨content, rfl⟩ <;> rfl
  rw [sound.splitTopLevel_render regular, alternatives_unionOf some simple]
  apply List.map_congr_left
  intro type listed
  rcases atoms type listed with rfl | ⟨content, rfl⟩
  · exact (trim_render_eq_null_iff level null).mpr rfl
  · exact trim_literal content

end TypeExpr

end TypeScript

namespace Typing

open TypeScript

/-! ## Enumerations -/

/-- The text of a value as a type of its own, if it has one. -/
def literalText (value : Value) : Except Json.WriteError (Option (List Char)) :=
  (TypeExpr.ofScalar value).map fun type? => type?.map fun type => (type.render 0).toList

theorem literalText_text (content : String) :
    literalText (.text content) = .ok (some (Text.quoted content).toList) :=
  rfl

/-- An enumeration fails exactly at an integer of too many digits. -/
theorem enumType_eq_error_iff (values : List Value) (error : Json.WriteError) :
    enumType values = .error error ↔ error = .longInteger ∧
      ∃ number, .int number ∈ values ∧ Decimal.isWritable number = false := by
  have fails {found : Json.WriteError} (failed : values.mapM TypeExpr.ofScalar = .error found) :
      found = .longInteger ∧
        ∃ number, .int number ∈ values ∧ Decimal.isWritable number = false := by
    obtain ⟨value, listed, failed⟩ := exists_of_mapM_eq_error failed
    obtain ⟨long, number, rfl, unwritable⟩ := (TypeExpr.ofScalar_eq_error_iff value found).mp failed
    exact ⟨long, number, listed, unwritable⟩
  unfold enumType
  cases outcome : values.mapM TypeExpr.ofScalar with
  | error found =>
      obtain ⟨rfl, long⟩ := fails outcome
      simp only [Except.map, Except.error.injEq]
      exact ⟨fun same => ⟨same.symm, long⟩, fun same => same.1.symm⟩
  | ok types =>
      refine ⟨fun failed => ?_, ?_⟩
      · contradiction
      · rintro ⟨-, number, listed, long⟩
        obtain ⟨type?, -, written⟩ := exists_right_of_forall₂ (forall₂_of_mapM_eq_ok outcome) listed
        have failed := (TypeExpr.ofScalar_eq_error_iff _ _).mpr ⟨rfl, number, rfl, long⟩
        rw [written] at failed
        cases failed

/-- A type stands for values: its members are their literals if all of them are scalars, in
order and as often as they are given, and nothing is known of it otherwise. -/
structure Enumerates (values : List Value) (type : TypeExpr) : Prop where
  members : (∀ value ∈ values, value.isJsonScalar = true) → ∀ level,
    values.mapM literalText = .ok ((splitTopLevel (type.render level).toList '|').map some)
  unknown : (∃ value ∈ values, value.isJsonScalar = false) → ∀ level,
    type.render level = "unknown"

/-- Scalars are found again as the members of the text of their union. -/
theorem mapM_literalText
    {values : List Value}
    (given : values ≠ [])
    {types : List TypeExpr}
    (each : List.Forall₂ (fun value type => TypeExpr.ofScalar value = .ok (some type))
      values types)
    (level : Nat) :
    values.mapM literalText =
      .ok ((splitTopLevel ((TypeExpr.unionOf types).render level).toList '|').map some) := by
  have found : types ≠ [] := by
    rintro rfl
    exact given (List.forall₂_nil_right_iff.mp each)
  have atoms : ∀ type ∈ types, type = TypeExpr.null ∨ ∃ content, type = .literal content := by
    intro type listed
    obtain ⟨value, -, written⟩ := exists_left_of_forall₂ each listed
    exact TypeExpr.null_or_literal_of_ofScalar written
  rw [TypeExpr.splitTopLevel_unionOf found atoms, List.map_map]
  apply mapM_eq_ok_of_forall₂
  rw [List.forall₂_map_right_iff]
  refine each.imp ?_
  intro value type written
  rw [literalText, written]
  rfl

/-- What is found for values stands for them. -/
theorem enumerates_of_mapM
    {values : List Value}
    (given : values ≠ [])
    {types : List (Option TypeExpr)}
    (outcome : values.mapM TypeExpr.ofScalar = .ok types) :
    ∃ type, enumType values = .ok type ∧ Enumerates values type := by
  have each := forall₂_of_mapM_eq_ok outcome
  cases present : types.mapM id with
  | none =>
      refine ⟨.unknown, by simp [enumType, outcome, present, Except.map], ?_, ?_⟩
      · intro scalars
        obtain ⟨value, listed, written⟩ :=
          exists_left_of_forall₂ each (mapM_eq_none_iff.mp present)
        have scalar := TypeExpr.isSome_of_ofScalar written
        rw [scalars value listed] at scalar
        contradiction
      · intro _ level
        simp [TypeExpr.unknown, TypeExpr.render, Keyword.render]
  | some found =>
      rw [eq_map_some_of_mapM present, List.forall₂_map_right_iff] at each
      refine ⟨.unionOf found, by simp [enumType, outcome, present, Except.map], ?_, ?_⟩
      · intro _ level
        exact mapM_literalText given each level
      · rintro ⟨value, listed, other⟩
        obtain ⟨type, -, written⟩ := exists_right_of_forall₂ each listed
        have scalar := TypeExpr.isSome_of_ofScalar written
        rw [other] at scalar
        contradiction

/-- The type of an enumeration is found and stands for its values exactly if none of them is an
integer of too many digits. The literal of a text is its JSON text, so different texts have
different literals. -/
theorem enumerates_iff_writable (values : List Value) (given : values ≠ []) :
    ((∃ type, enumType values = .ok type ∧ Enumerates values type) ↔
      ∀ number, .int number ∈ values → Decimal.isWritable number = true) ∧
    (∀ content, ∃ text, literalText (.text content) = .ok (some text) ∧
      Json.read text = .ok (.text content)) ∧
    ∀ first second, literalText (.text first) = literalText (.text second) → first = second := by
  refine ⟨⟨?_, ?_⟩, ?_, ?_⟩
  · rintro ⟨type, found, -⟩ number listed
    by_contra long
    have failed := (enumType_eq_error_iff values .longInteger).mpr
      ⟨rfl, number, listed, Bool.eq_false_of_not_eq_true long⟩
    rw [found] at failed
    cases failed
  · intro short
    cases outcome : values.mapM TypeExpr.ofScalar with
    | ok types => exact enumerates_of_mapM given outcome
    | error error =>
        have failed : enumType values = .error error := by
          rw [enumType, outcome]
          rfl
        obtain ⟨-, number, listed, long⟩ := (enumType_eq_error_iff values error).mp failed
        rw [short number listed] at long
        cases long
  · intro content
    exact ⟨_, literalText_text content, Json.read_quoted content⟩
  · intro first second same
    rw [literalText_text, literalText_text, Except.ok.injEq, Option.some.injEq] at same
    have read := Json.read_quoted first
    rw [same, Json.read_quoted, Except.ok.injEq, Value.text.injEq] at read
    exact read.symm

/-- A text with a bar, a quote and a backslash, twice. -/
theorem enumerates_iff_writable_of_bar :
    ∃ type, enumType [.text "|\"\\", .null, .int (-1), .text "|\"\\"] = .ok type ∧
      ∀ level, splitTopLevel (type.render level).toList '|' =
        ["\"|\\\"\\\\\"".toList, "null".toList, "-1".toList, "\"|\\\"\\\\\"".toList] := by
  have small : Decimal.isWritable (-1) = true := by decide +kernel
  have number : literalText (.int (-1)) = .ok (some "-1".toList) := by
    rw [literalText, TypeExpr.ofScalar, small]
    rfl
  have literals : [.text "|\"\\", .null, .int (-1), .text "|\"\\"].mapM literalText =
      .ok (["\"|\\\"\\\\\"".toList, "null".toList, "-1".toList,
        "\"|\\\"\\\\\"".toList].map some) :=
    mapM_eq_ok_of_forall₂ (.cons rfl (.cons rfl (.cons number (.cons rfl .nil))))
  obtain ⟨type, found, enumerates⟩ := (enumerates_iff_writable
    [.text "|\"\\", .null, .int (-1), .text "|\"\\"] (List.cons_ne_nil _ _)).1.mpr
    (by simpa using small)
  refine ⟨type, found, ?_⟩
  intro level
  have members := enumerates.members (by simp [Value.isJsonScalar]) level
  have same := Except.ok.inj (literals.symm.trans members)
  exact (List.map_injective_iff.mpr (Option.some_injective _) same).symm

/-- The least integer of too many digits. -/
theorem isWritable_power : Decimal.isWritable (10 ^ Decimal.digitLimit) = false := by
  simp [Decimal.isWritable, Int.natAbs_pow]

/-- An integer of too many digits has no literal, alone or beside a list. -/
theorem enumType_fails_of_long_integer :
    enumType [.int (10 ^ Decimal.digitLimit)] = .error .longInteger ∧
      enumType [.int (10 ^ Decimal.digitLimit), .list []] = .error .longInteger := by
  constructor
  · exact (enumType_eq_error_iff _ _).mpr
      ⟨rfl, 10 ^ Decimal.digitLimit, List.mem_cons_self, isWritable_power⟩
  · exact (enumType_eq_error_iff _ _).mpr
      ⟨rfl, 10 ^ Decimal.digitLimit, List.mem_cons_self, isWritable_power⟩

end Typing
end ApiTypings
