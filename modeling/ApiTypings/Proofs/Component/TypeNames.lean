import ApiTypings.Proofs.Component.Distinct

/-!
# Declared names are names of types

A component is declared by a word that is not reserved, whatever characters its own name is
made of. The one exception is a word with a line feed behind it, which counts as a word and is
declared as it stands.
-/

namespace ApiTypings
namespace TypeScript

/-- A name that a type can be declared by: a word, and none that is reserved. -/
structure IsTypeName (name : String) : Prop where
  word : isWord name.toList = true
  free : name ∉ reservedNames

/-- A name is a word with a line feed behind it. -/
def EndsLine (name : String) : Prop :=
  ∃ word, isWord word = true ∧ name.toList = word ++ ['\n']

/-! ## Words -/

theorem all_of_isWord {text : List Char} (word : isWord text = true) :
    text.all isNameChar = true := by
  cases text with
  | nil => contradiction
  | cons c rest =>
      simp only [isWord, Bool.and_eq_true] at word
      rw [List.all_cons, isNameChar_of_isNameStart word.1, word.2]
      rfl

theorem isWord_append
    {text more : List Char}
    (word : isWord text = true)
    (names : more.all isNameChar = true) :
    isWord (text ++ more) = true := by
  cases text with
  | nil => contradiction
  | cons c rest =>
      simp only [isWord, Bool.and_eq_true] at word
      simp [isWord, word.1, word.2, names]

/-- A text with a line feed in it is no word. -/
theorem not_isWord_of_mem {text : List Char} (broken : '\n' ∈ text) : isWord text = false := by
  rw [← Bool.not_eq_true]
  intro word
  have name := List.all_eq_true.mp (all_of_isWord word) '\n' broken
  contradiction

theorem EndsLine.mem {name : String} (broken : EndsLine name) : '\n' ∈ name.toList := by
  obtain ⟨word, _, same⟩ := broken
  rw [same]
  exact List.mem_append_right word List.mem_cons_self

theorem not_endsLine_of_isWord {name : String} (word : isWord name.toList = true) :
    ¬ EndsLine name := by
  intro broken
  rw [not_isWord_of_mem broken.mem] at word
  contradiction

/-- An identifier is a word, or a word with a line feed behind it. -/
theorem isIdentifier_iff (name : String) :
    isIdentifier name.toList = true ↔ isWord name.toList = true ∨ EndsLine name := by
  unfold EndsLine
  generalize name.toList = text
  cases text with
  | nil => simp [isIdentifier, isWord]
  | cons c rest =>
      rcases List.eq_nil_or_concat' rest with rfl | ⟨init, last, rfl⟩
      · constructor
        · intro identifier
          exact .inl identifier
        · rintro (word | ⟨_ | ⟨first, more⟩, word, same⟩)
          · exact word
          · contradiction
          · simp at same
      · by_cases broken : last = '\n'
        · subst broken
          have body : isIdentifier (c :: (init ++ ['\n'])) = isWord (c :: init) := by
            simp [isIdentifier, isWord]
          have noWord : isWord (c :: (init ++ ['\n'])) = false :=
            not_isWord_of_mem (by simp)
          rw [body, noWord]
          constructor
          · intro word
            exact .inr ⟨c :: init, word, rfl⟩
          · rintro (impossible | ⟨word, isWord, same⟩)
            · contradiction
            · rw [← List.cons_append] at same
              rw [List.append_cancel_right same]
              exact isWord
        · have body : isIdentifier (c :: (init ++ [last])) = isWord (c :: (init ++ [last])) := by
            simp [isIdentifier, isWord, broken]
          rw [body]
          constructor
          · exact .inl
          · rintro (word | ⟨word, _, same⟩)
            · exact word
            · rw [← List.cons_append] at same
              have ends := (List.append_inj' same rfl).2
              exact absurd (List.singleton_injective ends) broken

/-! ## Names of components -/

/-- The capitalised runs of a name do not start with a digit. -/
theorem isDigit_of_pascalCase
    {name : List Char}
    {c : Char}
    {rest : List Char}
    (text : pascalCase name = c :: rest) :
    c.isDigit = false := by
  unfold pascalCase at text
  dsimp only at text
  split at text
  · rename_i joined
    split at text
    · cases text
      rfl
    · rename_i noDigit
      rw [joined] at text
      cases text
      exact Bool.eq_false_of_not_eq_true noDigit
  · contradiction

/-- The capitalised runs of a name make up a word, if there are any. -/
theorem isWord_pascalCase {name : List Char} (some : pascalCase name ≠ []) :
    isWord (pascalCase name) = true := by
  have names := all_pascalCase name
  cases text : pascalCase name with
  | nil => exact absurd text some
  | cons c rest =>
      rw [text, List.all_cons, Bool.and_eq_true] at names
      have start : isNameStart c = true := by
        simpa [isNameChar, isNameStart, Char.isAlphanum, isDigit_of_pascalCase text] using names.1
      rw [isWord, start, names.2]
      rfl

/-- A word or nothing is made the name of a type: reserved words are set apart. -/
theorem isTypeName_setApart
    {plain : String}
    (word : plain.isEmpty = false → isWord plain.toList = true) :
    IsTypeName (if reservedNames.contains plain then plain ++ "_"
      else if plain.isEmpty then unnamedType else plain) := by
  split
  · rename_i reserved
    have listed := List.contains_iff_mem.mp reserved
    have words : ∀ name ∈ reservedNames, isWord name.toList = true := by decide
    have apart : ∀ name ∈ reservedNames, name ++ "_" ∉ reservedNames := by decide
    refine ⟨?_, apart plain listed⟩
    rw [String.toList_append]
    exact isWord_append (words plain listed) rfl
  · rename_i free
    split
    · exact ⟨by decide, by decide⟩
    · rename_i some
      refine ⟨word (Bool.eq_false_of_not_eq_true some), ?_⟩
      intro reserved
      exact free (List.contains_iff_mem.mpr reserved)

/-- A name that types can be declared by is kept. -/
theorem declarableName_of_isTypeName {name : String} (legal : IsTypeName name) :
    declarableName name = name := by
  have some : name.isEmpty = false := by
    rw [← Bool.not_eq_true, String.isEmpty_iff]
    rintro rfl
    exact absurd legal.word (by decide)
  have identifier := (isIdentifier_iff name).mpr (.inl legal.word)
  simp [declarableName, some, identifier, legal.free]

/-- A word with a line feed behind it is kept, too. -/
theorem declarableName_of_endsLine {name : String} (broken : EndsLine name) :
    declarableName name = name := by
  have some : name.isEmpty = false := by
    rw [← Bool.not_eq_true, String.isEmpty_iff]
    rintro rfl
    exact absurd broken.mem (by decide)
  have identifier := (isIdentifier_iff name).mpr (.inr broken)
  have free : name ∉ reservedNames := by
    have whole : ∀ reserved ∈ reservedNames, '\n' ∉ reserved.toList := by decide
    intro reserved
    exact whole name reserved broken.mem
  simp [declarableName, some, identifier, free]

theorem isTypeName_declarableName {name : String} (whole : ¬ EndsLine name) :
    IsTypeName (declarableName name) := by
  unfold declarableName
  split
  · exact ⟨by decide, by decide⟩
  · dsimp only
    apply isTypeName_setApart
    intro some
    split
    · rename_i identifier
      exact ((isIdentifier_iff name).mp identifier).resolve_right whole
    · rename_i other
      rw [if_neg other] at some
      rw [String.toList_ofList]
      apply isWord_pascalCase
      intro nothing
      rw [nothing] at some
      contradiction

end TypeScript

namespace Component

open TypeScript

/-! ## The table of names -/

/-- A name stays the name of a type when it is made new by a number. -/
theorem isTypeName_freshName (taken : List String) {wanted : String} (legal : IsTypeName wanted) :
    IsTypeName (freshName taken wanted) := by
  by_cases known : wanted ∈ taken
  · obtain ⟨number, least, same⟩ := freshName_isLeast known
    have names := all_of_isWord legal.word
    obtain ⟨_, free⟩ := declarable_numbered (all_isDeclarable names) least.1.1
    rw [same]
    refine ⟨?_, free⟩
    rw [String.toList_append]
    exact isWord_append legal.word (all_isNameChar_toString number)
  · rw [freshName_of_not_mem known]
    exact legal

/-- The characters of a name stay in it when it is made new by a number. -/
theorem mem_freshName
    (taken : List String)
    {wanted : String}
    {c : Char}
    (inside : c ∈ wanted.toList) :
    c ∈ (freshName taken wanted).toList := by
  by_cases known : wanted ∈ taken
  · obtain ⟨number, _, same⟩ := freshName_isLeast known
    rw [same, String.toList_append]
    exact List.mem_append_left _ inside
  · rw [freshName_of_not_mem known]
    exact inside

/-- What is assigned to a component is the name of a type, unless the name of the component
ends a line. -/
theorem isTypeName_assignNames_iff
    {taken names : List String}
    {entry : String × String}
    (listed : entry ∈ assignNames taken names) :
    IsTypeName entry.2 ↔ ¬ EndsLine entry.1 := by
  induction names generalizing taken with
  | nil => contradiction
  | cons name rest hypothesis =>
      rcases List.mem_cons.mp listed with rfl | later
      · constructor
        · intro legal broken
          have inside : '\n' ∈ (freshName taken (declarableName name)).toList := by
            rw [declarableName_of_endsLine broken]
            exact mem_freshName taken broken.mem
          exact absurd legal.word (by rw [not_isWord_of_mem inside]; decide)
        · intro whole
          exact isTypeName_freshName taken (isTypeName_declarableName whole)
      · exact hypothesis later

/-- The name under which a component is declared is the name of a type, and so is every name in
the table of a document, with or without a number, unless the name of the component is a word
with a line feed behind it. A component that has such a name or the name of a type keeps it. -/
theorem isTypeName_declared_iff (name : String) (description : Document.Description) :
    (IsTypeName (declarableName name) ↔ ¬ EndsLine name) ∧
      (EndsLine name → declarableName name = name) ∧
      (IsTypeName name → declarableName name = name) ∧
      ∀ entry ∈ (Catalog.ofDescription description).names,
        IsTypeName entry.2 ↔ ¬ EndsLine entry.1 := by
  refine ⟨⟨?_, isTypeName_declarableName⟩, declarableName_of_endsLine,
    declarableName_of_isTypeName, ?_⟩
  · intro legal broken
    rw [declarableName_of_endsLine broken] at legal
    exact not_endsLine_of_isWord legal.word broken
  · intro entry listed
    exact isTypeName_assignNames_iff listed

/-- A component that is named by a word with a line feed behind it is declared by it. -/
theorem not_isTypeName_of_line_feed :
    let description : Document.Description :=
      { components := { schemas := [("Pet\n", .inline {})] } }
    ¬ IsTypeName (declarableName "Pet\n") ∧
      (Catalog.ofDescription description).names = [("Pet\n", "Pet\n")] := by
  intro description
  have broken : EndsLine "Pet\n" := ⟨"Pet".toList, by decide, by decide⟩
  have kept := declarableName_of_endsLine broken
  constructor
  · rw [kept]
    intro legal
    exact not_endsLine_of_isWord legal.word broken
  · have named : (Catalog.ofDescription description).names =
        [("Pet\n", freshName [] (declarableName "Pet\n"))] := rfl
    rw [named, kept, freshName_of_not_mem List.not_mem_nil]

end Component
end ApiTypings
