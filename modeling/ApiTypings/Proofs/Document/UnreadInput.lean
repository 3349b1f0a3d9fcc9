import ApiTypings.Proofs.Document.DescriptionReadings
import ApiTypings.Proofs.Document.Idempotence
import ApiTypings.Proofs.Typing.ModuleCongruence

/-!
# Unread input

Keys that no model knows, extensions among the paths and fields that are not read have no
influence on what is made of a document. Descriptions, examples and the like have none if no
comments are asked for.
-/

namespace ApiTypings

open Document Typing

/-- Documents that resemble each other fail with the same failure, or have normal forms that
resemble each other. -/
theorem corresponds_validateDocument
    {detail : Detail}
    {document other : Value}
    (resembles : Resembles detail (.model .document) document other)
    (source : String) :
    Corresponds (Resembles detail (.model .document))
      (validateDocument source document) (validateDocument source other) := by
  have checks := corresponds_normalize resembles rfl
  have mapping : other.isMapping = document.isMapping := by
    cases resembles <;> rfl
  unfold validateDocument
  rw [mapping]
  generalize normalize (.model .document) document = left at checks
  generalize normalize (.model .document) other = right at checks
  split
  · cases checks with
    | ok related => exact .ok related
    | error issues =>
        dsimp only
        split <;> exact .error _
  · exact .error _

/-- Unread input does not matter. Of documents that differ only in what is not looked at,
both are valid or both fail with the same failure, and whatever the options are, compiling
them reports the same and gives the same text or the same failure. If no comments are asked
for, what only comments are made of is not looked at. -/
theorem compile_eq_of_resembles
    (source : String)
    (detail : Detail)
    (document other options : Value)
    (resembles : Resembles detail (.model .document) document other)
    (quiet : detail = .bare → ∀ chosen, readOptions options = .ok chosen →
      chosen.includeDescriptions = false ∧ chosen.includeExamples = false) :
    ((∃ failure, validateDocument source document = .error failure ∧
        validateDocument source other = .error failure) ∨
      ∃ valid validToo, validateDocument source document = .ok valid ∧
        validateDocument source other = .ok validToo) ∧
    compile source other options = compile source document options := by
  have checks := corresponds_validateDocument resembles source
  unfold compile
  cases checked : validateDocument source document with
  | error failure =>
      rw [checks.eq_error checked]
      exact ⟨.inl ⟨failure, rfl, rfl⟩, rfl⟩
  | ok valid =>
      obtain ⟨validToo, checkedToo, related⟩ := checks.exists_ok checked
      rw [checkedToo]
      refine ⟨.inr ⟨valid, validToo, rfl, rfl⟩, ?_⟩
      cases chosen : readOptions options with
      | error failure => rfl
      | ok options =>
          have normal {value result : Value}
              (accepted : validateDocument source value = .ok result) :
              Normal (.model .document) result :=
            settles value _ rfl result (validateDocument_eq_ok_iff.mp accepted)
          have descriptions := matches_description ⟨related, normal checked, normal checkedToo⟩
          have same := generateFrom_of_matches descriptions fun bare => quiet bare options chosen
          dsimp only
          rw [same]

/-- Documents that differ in a version, an extension among the paths, a key that no model
knows, and in the summary and the deprecation of an operation, compiled without options. -/
theorem compile_eq_of_resembles_of_summary :
    compile "a.json"
      (.mapping [
        ("paths", .mapping [("/a", .mapping [("get", .mapping [
          ("responses", .mapping []), ("summary", .text "List")])])]),
        ("x-origin", .null)]) .null =
    compile "a.json"
      (.mapping [
        ("openapi", .text "3.0.0"),
        ("paths", .mapping [("x-a", .null), ("/a", .mapping [("get", .mapping [
          ("deprecated", .bool true), ("responses", .mapping [])])])])]) .null := by
  have operation : Resembles .bare (.model .operation)
      (.mapping [("deprecated", .bool true), ("responses", .mapping [])])
      (.mapping [("responses", .mapping []), ("summary", .text "List")]) := by
    refine .model (fun field => field.key ∈ ["deprecated", "summary"]) rfl ?_ ?_ ?_
    · intro field listed isFree
      fin_cases listed
      all_goals try exact absurd isFree (by decide)
      · exact ⟨rfl, by rintro _ ⟨⟩, by rintro _ ⟨⟩; exact ⟨.text "List", by cbv⟩⟩
      · exact ⟨rfl, by rintro _ ⟨⟩; exact ⟨.bool true, by cbv⟩, by rintro _ ⟨⟩⟩
    · intro field listed bound
      fin_cases listed
      all_goals first | rfl | exact absurd (by decide) bound
    · intro field listed bound given another isGiven isGivenToo
      fin_cases listed
      all_goals try contradiction
      cases isGiven
      cases isGivenToo
      exact .refl _ _
  have item : Resembles .bare (.model .pathItem)
      (.mapping [("get", .mapping [("deprecated", .bool true), ("responses", .mapping [])])])
      (.mapping [("get", .mapping [("responses", .mapping []), ("summary", .text "List")])]) := by
    refine .model (fun _ => False) rfl (fun _ _ isFree => isFree.elim) ?_ ?_
    · intro field listed _
      fin_cases listed <;> rfl
    · intro field listed _ given another isGiven isGivenToo
      fin_cases listed
      all_goals try contradiction
      cases isGiven
      cases isGivenToo
      exact .optional operation
  refine (compile_eq_of_resembles "a.json" .bare _ _ _ ?_ ?_).2
  · refine .model (fun field => field.key = "openapi") rfl ?_ ?_ ?_
    · intro field listed isFree
      fin_cases listed
      all_goals try exact absurd isFree (by decide)
      exact ⟨rfl, by rintro _ ⟨⟩; exact ⟨.text "3.0.0", by cbv⟩, by rintro _ ⟨⟩⟩
    · intro field listed bound
      fin_cases listed
      all_goals first | rfl | exact absurd rfl bound
    · intro field listed bound given another isGiven isGivenToo
      fin_cases listed
      all_goals try contradiction
      cases isGiven
      cases isGivenToo
      exact .extensibleMap (.ofEntries (.cons ⟨rfl, item⟩ .nil))
  · intro _ chosen read
    cases read
    exact ⟨rfl, rfl⟩

end ApiTypings
