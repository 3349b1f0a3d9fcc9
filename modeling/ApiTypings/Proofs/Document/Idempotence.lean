import ApiTypings.Compile
import ApiTypings.Proofs.Document.Normal

/-!
# Validation is idempotent

The normal form of an object is accepted by the same model, gives the same fields and is its
own normal form. So a document and its normal form are compiled alike.
-/

namespace ApiTypings
namespace Document

namespace Model

/-- The keys of the fields that a value gives. -/
def present (model : Model) (value : Value) : List String :=
  (model.fields.filter fun field => (field.given? (namedEntries value)).isSome).map Field.key

/-- The model of a value that may be a reference instead. -/
def tagged (model : Model) (value : Value) : Model :=
  if isReference (namedEntries value) then .reference else model

end Model

/-- The normal form gives the fields that the object gives. -/
theorem present_of_normalize
    {model : Model}
    {value normal : Value}
    (checked : normalize (.model model) value = .ok normal) :
    model.present normal = model.present value := by
  obtain ⟨strays, normalized⟩ := exists_of_normalize_model checked
  obtain ⟨record, unknown, complete, fields, rest, rfl⟩ := normalizeModel_eq_ok_iff.mp normalized
  have foreign := foreign_of_checkUnknown complete fields rest
  unfold Model.present
  congr 1
  apply List.filter_congr
  intro field listed
  rw [← complete] at listed
  obtain ⟨pair, inRecord, rfl⟩ := List.mem_map.mp listed
  have given := given?_record complete foreign inRecord
  rw [namedEntries, given]
  rcases Field.check_eq_ok_iff.mp (fields pair inRecord) with ⟨missing, absent, _⟩ | found
  · rw [missing, absent]
    rfl
  · obtain ⟨key, origin, result, isGiven, same, _⟩ := found
    rw [isGiven, same]
    rfl

end Document

open Document

theorem validateDocument_eq_ok_iff {source : String} {document normal : Value} :
    validateDocument source document = .ok normal ↔
      normalize (.model .document) document = .ok normal := by
  unfold validateDocument
  split
  · cases Document.normalize (.model .document) document with
    | ok found => rw [Except.ok.injEq, Except.ok.injEq]
    | error issues =>
        dsimp only
        split <;> exact iff_of_false nofun nofun
  · rename_i noMapping
    refine iff_of_false nofun ?_
    intro checked
    rw [Document.normalize.eq_def] at checked
    cases document <;> contradiction

/-- Validation is idempotent. Whatever an object is accepted for, its normal form is
accepted, gives the same fields and is normal; the same holds where a reference may stand,
and the normal form of a reference is one. A document may be replaced by its normal form. -/
theorem normalize_idempotent :
    (∀ (model : Model) (value normal : Value),
      normalize (.model model) value = .ok normal →
        normalize (.model model) normal = .ok normal ∧
          model.present normal = model.present value) ∧
    (∀ (model : Model) (value normal : Value), model ≠ .reference →
      normalize (.orReference model) value = .ok normal →
        normalize (.orReference model) normal = .ok normal ∧
          model.tagged normal = model.tagged value ∧
          (model.tagged value).present normal = (model.tagged value).present value) ∧
    ∀ (source : String) (document normal options : Value),
      validateDocument source document = .ok normal →
        validateDocument source normal = .ok normal ∧
          compile source normal options = compile source document options := by
  have fixed (shape : Shape) (value normal : Value) (stable : shape.isStable = true)
      (checked : normalize shape value = .ok normal) : normalize shape normal = .ok normal :=
    (settles value shape stable normal checked).normalize_eq
  refine ⟨?_, ?_, ?_⟩
  · intro model value normal checked
    exact ⟨fixed _ _ _ rfl checked, present_of_normalize checked⟩
  · intro model value normal other checked
    refine ⟨fixed _ _ _ (decide_eq_true other) checked, ?_, ?_⟩
    · rw [Model.tagged, isReference_of_normalize other checked, Model.tagged]
    · rw [normalize_orReference] at checked
      unfold Model.tagged
      split at checked
      · rw [if_pos ‹_›]
        exact present_of_normalize (Checked.under_eq_ok_iff.mp checked)
      · rw [if_neg ‹_›]
        exact present_of_normalize (Checked.under_eq_ok_iff.mp checked)
  · intro source document normal options checked
    have again : validateDocument source normal = .ok normal :=
      validateDocument_eq_ok_iff.mpr (fixed _ _ _ rfl (validateDocument_eq_ok_iff.mp checked))
    refine ⟨again, ?_⟩
    unfold compile
    rw [again, checked]

/-- A parameter with both spellings of a field and a number as flag, a reference among
responses, and a document with an extension among its paths. -/
theorem normalize_idempotent_of_spellings :
    (normalize (.model .parameter)
        (.mapping [("in_", .text "query"), ("name", .text "page"), ("required", .int 1),
          ("in", .text "path"), ("x-note", .null)]) =
          .ok (.mapping [("name", .text "page"), ("in", .text "path"), ("required", .bool true),
            ("in_", .text "query"), ("x-note", .null)]) ∧
      normalize (.model .parameter)
        (.mapping [("name", .text "page"), ("in", .text "path"), ("required", .bool true),
          ("in_", .text "query"), ("x-note", .null)]) =
          .ok (.mapping [("name", .text "page"), ("in", .text "path"), ("required", .bool true),
            ("in_", .text "query"), ("x-note", .null)])) ∧
    (normalize (.orReference .response)
        (.mapping [("description", .null), ("$ref", .text "#/components/responses/Gone")]) =
          .ok (.mapping [("$ref", .text "#/components/responses/Gone"), ("description", .null)]) ∧
      Model.tagged .response
        (.mapping [("$ref", .text "#/components/responses/Gone"), ("description", .null)]) =
          .reference) ∧
    (validateDocument "a.json"
        (.mapping [("x-origin", .bool true),
          ("paths", .mapping [("x-a", .null), ("/a", .mapping [("get", .mapping [])])])]) =
        .ok (.mapping [("paths", .mapping [("/a", .mapping [("get", .mapping [])])]),
          ("x-origin", .bool true)]) ∧
      compile "a.json"
        (.mapping [("paths", .mapping [("/a", .mapping [("get", .mapping [])])]),
          ("x-origin", .bool true)]) .null =
      compile "a.json"
        (.mapping [("x-origin", .bool true),
          ("paths", .mapping [("x-a", .null), ("/a", .mapping [("get", .mapping [])])])])
        .null) := by
  have parameter : normalize (.model .parameter)
      (.mapping [("in_", .text "query"), ("name", .text "page"), ("required", .int 1),
        ("in", .text "path"), ("x-note", .null)]) =
        .ok (.mapping [("name", .text "page"), ("in", .text "path"), ("required", .bool true),
          ("in_", .text "query"), ("x-note", .null)]) := by cbv
  have response : normalize (.orReference .response)
      (.mapping [("description", .null), ("$ref", .text "#/components/responses/Gone")]) =
        .ok (.mapping [("$ref", .text "#/components/responses/Gone"), ("description", .null)]) := by
    cbv
  have document : validateDocument "a.json"
      (.mapping [("x-origin", .bool true),
        ("paths", .mapping [("x-a", .null), ("/a", .mapping [("get", .mapping [])])])]) =
      .ok (.mapping [("paths", .mapping [("/a", .mapping [("get", .mapping [])])]),
        ("x-origin", .bool true)]) := by cbv
  refine ⟨⟨parameter, ?_⟩, ⟨response, ?_⟩, document, ?_⟩
  · exact (normalize_idempotent.1 _ _ _ parameter).1
  · exact (normalize_idempotent.2.1 _ _ _ (by decide) response).2.1.trans (by cbv)
  · exact (normalize_idempotent.2.2 _ _ _ .null document).2

end ApiTypings
