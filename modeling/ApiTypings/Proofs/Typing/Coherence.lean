import ApiTypings.Proofs.Component.Naming
import ApiTypings.Proofs.Component.Pointers
import ApiTypings.Proofs.Typing.Unfolding

/-!
# References and their canonical spellings

A reference in schema position is looked up by its canonical spelling. Where that
spells the pointer of the reference, the reference is mapped to the declaration of its
component.
-/

namespace ApiTypings
namespace Typing

open Component Document TypeScript

/-- A canonical spelling is read as its own pointer, and is canonical itself, exactly if
there is no percent escape in the name. Then a reference and its canonical spelling lead
to the same component or miss it alike, and every reference to a component schema is
mapped to the declaration of that schema. -/
theorem coherent_iff_unescaped (description : Description) :
    (∀ pointer : Pointer, pointer.name ≠ "" →
      (Pointer.parse pointer.text = .ok pointer ↔ Text.hasEscape pointer.name.toList = false)) ∧
    ∀ (spelling : String) (location : Option String) (pointer : Pointer),
      Catalog.parse spelling location = .ok pointer →
        Catalog.canonical spelling location = .ok pointer.text ∧
        (Catalog.canonical pointer.text location = .ok pointer.text ↔
          Text.hasEscape pointer.name.toList = false) ∧
        (Text.hasEscape pointer.name.toList = false →
          ((Catalog.ofDescription description).resolve pointer.text location).mapError
              ReferenceError.problem =
            ((Catalog.ofDescription description).resolve spelling location).mapError
              ReferenceError.problem ∧
          ∀ (name : String) (node : Node),
            (pointer, name, node) ∈ (Catalog.ofDescription description).declarations →
            ∀ (options : Options) (stack : List Pointer) (note : Option String),
              typeOf ⟨.ofDescription description, options, location⟩
                ⟨stack, .reference ⟨spelling, note⟩⟩ = .done (.reference name)) := by
  have roundTrip (pointer : Pointer) (named : pointer.name ≠ "") :
      Pointer.parse pointer.text = .ok pointer ↔ Text.hasEscape pointer.name.toList = false := by
    rw [Pointer.parse_text named, Except.ok.injEq, Pointer.decoded_eq_iff]
  refine ⟨roundTrip, ?_⟩
  intro spelling location pointer parsed
  have named := Pointer.name_ne_empty_of_parse (Catalog.parse_eq_ok_iff.mp parsed)
  refine ⟨Catalog.canonical_eq_of_parse parsed, Catalog.canonical_text_iff named location, ?_⟩
  intro plain
  constructor
  · have again : Catalog.parse pointer.text location = .ok pointer :=
      Catalog.parse_eq_ok_iff.mpr ((roundTrip pointer named).mpr plain)
    rw [Catalog.mapError_resolve again, Catalog.mapError_resolve parsed]
  · intro name node declared options stack note
    obtain ⟨key, listed, same⟩ := Catalog.mem_keys_of_mem_declarations declared
    obtain ⟨_, _, found⟩ := Catalog.exists_get?_of_mem_keys listed
    rw [← same] at found
    have table := Catalog.declaredName?_of_mem_declarations declared
    have undecoded := (Pointer.decoded_eq_iff pointer).mpr plain
    rw [typeOf_reference, refer_of_declared parsed (undecoded ▸ found) table]

/-- A name with both characters that are escaped, in a spelling that escapes one of them
by its byte. -/
theorem coherent_iff_unescaped_of_slash :
    let schema : Schema := { types := ["string"] }
    let description : Description := { components := { schemas := [("a/b~c", .inline schema)] } }
    let spelling := "#/components/schemas/a%2Fb~0c"
    Catalog.canonical spelling none = .ok "#/components/schemas/a~1b~0c" ∧
      Text.hasEscape "a/b~c".toList = false ∧
      typeOf ⟨.ofDescription description, {}, none⟩ ⟨[], .reference ⟨spelling, none⟩⟩ =
        .done (.reference "ABC") := by
  intro schema description spelling
  have parsed : Catalog.parse spelling none = .ok ⟨.schemas, "a/b~c"⟩ := by
    cbv
  have plain : Text.hasEscape "a/b~c".toList = false := by
    decide
  have declared : (⟨.schemas, "a/b~c"⟩, "ABC", .inline schema) ∈
      (Catalog.ofDescription description).declarations := by
    have only : (Catalog.ofDescription description).declarations =
        [(⟨.schemas, "a/b~c"⟩, "ABC", .inline schema)] := by
      cbv
    rw [only]
    exact List.mem_singleton_self _
  obtain ⟨canonical, _, coherent⟩ := (coherent_iff_unescaped description).2 spelling none _ parsed
  exact ⟨canonical, plain, (coherent plain).2 _ _ declared {} [] none⟩

/-- A component whose name looks like a percent escape cannot be referred to: its
canonical spelling spells another component. -/
theorem not_coherent_of_escape :
    let schema : Schema := { types := ["string"] }
    let description : Description := { components := { schemas := [("a%41", .inline schema)] } }
    let catalog := Catalog.ofDescription description
    let spelling := "#/components/schemas/a%2541"
    let pointer : Pointer := ⟨.schemas, "a%41"⟩
    Catalog.parse spelling none = .ok pointer ∧
      (catalog.resolve spelling none).isOk = true ∧
      Catalog.canonical spelling none = .ok "#/components/schemas/a%41" ∧
      Catalog.canonical "#/components/schemas/a%41" none = .ok "#/components/schemas/aA" ∧
      (catalog.resolve pointer.text none).isOk = false ∧
      typeOf ⟨catalog, {}, none⟩ ⟨[], .reference ⟨spelling, none⟩⟩ =
        .fail ⟨"#/components/schemas/a%41", .missing ⟨.schemas, "aA"⟩ ["a%41"], none⟩ := by
  intro schema description catalog spelling pointer
  have referred : Context.refer ⟨catalog, {}, none⟩ [] spelling =
      .error ⟨"#/components/schemas/a%41", .missing ⟨.schemas, "aA"⟩ ["a%41"], none⟩ := by
    cbv
  refine ⟨by cbv, by cbv, by cbv, by cbv, by cbv, ?_⟩
  rw [typeOf_reference, referred]

end Typing
end ApiTypings
