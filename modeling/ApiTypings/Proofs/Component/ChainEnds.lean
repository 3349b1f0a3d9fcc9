import ApiTypings.Proofs.Component.Resolution
import ApiTypings.Typing.Site

/-!
# The ends of chains

Following a node leads to an object, or to a reference that leads nowhere, or it never
ends. References that were followed before are told by their texts, and a component may be
spelled in many ways. Still every chain without an end comes back to a text, for there are
finitely many in the document; and a chain that comes back to a text never ends, for the
text determines what follows.
-/

namespace ApiTypings
namespace Component

open Document Relation

/-- A node is a reference that spells the pointer of the next node. -/
inductive Link (catalog : Catalog) : OrReference Target → OrReference Target → Prop
  | mk
      {reference : Reference}
      {pointer : Pointer}
      {next : OrReference Target}
      (parsed : Pointer.parse reference.target = .ok pointer)
      (found : catalog.get? pointer = some next) :
      Link catalog (.reference reference) next

/-- The chain of a node goes on and on. -/
def Endless (catalog : Catalog) (node : OrReference Target) : Prop :=
  ∃ chain : Nat → OrReference Target, chain 0 = node ∧ ∀ n, Link catalog (chain n) (chain (n + 1))

variable {catalog : Catalog} {location : Option String} {node next last : OrReference Target}

theorem Link.rightUnique : Relator.RightUnique (Link catalog) := by
  rintro _ _ _ ⟨parsed, found⟩ ⟨parsedThere, foundThere⟩
  rw [parsed] at parsedThere
  cases parsedThere
  rw [found] at foundThere
  exact Option.some.inj foundThere

theorem not_link_inline (target : Target) : ¬ Link catalog (.inline target) next := by
  intro link
  cases link

theorem not_link_of_resolve_error
    {reference : Reference}
    {error : ReferenceError}
    (failed : catalog.resolve reference.target location = .error error) :
    ¬ Link catalog (.reference reference) next := by
  rintro ⟨parsed, found⟩
  rw [Catalog.resolve_eq_ok_iff.mpr ⟨parsed, found⟩] at failed
  contradiction

theorem endless_iff_not_acc :
    Endless catalog node ↔ ¬ Acc (fun next node => Link catalog node next) node := by
  rw [not_acc_iff_exists_descending_chain]
  rfl

/-- A chain that reaches a node without a link ends. -/
theorem not_endless_of_reaches
    (reaches : ReflTransGen (Link catalog) node last)
    (final : ∀ next, ¬ Link catalog last next) :
    ¬ Endless catalog node := by
  rw [endless_iff_not_acc, not_not]
  induction reaches using ReflTransGen.head_induction_on with
  | refl => exact ⟨_, fun next link => absurd link (final next)⟩
  | head first _ hypothesis =>
      refine ⟨_, fun next link => ?_⟩
      rw [Link.rightUnique link first]
      exact hypothesis

theorem Endless.head (link : Link catalog node next) (endless : Endless catalog next) :
    Endless catalog node := by
  rw [endless_iff_not_acc] at endless ⊢
  exact fun accessible => endless (accessible.inv link)

/-- A chain that comes back to a text never ends. -/
theorem endless_of_circle
    {reference : Reference}
    (circle : TransGen (AliasStep catalog) reference.target reference.target) :
    Endless catalog (.reference reference) := by
  rw [endless_iff_not_acc]
  intro accessible
  generalize start : OrReference.reference reference = node at accessible
  induction accessible generalizing reference with
  | intro node _ hypothesis =>
      subst start
      obtain ⟨_, step, back⟩ := TransGen.head'_iff.mp circle
      obtain ⟨pointer, link, parsed, found, rfl⟩ := id step
      exact hypothesis (.reference link) (.mk parsed found) (.tail' back step) rfl

/-- What following a node gives, by the end of its chain. -/
inductive Ending
    (catalog : Catalog)
    (location : Option String)
    (node : OrReference Target) :
    Except ReferenceError Target → Prop
  | object
      {target : Target}
      (reaches : ReflTransGen (Link catalog) node (.inline target)) :
      Ending catalog location node (.ok target)
  | broken
      {reference : Reference}
      {error : ReferenceError}
      (reaches : ReflTransGen (Link catalog) node (.reference reference))
      (failed : catalog.resolve reference.target location = .error error) :
      Ending catalog location node (.error error)
  | circular
      {reference : String}
      {passed : List String}
      (endless : Endless catalog node) :
      Ending catalog location node (.error ⟨reference, .circular passed, location⟩)

theorem Ending.head
    {outcome : Except ReferenceError Target}
    (link : Link catalog node next)
    (ending : Ending catalog location next outcome) :
    Ending catalog location node outcome := by
  cases ending with
  | object reaches => exact .object (.head link reaches)
  | broken reaches failed => exact .broken (.head link reaches) failed
  | circular endless => exact .circular (endless.head link)

/-- Following a reference, past references from which the chain came, finds the end of the
chain. -/
theorem ending_follow
    {seen : List String}
    {text : String}
    (behind : ∀ other ∈ seen, TransGen (AliasStep catalog) other text)
    {reference : Reference}
    (same : reference.target = text) :
    Ending catalog location (.reference reference)
      ((catalog.follow location seen text).map Prod.snd) := by
  fun_induction Catalog.follow catalog location seen text generalizing reference with
  | case1 seen text known =>
      refine .circular (endless_of_circle ?_)
      rw [same]
      exact behind text known
  | case2 seen text _ error failed =>
      rw [← same] at failed
      exact .broken .refl failed
  | case3 seen text _ pointer target resolved =>
      obtain ⟨parsed, found⟩ := Catalog.resolve_eq_ok_iff.mp resolved
      rw [← same] at parsed
      exact .object (.single (.mk parsed found))
  | case4 seen text _ pointer link resolved _ _ hypothesis =>
      obtain ⟨parsed, found⟩ := Catalog.resolve_eq_ok_iff.mp resolved
      have step : AliasStep catalog text link.target := ⟨pointer, link, parsed, found, rfl⟩
      have further : ∀ other ∈ text :: seen, TransGen (AliasStep catalog) other link.target := by
        intro other member
        rcases List.mem_cons.mp member with rfl | known
        · exact .single step
        · exact (behind other known).tail step
      rw [← same] at parsed
      exact (hypothesis further rfl).head (.mk parsed found)

/-! ## One end only -/

theorem eq_of_reaches
    {other : OrReference Target}
    (reaches : ReflTransGen (Link catalog) node last)
    (final : ∀ next, ¬ Link catalog last next)
    (reachesOther : ReflTransGen (Link catalog) node other)
    (finalOther : ∀ next, ¬ Link catalog other next) :
    last = other := by
  rcases ReflTransGen.total_of_right_unique Link.rightUnique reaches reachesOther with on | on
  · rcases on.cases_head with same | ⟨next, link, _⟩
    · exact same
    · exact absurd link (final next)
  · rcases on.cases_head with same | ⟨next, link, _⟩
    · exact same.symm
    · exact absurd link (finalOther next)

namespace Ending

variable {outcome : Except ReferenceError Target}

/-- A chain that reaches an object ends there. -/
theorem eq_ok
    (ending : Ending catalog location node outcome)
    {target : Target}
    (reaches : ReflTransGen (Link catalog) node (.inline target)) :
    outcome = .ok target := by
  have final (next : OrReference Target) : ¬ Link catalog (.inline target) next :=
    not_link_inline target
  cases ending with
  | object reachesOther =>
      cases eq_of_reaches reaches final reachesOther fun _ => not_link_inline _
      rfl
  | broken reachesOther failed =>
      cases eq_of_reaches reaches final reachesOther fun _ => not_link_of_resolve_error failed
  | circular endless => exact absurd endless (not_endless_of_reaches reaches final)

/-- A chain that reaches a reference which leads nowhere ends there. -/
theorem eq_error
    (ending : Ending catalog location node outcome)
    {reference : Reference}
    {error : ReferenceError}
    (reaches : ReflTransGen (Link catalog) node (.reference reference))
    (failed : catalog.resolve reference.target location = .error error) :
    outcome = .error error := by
  have final (next : OrReference Target) : ¬ Link catalog (.reference reference) next :=
    not_link_of_resolve_error failed
  cases ending with
  | object reachesOther =>
      cases eq_of_reaches reaches final reachesOther fun _ => not_link_inline _
  | broken reachesOther failedOther =>
      cases eq_of_reaches reaches final reachesOther fun _ => not_link_of_resolve_error failedOther
      rw [failed] at failedOther
      cases failedOther
      rfl
  | circular endless => exact absurd endless (not_endless_of_reaches reaches final)

end Ending

theorem problem_ne_circular
    {reference : String}
    {error : ReferenceError}
    (failed : catalog.resolve reference location = .error error)
    (passed : List String) :
    error.problem ≠ .circular passed := by
  rcases catalog.resolve_cases reference location with
    ⟨_, _, resolved⟩ | ⟨_, _, _, resolved⟩ | ⟨_, _, _, _, resolved⟩
  · rw [resolved] at failed
    cases failed
    simp
  · rw [resolved] at failed
    cases failed
    simp
  · rw [resolved] at failed
    contradiction

end Component

namespace Typing

open Component Document Relation

/-- The target of a node is found at the end of its chain. -/
theorem ending_target (context : Context) (node : OrReference Target) :
    Ending context.catalog context.location node (context.target node) := by
  cases node with
  | inline target => exact .object .refl
  | reference reference => exact ending_follow (by simp) rfl

/-- Following a node finds the object at the end of its chain, fails like the first
reference of the chain that leads nowhere, or tells of a circle; the last exactly if the
chain never ends. -/
theorem target_by_chain (context : Context) (node : OrReference Target) :
    (∀ target, context.target node = .ok target ↔
      ReflTransGen (Link context.catalog) node (.inline target)) ∧
    (∀ error, context.target node = .error error ∧ (∀ passed, error.problem ≠ .circular passed) ↔
      ∃ last, ReflTransGen (Link context.catalog) node (.reference last) ∧
        context.catalog.resolve last.target context.location = .error error) ∧
    ((∃ reference passed,
      context.target node = .error ⟨reference, .circular passed, context.location⟩) ↔
      Endless context.catalog node) := by
  have ending := ending_target context node
  refine ⟨fun target => ⟨?_, ending.eq_ok⟩, fun error => ⟨?_, ?_⟩, ⟨?_, ?_⟩⟩
  · intro found
    rw [found] at ending
    cases ending with
    | object reaches => exact reaches
  · rintro ⟨failed, other⟩
    rw [failed] at ending
    cases ending with
    | broken reaches failedThere => exact ⟨_, reaches, failedThere⟩
    | circular endless => exact absurd rfl (other _)
  · rintro ⟨last, reaches, failed⟩
    exact ⟨ending.eq_error reaches failed, problem_ne_circular failed⟩
  · rintro ⟨reference, passed, failed⟩
    rw [failed] at ending
    cases ending with
    | broken _ failedThere => exact absurd rfl (problem_ne_circular failedThere passed)
    | circular endless => exact endless
  · intro endless
    generalize context.target node = outcome at ending
    cases ending with
    | object reaches =>
        exact absurd endless (not_endless_of_reaches reaches fun _ => not_link_inline _)
    | broken reaches failed =>
        exact absurd endless
          (not_endless_of_reaches reaches fun _ => not_link_of_resolve_error failed)
    | circular => exact ⟨_, _, rfl⟩

end Typing
end ApiTypings
