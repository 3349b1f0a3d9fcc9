import ApiTypings.Proofs.Outcome
import ApiTypings.Typing.Traced

/-!
# Results of traced computations

When a computation of several steps has a result, each step has one.
-/

namespace ApiTypings
namespace Typing
namespace Traced

variable {α β : Type}

theorem result_bind (first : Traced α) (next : α → Traced β) :
    (first >>= next).result = first.result >>= fun value => (next value).result := by
  change (first.andThen next).result = _
  unfold andThen
  cases first.result <;> rfl

theorem exists_of_result_bind
    {first : Traced α}
    {next : α → Traced β}
    {result : β}
    (finished : (first >>= next).result = .ok result) :
    ∃ value, first.result = .ok value ∧ (next value).result = .ok result := by
  rw [result_bind] at finished
  exact exists_of_bind_eq_ok finished

theorem result_bind_eq_ok_iff {first : Traced α} {next : α → Traced β} {result : β} :
    (first >>= next).result = .ok result ↔
      ∃ value, first.result = .ok value ∧ (next value).result = .ok result := by
  refine ⟨exists_of_result_bind, ?_⟩
  rintro ⟨value, found, finished⟩
  rw [result_bind, found]
  exact finished

theorem bind_congr
    {first : Traced α}
    {next other : α → Traced β}
    (same : ∀ value, first.result = .ok value → next value = other value) :
    (first >>= next) = first >>= other := by
  change first.andThen next = first.andThen other
  unfold andThen
  split
  · rfl
  · rename_i value finished
    rw [same value finished]

theorem eq_of_result_pure {value result : α} (finished : (pure value : Traced α).result = .ok result) :
    result = value :=
  (Except.ok.inj finished).symm

theorem ofWritten_eq_ok
    {written : Except Json.WriteError α}
    {result : α}
    (finished : (ofWritten written).result = .ok result) :
    written = .ok result := by
  cases written with
  | error error => contradiction
  | ok value => exact congrArg _ (Except.ok.inj finished)

theorem ofReferred_eq_ok
    {referred : Except Component.ReferenceError α}
    {result : α}
    (finished : (ofReferred referred).result = .ok result) :
    referred = .ok result := by
  cases referred with
  | error error => contradiction
  | ok value => exact congrArg _ (Except.ok.inj finished)

/-- Computations in order have results one by one. -/
theorem forall₂_of_sequence
    {step : α → Traced β}
    {items : List α}
    {results : List β}
    (finished : (sequence (items.map step)).result = .ok results) :
    List.Forall₂ (fun item result => (step item).result = .ok result) items results := by
  induction items generalizing results with
  | nil =>
      cases eq_of_result_pure finished
      exact .nil
  | cons item rest hypothesis =>
      obtain ⟨first, single, finished⟩ := exists_of_result_bind finished
      obtain ⟨others, several, finished⟩ := exists_of_result_bind finished
      cases eq_of_result_pure finished
      exact .cons single (hypothesis several)

/-- Computations that have results one by one have them in order. -/
theorem sequence_of_forall₂
    {step : α → Traced β}
    {items : List α}
    {results : List β}
    (each : List.Forall₂ (fun item result => (step item).result = .ok result) items results) :
    (sequence (items.map step)).result = .ok results := by
  induction each with
  | nil => rfl
  | cons single _ hypothesis =>
      change (step _ >>= fun value => sequence _ >>= fun values => pure (value :: values)).result = _
      simp only [result_bind, single, hypothesis]
      rfl

/-! ## Good results -/

/-- If a computation has a result, it is a good one. -/
def Yields (Good : α → Prop) (computation : Traced α) : Prop :=
  ∀ value, computation.result = .ok value → Good value

namespace Yields

theorem bind
    {Good : α → Prop}
    {Better : β → Prop}
    {computation : Traced α}
    (first : computation.Yields Good)
    {next : α → Traced β}
    (after : ∀ value, Good value → (next value).Yields Better) :
    (computation >>= next).Yields Better := by
  intro result finished
  obtain ⟨value, started, finished⟩ := exists_of_result_bind finished
  exact after value (first value started) result finished

theorem pure {Good : α → Prop} {value : α} (good : Good value) :
    (Pure.pure value : Traced α).Yields Good := by
  intro result finished
  rw [eq_of_result_pure finished]
  exact good

theorem sequence
    {Good : α → β → Prop}
    {step : α → Traced β}
    {items : List α}
    (each : ∀ item ∈ items, (step item).Yields (Good item)) :
    (Traced.sequence (items.map step)).Yields (List.Forall₂ Good items) := by
  intro results finished
  refine forall₂_mono_of_mem (forall₂_of_sequence finished) ?_
  intro item listed result single
  exact each item listed result single

theorem each
    {Good : β → Prop}
    {step : α → Traced β}
    {items : List α}
    (good : ∀ item ∈ items, (step item).Yields Good) :
    (Traced.sequence (items.map step)).Yields fun results => ∀ result ∈ results, Good result := by
  intro results finished result listed
  obtain ⟨item, member, single⟩ := exists_left_of_forall₂ (forall₂_of_sequence finished) listed
  exact good item member result single

theorem ofReferred (outcome : Except Component.ReferenceError α) :
    (Traced.ofReferred outcome).Yields fun value => outcome = .ok value :=
  fun _ finished => ofReferred_eq_ok finished

theorem ofWritten (outcome : Except Json.WriteError α) :
    (Traced.ofWritten outcome).Yields fun value => outcome = .ok value :=
  fun _ finished => ofWritten_eq_ok finished

end Yields

end Traced
end Typing
end ApiTypings
