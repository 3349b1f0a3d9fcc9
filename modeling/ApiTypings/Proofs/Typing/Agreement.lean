import ApiTypings.Proofs.Typing.Results

/-!
# Two runs that agree

Two computations agree if both have related results or both fail in the same way;
the first one may also fail in a way that is excused. Computations that are put
together from steps which agree do so, too.
-/

namespace ApiTypings
namespace Typing

variable {α β γ δ : Type}

/-- The outcomes of two computations agree. -/
inductive Agrees (Excused : Interruption → Prop) (Related : α → β → Prop) :
    Except Interruption α → Except Interruption β → Prop
  | ok {left : α} {right : β} (related : Related left right) :
      Agrees Excused Related (.ok left) (.ok right)
  | error (interruption : Interruption) :
      Agrees Excused Related (.error interruption) (.error interruption)
  | excused
      {interruption : Interruption}
      (excuse : Excused interruption)
      (other : Except Interruption β) :
      Agrees Excused Related (.error interruption) other

namespace Agrees

variable
    {Excused : Interruption → Prop}
    {Related : α → β → Prop}
    {Further : γ → δ → Prop}

theorem mono
    {Wider : α → β → Prop}
    (wider : ∀ left right, Related left right → Wider left right)
    {first : Except Interruption α}
    {second : Except Interruption β}
    (agrees : Agrees Excused Related first second) :
    Agrees Excused Wider first second := by
  cases agrees with
  | ok related => exact .ok (wider _ _ related)
  | error interruption => exact .error interruption
  | excused excuse => exact .excused excuse second

/-- The results that are related are those of the computations. -/
theorem and_ok
    {first : Except Interruption α}
    {second : Except Interruption β}
    (agrees : Agrees Excused Related first second) :
    Agrees Excused (fun left right => Related left right ∧ first = .ok left ∧ second = .ok right)
      first second := by
  cases agrees with
  | ok related => exact .ok ⟨related, rfl, rfl⟩
  | error interruption => exact .error interruption
  | excused excuse => exact .excused excuse second

theorem refl (outcome : Except Interruption α) : Agrees Excused Eq outcome outcome := by
  cases outcome with
  | error interruption => exact .error interruption
  | ok value => exact .ok rfl

theorem outcomes
    {first : Except Interruption α}
    {second : Except Interruption β}
    (agrees : Agrees Excused Related first second) :
    (∃ interruption, first = .error interruption ∧ second = .error interruption) ∨
      (∃ left right, first = .ok left ∧ second = .ok right ∧ Related left right) ∨
      ∃ interruption, Excused interruption ∧ first = .error interruption := by
  cases agrees with
  | ok related => exact .inr (.inl ⟨_, _, rfl, rfl, related⟩)
  | error interruption => exact .inl ⟨interruption, rfl, rfl⟩
  | excused excuse => exact .inr (.inr ⟨_, excuse, rfl⟩)

/-- Steps that agree are followed by steps that agree. -/
theorem bind
    {first : Traced α}
    {second : Traced β}
    {next : α → Traced γ}
    {nextOther : β → Traced δ}
    (agrees : Agrees Excused Related first.result second.result)
    (goesOn : ∀ left right, Related left right →
      Agrees Excused Further (next left).result (nextOther right).result) :
    Agrees Excused Further (first >>= next).result (second >>= nextOther).result := by
  rw [Traced.result_bind, Traced.result_bind]
  generalize first.result = left at agrees ⊢
  generalize second.result = right at agrees ⊢
  cases agrees with
  | ok related => exact goesOn _ _ related
  | error interruption => exact .error interruption
  | excused excuse => exact .excused excuse _

/-- Computations in order agree if they do so one by one. -/
theorem sequence
    {ι : Type}
    {items : List ι}
    {step : ι → Traced α}
    {stepOther : ι → Traced β}
    (each : ∀ item ∈ items, Agrees Excused Related (step item).result (stepOther item).result) :
    Agrees Excused (List.Forall₂ Related) (Traced.sequence (items.map step)).result
      (Traced.sequence (items.map stepOther)).result := by
  induction items with
  | nil => exact .ok .nil
  | cons item rest hypothesis =>
      refine bind (each item List.mem_cons_self) ?_
      intro left right related
      have others := hypothesis fun other member => each other (List.mem_cons_of_mem item member)
      refine bind others ?_
      intro lefts rights several
      exact .ok (.cons related several)

end Agrees

end Typing
end ApiTypings
