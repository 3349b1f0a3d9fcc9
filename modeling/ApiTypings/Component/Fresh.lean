/-!
# Fresh members

How many members of a finite list are not known yet. The number drops with every
member that becomes known, so a walk that never returns to a known member ends.
-/

namespace ApiTypings
namespace Component

variable {α : Type} [BEq α]

/-- How many members of `all` are not among the known ones. -/
def freshCount (all known : List α) : Nat :=
  all.countP fun member => !known.contains member

variable [LawfulBEq α]

/-- What is fresh after a member became known was fresh before. -/
theorem fresh_of_fresh_cons
    {known : List α}
    {learned member : α}
    (fresh : (!(learned :: known).contains member) = true) :
    (!known.contains member) = true := by
  simp only [List.contains_eq_mem, List.mem_cons, Bool.not_eq_true',
    decide_eq_false_iff_not, not_or] at fresh ⊢
  exact fresh.2

/-- Learning a member leaves no more fresh members. -/
theorem freshCount_cons_le (all known : List α) (learned : α) :
    freshCount all (learned :: known) ≤ freshCount all known :=
  List.countP_mono_left fun _ _ => fresh_of_fresh_cons

/-- Learning a fresh member leaves fewer fresh members. -/
theorem freshCount_cons_lt
    {all known : List α}
    {learned : α}
    (listed : learned ∈ all)
    (fresh : learned ∉ known) :
    freshCount all (learned :: known) < freshCount all known := by
  unfold freshCount
  induction all with
  | nil => simp at listed
  | cons head rest induction =>
      have restLe := freshCount_cons_le rest known learned
      unfold freshCount at restLe
      rw [List.countP_cons, List.countP_cons]
      by_cases same : head = learned
      · subst same
        simp only [List.contains_eq_mem, List.mem_cons, true_or, decide_true, Bool.not_true,
          Bool.false_eq_true, ↓reduceIte, fresh, decide_false, Bool.not_false]
        simp only [List.contains_eq_mem, List.mem_cons] at restLe
        omega
      · have inRest : learned ∈ rest := by
          cases List.mem_cons.mp listed with
          | inl equal => exact absurd equal.symm same
          | inr member => exact member
        have smaller := induction inRest
        have agrees : (learned :: known).contains head = known.contains head := by
          simp [List.contains_eq_mem, same]
        rw [agrees]
        omega

end Component
end ApiTypings
