import Mathlib

/-!
# Outcomes

When a computation that may fail succeeds, its steps have succeeded. Lists, values and
outcomes may correspond to each other.
-/

namespace ApiTypings

variable {ε α β γ : Type}

theorem exists_of_map_eq_ok
    {outcome : Except ε α}
    {change : α → β}
    {result : β}
    (mapped : outcome.map change = .ok result) :
    ∃ value, outcome = .ok value ∧ change value = result := by
  cases outcome with
  | error error => contradiction
  | ok value => exact ⟨value, rfl, Except.ok.inj mapped⟩

theorem exists_map_eq_ok_iff {outcome : Except ε α} {change : α → β} :
    (∃ result, outcome.map change = .ok result) ↔ ∃ value, outcome = .ok value := by
  cases outcome <;> simp [Except.map]

theorem exists_of_bind_eq_ok
    {outcome : Except ε α}
    {next : α → Except ε β}
    {result : β}
    (bound : (outcome >>= next) = .ok result) :
    ∃ value, outcome = .ok value ∧ next value = .ok result := by
  cases outcome with
  | error error => contradiction
  | ok value => exact ⟨value, rfl, bound⟩

/-- Outcomes of one function on a list correspond item by item. -/
theorem forall₂_of_mapM_eq_ok
    {change : α → Except ε β}
    {items : List α}
    {results : List β}
    (mapped : items.mapM change = .ok results) :
    List.Forall₂ (fun item result => change item = .ok result) items results := by
  induction items generalizing results with
  | nil =>
      rw [List.mapM_nil] at mapped
      cases mapped
      exact .nil
  | cons item rest hypothesis =>
      rw [List.mapM_cons] at mapped
      obtain ⟨first, single, mapped⟩ := exists_of_bind_eq_ok mapped
      obtain ⟨others, several, mapped⟩ := exists_of_bind_eq_ok mapped
      cases mapped
      exact .cons single (hypothesis several)

theorem mapM_eq_ok_of_forall₂
    {change : α → Except ε β}
    {items : List α}
    {results : List β}
    (each : List.Forall₂ (fun item result => change item = .ok result) items results) :
    items.mapM change = .ok results := by
  induction each with
  | nil => rfl
  | cons single _ several =>
      rw [List.mapM_cons, single, several]
      rfl

theorem exists_of_mapM_eq_error
    {change : α → Except ε β}
    {items : List α}
    {error : ε}
    (failed : items.mapM change = .error error) :
    ∃ item ∈ items, change item = .error error := by
  induction items with
  | nil => contradiction
  | cons item rest hypothesis =>
      rw [List.mapM_cons] at failed
      cases first : change item with
      | error earlier =>
          rw [first] at failed
          cases failed
          exact ⟨item, List.mem_cons_self, first⟩
      | ok value =>
          rw [first] at failed
          cases others : rest.mapM change with
          | error later =>
              rw [others] at failed
              cases failed
              obtain ⟨other, member, found⟩ := hypothesis others
              exact ⟨other, List.mem_cons_of_mem item member, found⟩
          | ok values =>
              rw [others] at failed
              contradiction

theorem exists_mapM_eq_ok
    {change : α → Except ε β}
    {items : List α}
    (each : ∀ item ∈ items, ∃ result, change item = .ok result) :
    ∃ results, items.mapM change = .ok results := by
  induction items with
  | nil => exact ⟨[], rfl⟩
  | cons item rest hypothesis =>
      obtain ⟨first, single⟩ := each item List.mem_cons_self
      obtain ⟨others, several⟩ :=
        hypothesis fun other member => each other (List.mem_cons_of_mem item member)
      refine ⟨first :: others, ?_⟩
      rw [List.mapM_cons, single, several]
      rfl

/-! ## Lists that correspond item by item -/

section Correspondence

variable {Related : α → β → Prop} {items : List α} {results : List β}

theorem exists_left_of_forall₂
    (each : List.Forall₂ Related items results)
    {result : β}
    (listed : result ∈ results) :
    ∃ item ∈ items, Related item result := by
  induction each with
  | nil => contradiction
  | @cons item first rest others related _ hypothesis =>
      rcases List.mem_cons.mp listed with rfl | later
      · exact ⟨item, List.mem_cons_self, related⟩
      · obtain ⟨other, member, found⟩ := hypothesis later
        exact ⟨other, List.mem_cons_of_mem item member, found⟩

theorem exists_right_of_forall₂
    (each : List.Forall₂ Related items results)
    {item : α}
    (listed : item ∈ items) :
    ∃ result ∈ results, Related item result :=
  exists_left_of_forall₂ each.flip listed

theorem map_eq_map_of_forall₂
    {left : α → γ}
    {right : β → γ}
    (agree : ∀ item result, Related item result → right result = left item)
    (each : List.Forall₂ Related items results) :
    results.map right = items.map left := by
  induction each with
  | nil => rfl
  | cons related _ hypothesis => rw [List.map_cons, List.map_cons, agree _ _ related, hypothesis]

theorem forall₂_toList
    {one : Option α}
    {another : Option β}
    (related : Option.Rel Related one another) :
    List.Forall₂ Related one.toList another.toList := by
  cases related with
  | some both => exact .cons both .nil
  | none => exact .nil

/-- Lists that correspond item by item are the two sides of a list of pairs. -/
theorem forall₂_iff_exists_pairs :
    List.Forall₂ Related items results ↔
      ∃ pairs : List (α × β), pairs.map Prod.fst = items ∧ pairs.map Prod.snd = results ∧
        ∀ pair ∈ pairs, Related pair.1 pair.2 := by
  constructor
  · intro each
    induction each with
    | nil => exact ⟨[], rfl, rfl, by simp⟩
    | @cons item other _ _ related _ hypothesis =>
        obtain ⟨pairs, rfl, rfl, several⟩ := hypothesis
        exact ⟨(item, other) :: pairs, rfl, rfl, List.forall_mem_cons.mpr ⟨related, several⟩⟩
  · rintro ⟨pairs, rfl, rfl, each⟩
    rw [List.forall₂_map_left_iff, List.forall₂_map_right_iff, List.forall₂_same]
    exact each

theorem forall₂_mono_of_mem
    {Wider : α → β → Prop}
    (each : List.Forall₂ Related items results)
    (wider : ∀ item ∈ items, ∀ result, Related item result → Wider item result) :
    List.Forall₂ Wider items results := by
  obtain ⟨pairs, rfl, rfl, related⟩ := forall₂_iff_exists_pairs.mp each
  refine forall₂_iff_exists_pairs.mpr ⟨pairs, rfl, rfl, ?_⟩
  intro pair listed
  exact wider pair.1 (List.mem_map_of_mem listed) pair.2 (related pair listed)

theorem isEmpty_of_forall₂ (each : List.Forall₂ Related items results) :
    results.isEmpty = items.isEmpty := by
  cases each <;> rfl

theorem forall₂_filterMap
    {left : γ → Option α}
    {right : γ → Option β}
    {choices : List γ}
    (each : ∀ choice ∈ choices, Option.Rel Related (left choice) (right choice)) :
    List.Forall₂ Related (choices.filterMap left) (choices.filterMap right) := by
  induction choices with
  | nil => exact .nil
  | cons choice rest hypothesis =>
      obtain ⟨first, others⟩ := List.forall_mem_cons.mp each
      rw [List.filterMap_cons, List.filterMap_cons]
      generalize left choice = one at first
      generalize right choice = another at first
      cases first with
      | none => exact hypothesis others
      | some related => exact .cons related (hypothesis others)

/-- Where an item is used something related to it is found, and nothing elsewhere. -/
inductive FoundWhere (used : α → Bool) (Related : α → β → Prop) (item : α) : Option β → Prop
  | some {result : β} (here : used item = true) (related : Related item result) :
      FoundWhere used Related item (some result)
  | none (elsewhere : used item = false) : FoundWhere used Related item none

/-- What is found corresponds to the items that are used. -/
theorem forall₂_filter_iff {used : α → Bool} :
    List.Forall₂ Related (items.filter used) results ↔
      ∃ found, List.Forall₂ (FoundWhere used Related) items found ∧
        found.filterMap id = results := by
  constructor
  · intro each
    induction items generalizing results with
    | nil =>
        cases each
        exact ⟨[], .nil, rfl⟩
    | cons item rest hypothesis =>
        cases here : used item with
        | false =>
            rw [List.filter_cons_of_neg (by simp [here])] at each
            obtain ⟨found, several, rfl⟩ := hypothesis each
            exact ⟨none :: found, .cons (.none here) several, rfl⟩
        | true =>
            rw [List.filter_cons_of_pos here] at each
            cases each with
            | cons related others =>
                obtain ⟨found, several, rfl⟩ := hypothesis others
                exact ⟨some _ :: found, .cons (.some here related) several, rfl⟩
  · rintro ⟨found, each, rfl⟩
    induction each with
    | nil => exact .nil
    | cons first _ hypothesis =>
        cases first with
        | some here related =>
            rw [List.filter_cons_of_pos here]
            exact .cons related hypothesis
        | none elsewhere =>
            rw [List.filter_cons_of_neg (by simp [elsewhere])]
            exact hypothesis

/-! ## Values that correspond if they are there -/

theorem isSome_of_rel
    {one : Option α}
    {another : Option β}
    (related : Option.Rel Related one another) :
    another.isSome = one.isSome := by
  cases related <;> rfl

theorem eq_none_of_rel
    {one : Option α}
    {another : Option β}
    (related : Option.Rel Related one another)
    (missing : one = none) :
    another = none := by
  cases related with
  | none => rfl
  | some _ => contradiction

theorem exists_some_of_rel
    {one : Option α}
    {another : Option β}
    (related : Option.Rel Related one another)
    {value : α}
    (found : one = some value) :
    ∃ other, another = some other ∧ Related value other := by
  cases related with
  | none => contradiction
  | some both =>
      cases found
      exact ⟨_, rfl, both⟩

theorem optionRel_mono
    {Wider : α → β → Prop}
    {one : Option α}
    {another : Option β}
    (related : Option.Rel Related one another)
    (wider : ∀ left right, Related left right → Wider left right) :
    Option.Rel Wider one another := by
  cases related with
  | none => exact .none
  | some both => exact .some (wider _ _ both)

theorem optionRel_self
    {Related : α → α → Prop}
    {value : Option α}
    (related : ∀ found, value = some found → Related found found) :
    Option.Rel Related value value := by
  cases value with
  | none => exact .none
  | some found => exact .some (related found rfl)

theorem forall₂_getD
    {one : Option (List α)}
    {another : Option (List β)}
    (related : Option.Rel (List.Forall₂ Related) one another) :
    List.Forall₂ Related (one.getD []) (another.getD []) := by
  cases related with
  | none => exact .nil
  | some each => exact each

end Correspondence

/-! ## Outcomes that correspond -/

/-- Two computations fail in the same way, or both have related results. -/
inductive Corresponds (Related : α → β → Prop) : Except ε α → Except ε β → Prop
  | ok {left : α} {right : β} (related : Related left right) :
      Corresponds Related (.ok left) (.ok right)
  | error (error : ε) : Corresponds Related (.error error) (.error error)

namespace Corresponds

variable
    {δ : Type}
    {Related : α → β → Prop}
    {Further : γ → δ → Prop}
    {first : Except ε α}
    {second : Except ε β}

theorem refl (outcome : Except ε α) : Corresponds Eq outcome outcome := by
  cases outcome with
  | ok value => exact .ok rfl
  | error error => exact .error error

theorem eq_error
    (corresponds : Corresponds Related first second)
    {error : ε}
    (failed : first = .error error) :
    second = .error error := by
  cases corresponds with
  | ok both => contradiction
  | error error =>
      cases failed
      rfl

theorem exists_ok
    (corresponds : Corresponds Related first second)
    {left : α}
    (finished : first = .ok left) :
    ∃ right, second = .ok right ∧ Related left right := by
  cases corresponds with
  | ok both =>
      cases finished
      exact ⟨_, rfl, both⟩
  | error error => contradiction

theorem map
    {change : α → γ}
    {changeOther : β → δ}
    (corresponds : Corresponds Related first second)
    (related : ∀ left right, first = .ok left → second = .ok right → Related left right →
      Further (change left) (changeOther right)) :
    Corresponds Further (first.map change) (second.map changeOther) := by
  cases corresponds with
  | ok both => exact .ok (related _ _ rfl rfl both)
  | error error => exact .error error

theorem mono
    {Wider : α → β → Prop}
    (corresponds : Corresponds Related first second)
    (wider : ∀ left right, first = .ok left → second = .ok right → Related left right →
      Wider left right) :
    Corresponds Wider first second := by
  cases corresponds with
  | ok both => exact .ok (wider _ _ rfl rfl both)
  | error error => exact .error error

end Corresponds

/-- Values that are all present stay so under a function. -/
theorem mapM_option_map (change : α → β) (items : List (Option α)) :
    (items.map (Option.map change)).mapM id = (items.mapM id).map (List.map change) := by
  induction items with
  | nil => rfl
  | cons item rest hypothesis =>
      rw [List.map_cons, List.mapM_cons, List.mapM_cons, hypothesis]
      cases item with
      | none => rfl
      | some value => cases rest.mapM id <;> rfl

theorem eq_map_some_of_mapM
    {items : List (Option α)}
    {values : List α}
    (present : items.mapM id = some values) :
    items = values.map some := by
  induction items generalizing values with
  | nil =>
      cases present
      rfl
  | cons item rest hypothesis =>
      rw [List.mapM_cons] at present
      obtain ⟨first, given, present⟩ := Option.bind_eq_some_iff.mp present
      obtain ⟨others, found, present⟩ := Option.bind_eq_some_iff.mp present
      cases present
      rw [hypothesis found, List.map_cons, ← given, id]

theorem mapM_eq_none_iff {items : List (Option α)} : items.mapM id = none ↔ none ∈ items := by
  induction items with
  | nil => simp
  | cons item rest hypothesis =>
      rw [List.mapM_cons, List.mem_cons, ← hypothesis]
      cases item with
      | none => simp
      | some value => cases rest.mapM id <;> simp

theorem mapM_eq_mapM_map (change : α → Option β) (items : List α) :
    items.mapM change = (items.map change).mapM id := by
  induction items with
  | nil => rfl
  | cons item rest hypothesis =>
      rw [List.map_cons, List.mapM_cons, List.mapM_cons, hypothesis]
      rfl

end ApiTypings
