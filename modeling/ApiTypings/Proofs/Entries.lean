import ApiTypings.Value
import Mathlib

/-!
# Collected entries

When pairs are collected one by one, every key is kept once, in order of first appearance, and
its value is that of the last pair with the key.
-/

namespace ApiTypings
namespace Entries

variable
    {κ α : Type}
    [BEq κ]
    [LawfulBEq κ]
    {entries : List (κ × α)}
    {key : κ}

/-! ## One pair -/

/-- A new key goes last. -/
theorem put_of_not_mem (fresh : key ∉ keys entries) (value : α) :
    put entries key value = entries ++ [(key, value)] := by
  induction entries with
  | nil => rfl
  | cons entry rest hypothesis =>
      rw [keys, List.map_cons, List.mem_cons, not_or] at fresh
      have other : (entry.1 == key) = false := beq_eq_false_iff_ne.mpr (Ne.symm fresh.1)
      rw [put, other, hypothesis fresh.2]
      rfl

/-- A known key keeps its place. -/
theorem keys_put_of_mem (known : key ∈ keys entries) (value : α) :
    keys (put entries key value) = keys entries := by
  induction entries with
  | nil => contradiction
  | cons entry rest hypothesis =>
      rw [put]
      split
      · rename_i same
        rw [keys, keys, List.map_cons, List.map_cons, eq_of_beq same]
      · rename_i other
        have later : key ∈ keys rest := by
          refine (List.mem_cons.mp known).resolve_left ?_
          intro same
          exact other (beq_iff_eq.mpr same.symm)
        exact congrArg (entry.1 :: ·) (hypothesis later)

theorem nodup_keys_put (distinct : (keys entries).Nodup) (value : α) :
    (keys (put entries key value)).Nodup := by
  by_cases known : key ∈ keys entries
  · rw [keys_put_of_mem known]
    exact distinct
  · rw [put_of_not_mem known, keys, List.map_append]
    exact List.Nodup.append distinct (List.nodup_singleton key) (by simpa [keys] using known)

omit [LawfulBEq κ] in
theorem mem_put_self (entries : List (κ × α)) (key : κ) (value : α) :
    (key, value) ∈ put entries key value := by
  induction entries with
  | nil => exact List.mem_singleton_self _
  | cons entry rest hypothesis =>
      rw [put]
      split
      · exact List.mem_cons_self
      · exact List.mem_cons_of_mem entry hypothesis

/-- After a key was given a value, no other value of the key is left. -/
theorem cases_of_mem_put
    (distinct : (keys entries).Nodup)
    {value : α}
    {entry : κ × α}
    (member : entry ∈ put entries key value) :
    entry = (key, value) ∨ entry ∈ entries ∧ entry.1 ≠ key := by
  by_cases same : entry.1 = key
  · have once : (keys (put entries key value)).Nodup := nodup_keys_put distinct value
    exact .inl (List.inj_on_of_nodup_map once member (mem_put_self entries key value) same)
  · rcases mem_of_mem_put member with old | rfl
    · exact .inr ⟨old, same⟩
    · contradiction

/-! ## All pairs -/

omit [LawfulBEq κ] in
theorem ofPairs_concat (pairs : List (κ × α)) (pair : κ × α) :
    ofPairs (pairs ++ [pair]) = put (ofPairs pairs) pair.1 pair.2 := by
  unfold ofPairs
  rw [List.foldl_append]
  rfl

theorem nodup_keys_ofPairs (pairs : List (κ × α)) : (keys (ofPairs pairs)).Nodup := by
  induction pairs using List.reverseRecOn with
  | nil => exact List.nodup_nil
  | append_singleton pairs pair hypothesis =>
      rw [ofPairs_concat]
      exact nodup_keys_put hypothesis pair.2

/-- Pairs with different keys are collected as they are. -/
theorem ofPairs_eq_self {pairs : List (κ × α)} (distinct : (keys pairs).Nodup) :
    ofPairs pairs = pairs := by
  induction pairs using List.reverseRecOn with
  | nil => rfl
  | append_singleton pairs pair hypothesis =>
      rw [keys, List.map_append, List.nodup_append] at distinct
      have fresh : pair.1 ∉ keys pairs := by
        intro known
        exact distinct.2.2 _ known _ (List.mem_singleton_self pair.1) rfl
      rw [ofPairs_concat, hypothesis distinct.1, put_of_not_mem fresh]

/-- Every key is kept once, in order of first appearance. -/
theorem keys_ofPairs (pairs : List (κ × α)) :
    keys (ofPairs pairs) = (pairs.map Prod.fst).eraseDups := by
  induction pairs using List.reverseRecOn with
  | nil => rfl
  | append_singleton pairs pair hypothesis =>
      rw [ofPairs_concat, List.map_append, List.eraseDups_append, ← hypothesis]
      by_cases known : pair.1 ∈ keys (ofPairs pairs)
      · have seen : pair.1 ∈ pairs.map Prod.fst := by
          rwa [hypothesis, List.mem_eraseDups] at known
        have nothing : [pair.1].removeAll (pairs.map Prod.fst) = [] := by
          simpa [List.removeAll] using seen
        rw [keys_put_of_mem known, List.map_singleton, nothing]
        exact (List.append_nil _).symm
      · have unseen : pair.1 ∉ pairs.map Prod.fst := by
          rwa [hypothesis, List.mem_eraseDups] at known
        have kept : [pair.1].removeAll (pairs.map Prod.fst) = [pair.1] := by
          simpa [List.removeAll] using unseen
        rw [put_of_not_mem known, List.map_singleton, kept]
        exact List.map_append

/-- What is collected for a key is the last pair with the key. -/
theorem getLast?_of_mem_ofPairs
    {pairs : List (κ × α)}
    {entry : κ × α}
    (member : entry ∈ ofPairs pairs) :
    (pairs.filter fun pair => pair.1 == entry.1).getLast? = some entry := by
  induction pairs using List.reverseRecOn with
  | nil => contradiction
  | append_singleton pairs pair hypothesis =>
      rw [ofPairs_concat] at member
      rw [List.filter_append, List.getLast?_append]
      rcases cases_of_mem_put (nodup_keys_ofPairs pairs) member with rfl | ⟨earlier, apart⟩
      · simp
      · have other : (pair.1 == entry.1) = false := beq_eq_false_iff_ne.mpr (Ne.symm apart)
        simp [other, hypothesis earlier]

end Entries
end ApiTypings
