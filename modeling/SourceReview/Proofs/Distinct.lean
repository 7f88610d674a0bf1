import Mathlib.Data.List.Induction

/-!
# Lists without repetitions

`List.eraseDups` keeps the first of equal elements. What is left stands in the order of first
occurrences (`pairwise_idxOf_eraseDups`), so it has no repetitions.
-/

namespace SourceReview

variable {α : Type} [BEq α] [LawfulBEq α]

/-- What is left stands in the order in which it occurs for the first time. -/
theorem pairwise_idxOf_eraseDups (xs : List α) :
    xs.eraseDups.Pairwise fun a b => xs.idxOf a < xs.idxOf b := by
  -- One more element at the end changes no first occurrence of those before it.
  induction xs using List.reverseRecOn with
  | nil => exact List.Pairwise.nil
  | append_singleton xs x ih =>
    have hidx : ∀ a ∈ xs, (xs ++ [x]).idxOf a = xs.idxOf a := by
      intro a ha
      rw [List.idxOf_append, if_pos ha]
    have hkept : xs.eraseDups.Pairwise fun a b => (xs ++ [x]).idxOf a < (xs ++ [x]).idxOf b := by
      refine ih.imp_of_mem ?_
      intro a b ha hb hab
      rwa [hidx a (List.mem_eraseDups.1 ha), hidx b (List.mem_eraseDups.1 hb)]
    rw [List.eraseDups_append]
    by_cases hx : x ∈ xs
    · have hnone : [x].removeAll xs = [] := by simp [List.removeAll, hx]
      rw [hnone, List.eraseDups_nil, List.append_nil]
      exact hkept
    · have hone : ([x].removeAll xs).eraseDups = [x] := by
        simp [List.removeAll, hx, List.eraseDups_cons]
      rw [hone, List.pairwise_append]
      refine ⟨hkept, List.pairwise_singleton _ _, ?_⟩
      intro a ha b hb
      have ha' : a ∈ xs := List.mem_eraseDups.1 ha
      rw [List.mem_singleton.1 hb, hidx a ha', List.idxOf_append, if_neg hx]
      have hlt : xs.idxOf a < xs.length := List.idxOf_lt_length_of_mem ha'
      omega

/-- Nothing is left twice. -/
theorem nodup_eraseDups (xs : List α) : xs.eraseDups.Nodup := by
  refine (pairwise_idxOf_eraseDups xs).imp ?_
  rintro a b hlt rfl
  exact Nat.lt_irrefl _ hlt

end SourceReview
