import Mathlib.Data.List.Basic

/-!
# Stable sorting

A stable sort keeps elements in order that the comparison does not tell apart. So the sorted list
depends on the list only through its ties: the sublists of elements that are tied with a given one
(`mergeSort_eq_of_filter_tied`). Sorting therefore commutes with taking elements out
(`filter_mergeSort`), and it keeps sublists (`mergeSort_sublist`).

The proof has two parts. Sorting keeps the ties (`filter_tied_mergeSort`), and of two sorted lists one
is a sublist of the other if its ties are (`sublist_of_pairwise_of_filter_tied`).
-/

namespace SourceReview.StableSort

variable {α : Type}

theorem filter_filter_comm (p q : α → Bool) (xs : List α) :
    (xs.filter p).filter q = (xs.filter q).filter p := by
  simp only [List.filter_filter, Bool.and_comm]

/-- The comparison does not tell `a` and `b` apart. -/
def tied (le : α → α → Bool) (a b : α) : Bool := le a b && le b a

section

variable {le : α → α → Bool} (trans : ∀ a b c, le a b = true → le b c = true → le a c = true)
  (total : ∀ a b, (le a b || le b a) = true)

include total in
theorem tied_self (a : α) : tied le a a = true := by
  have h := total a a
  simp only [Bool.or_self] at h
  simp [tied, h]

include trans in
/-- Two elements that are tied with a third are tied with each other. -/
theorem le_of_tied {a b c : α} (hb : tied le a b = true) (hc : tied le a c = true) :
    le b c = true := by
  simp only [tied, Bool.and_eq_true] at hb hc
  exact trans b a c hb.2 hc.1

include trans in
/-- Sorted elements that begin strictly after `b` are not tied with anything that `b` is tied
with. -/
theorem filter_tied_eq_nil {a b c : α} {xs : List α} (hxs : (a :: xs).Pairwise (le · · = true))
    (hself : le a a = true) (hba : le b a = true) (hb : tied le c b = true)
    (ha : ¬tied le c a = true) : (a :: xs).filter (tied le c) = [] := by
  rw [List.filter_eq_nil_iff]
  intro x hx hcx
  have hax : le a x = true := by
    rcases List.mem_cons.1 hx with rfl | hx
    · exact hself
    · exact List.rel_of_pairwise_cons hxs hx
  have hab : le a b = true := trans a x b hax (le_of_tied trans hcx hb)
  simp only [tied, Bool.and_eq_true] at ha hb
  exact ha ⟨trans c b a hb.1 hba, trans a b c hab hb.2⟩

include trans total

/-- Of two sorted lists, the first is a sublist of the second if its ties are. -/
theorem sublist_of_pairwise_of_filter_tied {xs ys : List α} (hxs : xs.Pairwise (le · · = true))
    (hys : ys.Pairwise (le · · = true))
    (h : ∀ a, (xs.filter (tied le a)).Sublist (ys.filter (tied le a))) : xs.Sublist ys := by
  induction ys generalizing xs with
  | nil =>
    cases xs with
    | nil => exact List.nil_sublist _
    | cons a xs =>
      have ha := h a
      rw [List.filter_cons_of_pos (tied_self total a), List.filter_nil, List.sublist_nil] at ha
      exact absurd ha (List.cons_ne_nil _ _)
  | cons b ys ih =>
    cases xs with
    | nil => exact List.nil_sublist _
    | cons a xs =>
      rw [List.pairwise_cons] at hys
      by_cases hab : a = b
      · -- Both lists begin with the same element, which each of its ties loses on both sides.
        subst hab
        refine List.Sublist.cons_cons a (ih hxs.of_cons hys.2 fun c => ?_)
        have hc := h c
        by_cases htied : tied le c a = true
        · rw [List.filter_cons_of_pos htied, List.filter_cons_of_pos htied] at hc
          exact List.cons_sublist_cons.1 hc
        · rwa [List.filter_cons_of_neg htied, List.filter_cons_of_neg htied] at hc
      · -- The first list goes on without `b`.
        refine List.Sublist.cons b (ih hxs hys.2 fun c => ?_)
        have hc := h c
        by_cases hb : tied le c b = true
        · rw [List.filter_cons_of_pos hb] at hc
          by_cases ha : tied le c a = true
          · rw [List.filter_cons_of_pos ha] at hc ⊢
            exact hc.of_cons_of_ne hab
          · have hself : le a a = true := by simpa using total a a
            have hba : le b a = true := by
              have hties : a ∈ (b :: ys).filter (tied le a) :=
                (h a).subset (List.mem_filter.2 ⟨List.mem_cons_self, tied_self total a⟩)
              exact hys.1 a (List.mem_of_ne_of_mem hab (List.mem_filter.1 hties).1)
            rw [filter_tied_eq_nil trans hxs hself hba hb ha]
            exact List.nil_sublist _
        · rwa [List.filter_cons_of_neg hb] at hc

/-- Two sorted lists with the same ties are equal. -/
theorem eq_of_pairwise_of_filter_tied {xs ys : List α} (hxs : xs.Pairwise (le · · = true))
    (hys : ys.Pairwise (le · · = true))
    (h : ∀ a, xs.filter (tied le a) = ys.filter (tied le a)) : xs = ys := by
  have hle : ∀ a, (xs.filter (tied le a)).Sublist (ys.filter (tied le a)) := by
    intro a
    rw [h a]
  have hge : ∀ a, (ys.filter (tied le a)).Sublist (xs.filter (tied le a)) := by
    intro a
    rw [h a]
  exact (sublist_of_pairwise_of_filter_tied trans total hxs hys hle).antisymm
    (sublist_of_pairwise_of_filter_tied trans total hys hxs hge)

/-- Sorting keeps the elements that are tied with `a` in order. -/
theorem filter_tied_mergeSort (xs : List α) (a : α) :
    (xs.mergeSort le).filter (tied le a) = xs.filter (tied le a) := by
  have hpairwise : (xs.filter (tied le a)).Pairwise (le · · = true) := by
    rw [List.pairwise_iff_forall_sublist]
    intro b c hbc
    have hb : b ∈ xs.filter (tied le a) := hbc.subset (by simp)
    have hc : c ∈ xs.filter (tied le a) := hbc.subset (by simp)
    exact le_of_tied trans (List.mem_filter.1 hb).2 (List.mem_filter.1 hc).2
  have hsublist : (xs.filter (tied le a)).Sublist ((xs.mergeSort le).filter (tied le a)) := by
    have h := List.sublist_mergeSort trans total hpairwise List.filter_sublist
    simpa using h.filter (tied le a)
  -- The two lists have the same length, so the one is all of the other.
  have hlength : (xs.filter (tied le a)).length = ((xs.mergeSort le).filter (tied le a)).length :=
    ((List.mergeSort_perm xs le).filter (tied le a)).length_eq.symm
  exact (hsublist.eq_of_length hlength).symm

/-- Lists with the same ties are sorted alike. -/
theorem mergeSort_eq_of_filter_tied {xs ys : List α}
    (h : ∀ a, xs.filter (tied le a) = ys.filter (tied le a)) :
    xs.mergeSort le = ys.mergeSort le := by
  apply eq_of_pairwise_of_filter_tied trans total (List.pairwise_mergeSort trans total xs)
    (List.pairwise_mergeSort trans total ys)
  intro a
  rw [filter_tied_mergeSort trans total, filter_tied_mergeSort trans total, h]

/-- Sorting and taking out commute. -/
theorem filter_mergeSort (p : α → Bool) (xs : List α) :
    (xs.mergeSort le).filter p = (xs.filter p).mergeSort le := by
  apply eq_of_pairwise_of_filter_tied trans total
    ((List.pairwise_mergeSort trans total xs).sublist List.filter_sublist)
    (List.pairwise_mergeSort trans total _)
  intro a
  rw [filter_filter_comm, filter_tied_mergeSort trans total, filter_tied_mergeSort trans total,
    filter_filter_comm]

/-- Sorting a sublist gives a sublist. -/
theorem mergeSort_sublist {xs ys : List α} (h : xs.Sublist ys) :
    (xs.mergeSort le).Sublist (ys.mergeSort le) := by
  apply sublist_of_pairwise_of_filter_tied trans total (List.pairwise_mergeSort trans total xs)
    (List.pairwise_mergeSort trans total ys)
  intro a
  rw [filter_tied_mergeSort trans total, filter_tied_mergeSort trans total]
  exact h.filter _

end

end SourceReview.StableSort
