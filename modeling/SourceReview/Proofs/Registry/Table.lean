import SourceReview.Registry.Table

/-!
# Looking up names in a table

A table is known by what it answers: `mem_entries_iff` says that the entries of a table are exactly
its answers, since no name has two entries. Each operation is then described by the answers of the
table it returns (`get?_filter`, `get?_erase`, `get?_insert`, `get?_modify`), and nothing after this
module looks at entries. Sorting the entries puts the answers in the order of names
(`mem_sorted_iff`, `pairwise_sorted`). In a table of numbers, one more for a name is one more in
every sum that the name belongs to, and no more in the others (`sum_filter_increment`).
-/

namespace SourceReview.Table

variable {α : Type}

/-- In a list of pairs without repeated first components, the pairs are the answers. -/
theorem mem_iff_lookup_eq_some {entries : List (String × α)} (h : (entries.map Prod.fst).Nodup)
    (name : String) (value : α) :
    (name, value) ∈ entries ↔ entries.lookup name = some value := by
  induction entries with
  | nil => simp
  | cons e entries ih =>
    obtain ⟨n, v⟩ := e
    rw [List.map_cons, List.nodup_cons] at h
    rw [List.lookup_cons, List.mem_cons, Prod.mk.injEq]
    by_cases hn : name = n
    · -- A second entry for `name` would repeat its first component.
      subst hn
      have hnot : (name, value) ∉ entries := fun hmem => h.1 (List.mem_map.2 ⟨_, hmem, rfl⟩)
      simp [hnot, eq_comm]
    · have hbeq : (name == n) = false := by simpa using hn
      rw [hbeq, ← ih h.2]
      simp [hn]

/-- The entries of a table are its answers. -/
theorem mem_entries_iff (t : Table α) (name : String) (value : α) :
    (name, value) ∈ t.entries ↔ t.get? name = some value :=
  mem_iff_lookup_eq_some t.distinct name value

theorem contains_iff (t : Table α) (name : String) :
    t.contains name = true ↔ ∃ value, t.get? name = some value := by
  unfold contains
  exact Option.isSome_iff_exists

theorem not_contains_iff (t : Table α) (name : String) :
    ¬t.contains name = true ↔ t.get? name = none := by
  unfold contains
  rw [Bool.not_eq_true, Option.isSome_eq_false_iff, Option.isNone_iff_eq_none]

@[simp]
theorem get?_empty (name : String) : ({} : Table α).get? name = none := rfl

theorem get?_filter (t : Table α) (p : String → α → Bool) (name : String) :
    (t.filter p).get? name = (t.get? name).filter (p name) := by
  ext value
  rw [← mem_entries_iff, Option.filter_eq_some_iff, ← mem_entries_iff]
  unfold filter
  rw [List.mem_filter]

theorem get?_erase (t : Table α) (erased name : String) :
    (t.erase erased).get? name = if name = erased then none else t.get? name := by
  unfold erase
  rw [get?_filter]
  by_cases h : name = erased
  · simp [h]
  · cases t.get? name <;> simp [h]

theorem get?_insert (t : Table α) (inserted : String) (value : α) (name : String) :
    (t.insert inserted value).get? name = if name = inserted then some value else t.get? name := by
  have hentries : (t.insert inserted value).get? name
      = ((inserted, value) :: (t.erase inserted).entries).lookup name := rfl
  have herase : (t.erase inserted).entries.lookup name = (t.erase inserted).get? name := rfl
  rw [hentries, List.lookup_cons, herase, get?_erase]
  by_cases h : name = inserted
  · simp [h]
  · have hbeq : (name == inserted) = false := by simpa using h
    rw [hbeq, if_neg h, if_neg h]

theorem get?_modify (t : Table α) (modified : String) (f : α → α) (name : String) :
    (t.modify modified f).get? name
      = if name = modified then (t.get? name).map f else t.get? name := by
  ext value
  rw [← mem_entries_iff]
  unfold modify
  rw [List.mem_map]
  constructor
  · rintro ⟨⟨n, v⟩, hmem, heq⟩
    have hv := (t.mem_entries_iff n v).1 hmem
    by_cases hn : n = modified
    · rw [if_pos hn, Prod.mk.injEq] at heq
      obtain ⟨rfl, rfl⟩ := heq
      rw [if_pos hn, hv, Option.map_some]
    · rw [if_neg hn, Prod.mk.injEq] at heq
      obtain ⟨rfl, rfl⟩ := heq
      rw [if_neg hn, hv]
  · intro h
    by_cases hn : name = modified
    · rw [if_pos hn, Option.map_eq_some_iff] at h
      obtain ⟨v, hv, rfl⟩ := h
      exact ⟨(name, v), (t.mem_entries_iff name v).2 hv, by rw [if_pos hn]⟩
    · rw [if_neg hn] at h
      exact ⟨(name, value), (t.mem_entries_iff name value).2 h, by rw [if_neg hn]⟩

/-! ### The entries in order -/

theorem mem_sorted_iff (t : Table α) (name : String) (value : α) :
    (name, value) ∈ t.sorted ↔ t.get? name = some value := by
  unfold sorted
  rw [List.mem_mergeSort, mem_entries_iff]

/-- The sorted entries have names that increase strictly, since no name has two entries. -/
theorem pairwise_sorted (t : Table α) : t.sorted.Pairwise fun a b => a.1 < b.1 := by
  have hle : ∀ a b : String × α, (!decide (b.1 < a.1)) = true ↔ a.1 ≤ b.1 := by
    intro a b
    rw [Bool.not_eq_true', decide_eq_false_iff_not, String.not_lt]
  have hsorted : t.sorted.Pairwise fun a b => (!decide (b.1 < a.1)) = true := by
    apply List.pairwise_mergeSort
    · intro a b c hab hbc
      rw [hle] at *
      exact String.le_trans hab hbc
    · intro a b
      rw [Bool.or_eq_true, hle, hle]
      exact String.le_total a.1 b.1
  have hdistinct : t.sorted.Pairwise fun a b => a.1 ≠ b.1 := by
    have hnodup : (t.sorted.map Prod.fst).Nodup :=
      ((List.mergeSort_perm _ _).map Prod.fst).nodup_iff.2 t.distinct
    exact List.pairwise_map.1 hnodup
  refine (hsorted.and hdistinct).imp ?_
  rintro a b ⟨hab, hne⟩
  by_cases hlt : a.1 < b.1
  · exact hlt
  · exact absurd (String.le_antisymm ((hle a b).1 hab) (String.not_lt.1 hlt)) hne

/-! ### Sums -/

/-- In a list of pairs without repeated first components, the sum of the second ones is the answer
for a name and the sum of what belongs to other names. -/
theorem total_eq_lookup_add {entries : List (String × Nat)} (h : (entries.map Prod.fst).Nodup)
    (name : String) :
    total (entries.map Prod.snd)
      = (entries.lookup name).getD 0 + total ((entries.filter (·.1 != name)).map Prod.snd) := by
  induction entries with
  | nil => rfl
  | cons e entries ih =>
    obtain ⟨n, v⟩ := e
    rw [List.map_cons, List.nodup_cons] at h
    rw [List.map_cons, total_cons]
    by_cases hn : name = n
    · subst hn
      -- All entries after the first one belong to other names.
      have hothers : entries.filter (·.1 != name) = entries := by
        rw [List.filter_eq_self]
        intro e he
        have hne : e.1 ≠ name := fun heq => h.1 (List.mem_map.2 ⟨e, he, heq⟩)
        simpa using hne
      have hfilter : ((name, v) :: entries).filter (·.1 != name) = entries := by
        rw [List.filter_cons_of_neg (by simp), hothers]
      rw [hfilter, List.lookup_cons_self, Option.getD_some]
    · have hlookup : ((n, v) :: entries).lookup name = entries.lookup name := by
        rw [List.lookup_cons, beq_eq_false_iff_ne.2 hn]
      have hkept : ((n, v) :: entries).filter (·.1 != name)
          = (n, v) :: entries.filter (·.1 != name) :=
        List.filter_cons_of_pos (by simpa using Ne.symm hn)
      have htail := ih h.2
      rw [hlookup, hkept, List.map_cons, total_cons]
      omega

theorem sum_eq_get?_add (t : Table Nat) (name : String) :
    t.sum = (t.get? name).getD 0 + (t.erase name).sum :=
  total_eq_lookup_add t.distinct name

theorem erase_filter (t : Table α) (p : String → α → Bool) (name : String) :
    (t.filter p).erase name = (t.erase name).filter p := by
  unfold erase filter
  simp only [List.filter_filter, Bool.and_comm]

theorem sum_filter_true (t : Table Nat) : (t.filter fun _ _ => true).sum = t.sum := by
  have hentries : t.entries.filter (fun _ => true) = t.entries := List.filter_eq_self.2 (by simp)
  show total ((t.entries.filter fun _ => true).map Prod.snd) = _
  rw [hentries]
  rfl

theorem sum_filter_insert (t : Table Nat) (p : String → Bool) (name : String) (value : Nat) :
    ((t.insert name value).filter fun n _ => p n).sum
      = (if p name then value else 0) + ((t.erase name).filter fun n _ => p n).sum := by
  show total ((((name, value) :: (t.erase name).entries).filter fun e => p e.1).map Prod.snd) = _
  rw [List.filter_cons]
  split
  · rfl
  · rw [Nat.zero_add]
    rfl

/-- One more for a name is one more in the sums that the name belongs to. -/
theorem sum_filter_increment (t : Table Nat) (p : String → Bool) (name : String) :
    ((t.insert name ((t.get? name).getD 0 + 1)).filter fun n _ => p n).sum
      = (t.filter fun n _ => p n).sum + if p name then 1 else 0 := by
  have hnew := t.sum_filter_insert p name ((t.get? name).getD 0 + 1)
  have hold := sum_eq_get?_add (t.filter fun n _ => p n) name
  rw [get?_filter, erase_filter] at hold
  -- What the name had before counts for the old sum just if it counts for the new one.
  have hvalue : ((t.get? name).filter fun _ => p name).getD 0
      = if p name then (t.get? name).getD 0 else 0 := by
    cases t.get? name with
    | none => simp
    | some value => cases p name <;> rfl
  rw [hvalue] at hold
  split at hold <;> rename_i hp
  · rw [if_pos hp] at hnew ⊢
    omega
  · rw [if_neg hp] at hnew ⊢
    omega

end SourceReview.Table
