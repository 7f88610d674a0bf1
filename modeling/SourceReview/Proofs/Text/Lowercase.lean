import SourceReview.Text.Lowercase

/-!
# Lowercase texts are their own lowercase form

Lowering a text twice gives the same as lowering it once (`lowercase_lowercase`), since every
character of a lowercase form is its own lowercase form (`lowerForm_of_mem_lowerForm`). For the
characters above the ASCII block this is a fact about the table of case runs: no run maps anything
into another run (`lowerRuns_settled`). The runs are compared with each other as a whole, by their
ends or by the parity of their members, and not member by member.
-/

namespace SourceReview.Text

/-! ### Runs that do not meet -/

namespace CaseRun

/-- The greatest code point that a run maps to. -/
def top (r : CaseRun) : Nat := r.target + (r.last - r.first)

/-- Whether nothing that `r` maps to is a member of `s`: they lie apart, or the members of `s` are
every other code point and `r` maps to those in between. -/
def avoids (r s : CaseRun) : Bool :=
  Nat.blt r.top s.first || Nat.blt s.last r.target ||
    (s.step == 2 && (r.step == 2 || r.first == r.last) && (r.target + s.first) % 2 == 1)

theorem target_le_of_map? {r : CaseRun} {n m : Nat} (h : r.map? n = some m) :
    r.target ≤ m ∧ m ≤ r.top := by
  unfold map? at h
  split at h
  · rename_i hn
    simp only [Bool.and_eq_true, decide_eq_true_eq] at hn
    cases h
    unfold top
    omega
  · cases h

theorem map?_eq_none_of_avoids {r s : CaseRun} (h : r.avoids s = true) {n m : Nat}
    (hm : r.map? n = some m) : s.map? m = none := by
  have hbounds := target_le_of_map? hm
  have hnot : ¬ (s.first ≤ m ∧ m ≤ s.last ∧ (m - s.first) % s.step = 0) := by
    simp only [avoids, Bool.or_eq_true, Nat.blt_eq, Bool.and_eq_true, beq_iff_eq] at h
    rcases h with (h | h) | ⟨⟨hs, hr⟩, hparity⟩
    · omega
    · omega
    · -- `m` is as far from the beginning of `s` as the two parities are apart.
      unfold map? at hm
      split at hm
      · rename_i hn
        simp only [Bool.and_eq_true, decide_eq_true_eq, beq_iff_eq] at hn
        cases hm
        rw [hs]
        rcases hr with hr | hr
        · rw [hr] at hn
          omega
        · omega
      · cases hm
  unfold map?
  rw [if_neg]
  simpa [and_assoc] using hnot

/-- Whether what a run maps to are characters that are not mapped any further. -/
def settled (r : CaseRun) : Bool :=
  Nat.blt 'Z'.toNat r.target &&
    (Nat.blt r.top 0xD800 || (Nat.blt 0xDFFF r.target && Nat.blt r.top 0x110000)) &&
    lowerExpansions.toList.all (fun e => Nat.blt r.top e.1 || Nat.blt e.1 r.target) &&
    lowerRuns.toList.all r.avoids

end CaseRun

theorem lowerRuns_settled : lowerRuns.toList.all CaseRun.settled = true := by decide +kernel

/-! ### Characters -/

theorem toNat_ofNat {n : Nat} (h : n.isValidChar) : (Char.ofNat n).toNat = n := by
  have hchar : Char.ofNat n = Char.ofNatAux n h := dif_pos h
  rw [hchar]
  rfl

theorem toLower_of_lt {c : Char} (h : 'Z'.toNat < c.toNat) : c.toLower = c := by
  unfold Char.toLower
  rw [dif_neg]
  rintro ⟨-, hle⟩
  exact Nat.not_lt.2 hle h

/-- What neither table has is its own lowercase form. -/
theorem lowerForm_of_not_mapped {c : Char} (hc : 'Z'.toNat < c.toNat)
    (hexpansions : ∀ e ∈ lowerExpansions, e.1 ≠ c.toNat)
    (hruns : ∀ r ∈ lowerRuns, r.map? c.toNat = none) : lowerForm c = [c] := by
  unfold lowerForm
  split
  · rw [toLower_of_lt hc]
  · have hfind : lowerExpansions.find? (·.1 == c.toNat) = none := by
      rw [Array.find?_eq_none]
      intro e he
      simpa using hexpansions e he
    unfold caseForm
    rw [hfind, Array.findSome?_eq_none_iff.2 hruns]
    rfl

/-- A run of the table maps to characters that are their own lowercase form. -/
theorem lowerForm_of_map? {r : CaseRun} (hr : r ∈ lowerRuns) {n m : Nat} (hm : r.map? n = some m) :
    lowerForm (Char.ofNat m) = [Char.ofNat m] := by
  have hsettled : r.settled = true :=
    List.all_eq_true.1 lowerRuns_settled r (Array.mem_toList_iff.2 hr)
  simp only [CaseRun.settled, Bool.and_eq_true, Bool.or_eq_true, Nat.blt_eq, List.all_eq_true]
    at hsettled
  obtain ⟨⟨⟨habove, hrange⟩, hexpansions⟩, havoids⟩ := hsettled
  obtain ⟨hlow, hhigh⟩ := CaseRun.target_le_of_map? hm
  have hvalid : m.isValidChar := by
    unfold Nat.isValidChar
    omega
  apply lowerForm_of_not_mapped <;> rw [toNat_ofNat hvalid]
  · omega
  · intro e he
    have hapart := hexpansions e (Array.mem_toList_iff.2 he)
    omega
  · intro s hs
    exact CaseRun.map?_eq_none_of_avoids (havoids s (Array.mem_toList_iff.2 hs)) hm

/-- In the ASCII block, what a character is lowered to is its own lowercase form. -/
theorem lowerForm_toLower_ascii : ∀ n < 128,
    lowerForm (Char.ofNat n).toLower = [(Char.ofNat n).toLower] := by
  decide +kernel

/-- The lowercase form of a character by searching lists, which can be evaluated more easily. -/
theorem lowerForm_eq_of_lists (c : Char) :
    lowerForm c = if c.toNat < 128 then [c.toLower] else
      match lowerExpansions.toList.find? (·.1 == c.toNat) with
      | some (_, form) => form.map Char.ofNat
      | none => [((lowerRuns.toList.findSome? (·.map? c.toNat)).map Char.ofNat).getD c] := by
  rw [Array.find?_toList, Array.findSome?_toList]
  rfl

/-- The forms of several characters have only characters that are their own lowercase form. -/
theorem lowerForm_of_mem_expansion : ∀ e ∈ lowerExpansions.toList, ∀ n ∈ e.2,
    lowerForm (Char.ofNat n) = [Char.ofNat n] := by
  simp only [lowerForm_eq_of_lists]
  decide +kernel

/-- Both lowercase forms of a capital sigma are their own, and it is not its own itself. -/
theorem lowerForm_sigma :
    lowerForm 'σ' = ['σ'] ∧ lowerForm 'ς' = ['ς'] ∧ lowerForm 'Σ' ≠ ['Σ'] := by
  simp only [lowerForm_eq_of_lists]
  decide +kernel

/-- Every character of a lowercase form is its own lowercase form. -/
theorem lowerForm_of_mem_lowerForm {c d : Char} (h : d ∈ lowerForm c) : lowerForm d = [d] := by
  by_cases hascii : c.toNat < 128
  · rw [lowerForm, if_pos hascii, List.mem_singleton] at h
    have hlower := lowerForm_toLower_ascii c.toNat hascii
    rwa [Char.ofNat_toNat, ← h] at hlower
  · have hform : lowerForm c = caseForm lowerExpansions lowerRuns c := if_neg hascii
    rw [hform, caseForm] at h
    cases hfind : lowerExpansions.find? (·.1 == c.toNat) with
    | some e =>
      rw [hfind] at h
      obtain ⟨n, hn, rfl⟩ := List.mem_map.1 h
      have he := Array.mem_toList_iff.2 (Array.mem_of_find?_eq_some hfind)
      exact lowerForm_of_mem_expansion e he n hn
    | none =>
      rw [hfind, List.mem_singleton] at h
      cases hrun : lowerRuns.findSome? (·.map? c.toNat) with
      | none =>
        -- The character is in no table, so it is `d` itself.
        rw [hrun] at h
        rw [h, Option.map_none, Option.getD_none, hform, caseForm, hfind, hrun]
        rfl
      | some m =>
        rw [hrun] at h
        obtain ⟨r, hr, hm⟩ := Array.exists_of_findSome?_eq_some hrun
        rw [h]
        exact lowerForm_of_map? hr hm

/-! ### Texts -/

theorem lowerForm_of_mem_lowerAfter {before cs : List Char} {d : Char}
    (h : d ∈ lowerAfter before cs) : lowerForm d = [d] := by
  induction cs generalizing before with
  | nil => cases h
  | cons c cs ih =>
    rw [lowerAfter] at h
    rcases List.mem_append.1 h with h | h
    · split at h
      · rw [List.mem_singleton, lowerSigma] at h
        rw [h]
        split
        · exact lowerForm_sigma.2.1
        · exact lowerForm_sigma.1
      · exact lowerForm_of_mem_lowerForm h
    · exact ih h

/-- A text of characters that are their own lowercase form is so as well. -/
theorem lowerAfter_eq_self {cs : List Char} (h : ∀ c ∈ cs, lowerForm c = [c])
    (before : List Char) : lowerAfter before cs = cs := by
  induction cs generalizing before with
  | nil => rfl
  | cons c cs ih =>
    have hc := h c List.mem_cons_self
    have hsigma : ¬ (c == 'Σ') = true := by
      intro heq
      rw [beq_iff_eq.1 heq] at hc
      exact lowerForm_sigma.2.2 hc
    rw [lowerAfter, if_neg hsigma, hc, ih fun d hd => h d (List.mem_cons_of_mem _ hd)]
    rfl

/-- Lowering a text twice is lowering it once. -/
theorem lowercase_lowercase (s : String) : lowercase (lowercase s) = lowercase s := by
  have hfixed : lowerAfter [] (lowerAfter [] s.toList) = lowerAfter [] s.toList :=
    lowerAfter_eq_self (fun _ hc => lowerForm_of_mem_lowerAfter hc) []
  unfold lowercase
  rw [String.toList_ofList, hfixed]

end SourceReview.Text
