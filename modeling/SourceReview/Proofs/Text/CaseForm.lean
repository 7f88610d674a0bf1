import SourceReview.Proofs.Text.Lowercase

/-!
# Characters of the ASCII block among case forms

A character of the ASCII block has a form of one character, of the same block. The forms of all
other characters hardly meet the block: an uppercase form has nothing of it but capital letters
(`isUpper_of_mem_upperForm`), and only two characters, the Kelvin sign and the capital I with a dot,
have a lowercase form with a character of it (`eq_of_mem_lowerForm`). So a mark of the block, such
as an underscore or a dot, is in the form of no other character (`IsMark.eq_of_mem_lowerForm`,
`IsMark.eq_of_mem_upperForm`), and a text has the same marks as its lowercase form
(`IsMark.mem_lowercase_iff`). All of this is read off the tables of forms, one entry at a time.
-/

namespace SourceReview.Text

/-! ### Letters -/

theorem isUpper_iff {c : Char} : c.isUpper = true ↔ 65 ≤ c.toNat ∧ c.toNat ≤ 90 := by
  show decide (c.val ≥ 'A'.val ∧ c.val ≤ 'Z'.val) = true ↔ _
  rw [decide_eq_true_iff]
  exact Iff.rfl

theorem isLower_iff {c : Char} : c.isLower = true ↔ 97 ≤ c.toNat ∧ c.toNat ≤ 122 := by
  show (decide (c.val ≥ 'a'.val) && decide (c.val ≤ 'z'.val)) = true ↔ _
  rw [Bool.and_eq_true, decide_eq_true_iff, decide_eq_true_iff]
  exact Iff.rfl

theorem isAlpha_iff {c : Char} : c.isAlpha = true ↔ c.isUpper = true ∨ c.isLower = true := by
  unfold Char.isAlpha
  exact Bool.or_eq_true_iff

/-- A character of the ASCII block can be checked by its code point. -/
theorem of_forall_ascii {p : Char → Prop} (h : ∀ n < 128, p (Char.ofNat n)) {c : Char}
    (hc : c.toNat < 128) : p c := by
  have hp := h c.toNat hc
  rwa [Char.ofNat_toNat] at hp

theorem isUpper_toLower (c : Char) : c.toLower.isUpper = false := by
  by_cases hc : 'Z'.toNat < c.toNat
  · rw [toLower_of_lt hc, Bool.eq_false_iff]
    intro hupper
    have := (isUpper_iff.1 hupper).2
    have hz : 'Z'.toNat = 90 := rfl
    omega
  · have hascii : c.toNat < 128 := Nat.lt_of_le_of_lt (Nat.not_lt.1 hc) (by decide)
    exact of_forall_ascii (p := fun c => c.toLower.isUpper = false) (by decide) hascii

/-! ### Forms in the tables -/

/-- A character of a form stands in one of the tables, unless the form is the character itself. -/
theorem mem_caseForm {expansions : Array (Nat × List Nat)} {runs : Array CaseRun} {c d : Char}
    (h : d ∈ caseForm expansions runs c) :
    d = c ∨ (∃ e ∈ expansions, e.1 = c.toNat ∧ ∃ n ∈ e.2, d = Char.ofNat n) ∨
      ∃ r ∈ runs, ∃ n, r.map? c.toNat = some n ∧ d = Char.ofNat n := by
  unfold caseForm at h
  cases hfind : expansions.find? (·.1 == c.toNat) with
  | some e =>
    rw [hfind] at h
    obtain ⟨n, hn, rfl⟩ := List.mem_map.1 h
    have hkey : e.1 = c.toNat := by simpa using Array.find?_some hfind
    exact .inr (.inl ⟨e, Array.mem_of_find?_eq_some hfind, hkey, n, hn, rfl⟩)
  | none =>
    rw [hfind, List.mem_singleton] at h
    cases hrun : runs.findSome? (·.map? c.toNat) with
    | none =>
      rw [hrun] at h
      exact .inl h
    | some n =>
      rw [hrun] at h
      obtain ⟨r, hr, hn⟩ := Array.exists_of_findSome?_eq_some hrun
      exact .inr (.inr ⟨r, hr, n, hn, h⟩)

theorem caseForm_ne_nil {expansions : Array (Nat × List Nat)}
    (h : expansions.toList.all (fun e => !e.2.isEmpty) = true) (runs : Array CaseRun) (c : Char) :
    caseForm expansions runs c ≠ [] := by
  unfold caseForm
  split
  · rename_i form hfind
    have he := Array.mem_toList_iff.2 (Array.mem_of_find?_eq_some hfind)
    simpa using List.all_eq_true.1 h _ he
  · exact List.cons_ne_nil _ _

theorem upperForm_ne_nil (c : Char) : upperForm c ≠ [] := by
  unfold upperForm
  split
  · exact List.cons_ne_nil _ _
  · exact caseForm_ne_nil (by decide) upperRuns c

theorem lowerForm_ne_nil (c : Char) : lowerForm c ≠ [] := by
  unfold lowerForm
  split
  · exact List.cons_ne_nil _ _
  · exact caseForm_ne_nil (by decide) lowerRuns c

/-- Whether a code point is one of a character above the ASCII block. -/
def isBeyondAscii (n : Nat) : Bool :=
  Nat.blt 127 n && (Nat.blt n 0xD800 || (Nat.blt 0xDFFF n && Nat.blt n 0x110000))

theorem not_ascii_of_isBeyondAscii {n : Nat} (h : isBeyondAscii n = true) :
    ¬ (Char.ofNat n).toNat < 128 := by
  simp only [isBeyondAscii, Bool.and_eq_true, Bool.or_eq_true, Nat.blt_eq] at h
  have hvalid : n.isValidChar := by
    unfold Nat.isValidChar
    omega
  rw [toNat_ofNat hvalid]
  omega

/-- Whether all that a run maps to lies above the ASCII block, on one side of the gap in the code
points. -/
def CaseRun.isBeyondAscii (r : CaseRun) : Bool :=
  Nat.blt 127 r.target &&
    (Nat.blt r.top 0xD800 || (Nat.blt 0xDFFF r.target && Nat.blt r.top 0x110000))

theorem CaseRun.isBeyondAscii_of_map? {r : CaseRun} (h : r.isBeyondAscii = true) {n m : Nat}
    (hm : r.map? n = some m) : Text.isBeyondAscii m = true := by
  obtain ⟨hlow, hhigh⟩ := target_le_of_map? hm
  simp only [CaseRun.isBeyondAscii, Text.isBeyondAscii, Bool.and_eq_true, Bool.or_eq_true,
    Nat.blt_eq] at h ⊢
  omega

/-! ### Uppercase forms -/

/-- Whether a code point is one of a capital letter of the ASCII block. -/
def isCapitalCode (n : Nat) : Bool := Nat.ble 65 n && Nat.ble n 90

theorem isUpper_of_isCapitalCode {n : Nat} (h : isCapitalCode n = true) :
    (Char.ofNat n).isUpper = true := by
  simp only [isCapitalCode, Bool.and_eq_true, Nat.ble_eq] at h
  have hvalid : n.isValidChar := by
    unfold Nat.isValidChar
    omega
  rw [isUpper_iff, toNat_ofNat hvalid]
  exact h

theorem upperExpansions_capital : upperExpansions.toList.all (fun e =>
    e.2.all fun n => isBeyondAscii n || isCapitalCode n) = true := by
  decide

theorem upperRuns_capital : upperRuns.toList.all (fun r =>
    r.isBeyondAscii || (r.first == r.last && isCapitalCode r.target)) = true := by
  decide

/-- A run of one member maps it to its target. -/
theorem CaseRun.eq_of_map?_single {r : CaseRun} (h : r.first = r.last) {n m : Nat}
    (hm : r.map? n = some m) : n = r.first ∧ m = r.target := by
  unfold map? at hm
  split at hm
  · rename_i hn
    simp only [Bool.and_eq_true, decide_eq_true_eq] at hn
    cases hm
    omega
  · cases hm

/-- The uppercase form of a character above the ASCII block has nothing of it but capitals. -/
theorem isUpper_of_mem_upperForm {c d : Char} (hc : ¬ c.toNat < 128) (h : d ∈ upperForm c)
    (hd : d.toNat < 128) : d.isUpper = true := by
  rw [upperForm, if_neg hc] at h
  rcases mem_caseForm h with rfl | ⟨e, he, -, n, hn, rfl⟩ | ⟨r, hr, n, hn, rfl⟩
  · exact absurd hd hc
  · have hall := List.all_eq_true.1 upperExpansions_capital e (Array.mem_toList_iff.2 he)
    rcases Bool.or_eq_true_iff.1 (List.all_eq_true.1 hall n hn) with hbeyond | hcapital
    · exact absurd hd (not_ascii_of_isBeyondAscii hbeyond)
    · exact isUpper_of_isCapitalCode hcapital
  · have hall := List.all_eq_true.1 upperRuns_capital r (Array.mem_toList_iff.2 hr)
    rcases Bool.or_eq_true_iff.1 hall with hbeyond | hsingle
    · exact absurd hd (not_ascii_of_isBeyondAscii (r.isBeyondAscii_of_map? hbeyond hn))
    · have hsingle := Bool.and_eq_true_iff.1 hsingle
      obtain ⟨-, rfl⟩ := CaseRun.eq_of_map?_single (beq_iff_eq.1 hsingle.1) hn
      exact isUpper_of_isCapitalCode hsingle.2

/-- An uppercase form has no small letter of the ASCII block. -/
theorem isLower_of_mem_upperForm {c d : Char} (h : d ∈ upperForm c) : d.isLower = false := by
  rw [Bool.eq_false_iff]
  intro hlower
  have hrange := isLower_iff.1 hlower
  by_cases hc : c.toNat < 128
  · rw [upperForm, if_pos hc, List.mem_singleton] at h
    have hupper : c.toUpper.isLower = false :=
      of_forall_ascii (p := fun c => c.toUpper.isLower = false) (by decide) hc
    rw [h, hupper] at hlower
    cases hlower
  · have hupper := isUpper_iff.1 (isUpper_of_mem_upperForm hc h (by omega))
    omega

/-! ### Lowercase forms -/

theorem lowerExpansions_plain : lowerExpansions.toList.all (fun e =>
    e.2.all fun n => isBeyondAscii n || (e.1 == '\u0130'.toNat && n == 'i'.toNat)) = true := by
  decide

theorem lowerRuns_plain : lowerRuns.toList.all (fun r =>
    r.isBeyondAscii ||
      (r.first == r.last && r.first == '\u212a'.toNat && r.target == 'k'.toNat)) = true := by
  decide

/-- Two characters above the ASCII block have a lowercase form with a character of it. -/
theorem eq_of_mem_lowerForm {c d : Char} (hc : ¬ c.toNat < 128) (h : d ∈ lowerForm c)
    (hd : d.toNat < 128) : (c = '\u0130' ∧ d = 'i') ∨ (c = '\u212a' ∧ d = 'k') := by
  rw [lowerForm, if_neg hc] at h
  rcases mem_caseForm h with rfl | ⟨e, he, hkey, n, hn, rfl⟩ | ⟨r, hr, n, hn, rfl⟩
  · exact absurd hd hc
  · have hall := List.all_eq_true.1 lowerExpansions_plain e (Array.mem_toList_iff.2 he)
    rcases Bool.or_eq_true_iff.1 (List.all_eq_true.1 hall n hn) with hbeyond | hdotted
    · exact absurd hd (not_ascii_of_isBeyondAscii hbeyond)
    · simp only [Bool.and_eq_true, beq_iff_eq] at hdotted
      rw [hdotted.1] at hkey
      exact .inl ⟨(Char.toNat_inj.1 hkey).symm, by rw [hdotted.2, Char.ofNat_toNat]⟩
  · have hall := List.all_eq_true.1 lowerRuns_plain r (Array.mem_toList_iff.2 hr)
    rcases Bool.or_eq_true_iff.1 hall with hbeyond | hkelvin
    · exact absurd hd (not_ascii_of_isBeyondAscii (r.isBeyondAscii_of_map? hbeyond hn))
    · simp only [Bool.and_eq_true, beq_iff_eq] at hkelvin
      obtain ⟨⟨hsingle, hfirst⟩, htarget⟩ := hkelvin
      obtain ⟨hmember, rfl⟩ := CaseRun.eq_of_map?_single hsingle hn
      exact .inr ⟨Char.toNat_inj.1 (hmember.trans hfirst), by rw [htarget, Char.ofNat_toNat]⟩

/-! ### Marks -/

/-- A character of the ASCII block that is no letter. -/
def IsMark (c : Char) : Prop := c.toNat < 128 ∧ c.isAlpha = false

/-- A mark is in the lowercase form of no other character. -/
theorem IsMark.eq_of_mem_lowerForm {c d : Char} (hd : IsMark d) (h : d ∈ lowerForm c) : c = d := by
  by_cases hc : c.toNat < 128
  · rw [lowerForm, if_pos hc, List.mem_singleton] at h
    have hkept : c.toLower.isAlpha = true ∨ c.toLower = c :=
      of_forall_ascii (p := fun c => c.toLower.isAlpha = true ∨ c.toLower = c) (by decide) hc
    rw [← h, hd.2] at hkept
    exact (hkept.resolve_left Bool.false_ne_true).symm
  · rcases Text.eq_of_mem_lowerForm hc h hd.1 with ⟨-, rfl⟩ | ⟨-, rfl⟩
    · exact absurd hd.2 (by decide)
    · exact absurd hd.2 (by decide)

theorem IsMark.lowerForm_eq {d : Char} (hd : IsMark d) : lowerForm d = [d] := by
  have hlower : d.isAlpha = true ∨ d.toLower = d :=
    of_forall_ascii (p := fun c => c.isAlpha = true ∨ c.toLower = c) (by decide) hd.1
  rw [hd.2] at hlower
  rw [lowerForm, if_pos hd.1, hlower.resolve_left Bool.false_ne_true]

theorem IsMark.mem_lowerAfter_iff {d : Char} (hd : IsMark d) (before cs : List Char) :
    d ∈ lowerAfter before cs ↔ d ∈ cs := by
  induction cs generalizing before with
  | nil => exact Iff.rfl
  | cons c cs ih =>
    rw [lowerAfter, List.mem_append, List.mem_cons, ih]
    apply or_congr_left
    by_cases hsigma : c = 'Σ'
    · -- Neither a capital sigma nor one of its forms is a mark.
      subst hsigma
      rw [beq_self_eq_true, if_pos rfl, List.mem_singleton, lowerSigma]
      constructor
      · intro h
        split at h <;> exact absurd (h ▸ hd.1) (by decide)
      · intro h
        exact absurd (h ▸ hd.1) (by decide)
    · rw [if_neg (by simpa using hsigma)]
      constructor
      · exact fun h => (hd.eq_of_mem_lowerForm h).symm
      · rintro rfl
        rw [hd.lowerForm_eq]
        exact List.mem_singleton_self _

/-- Lowering a text neither takes marks away nor brings them in. -/
theorem IsMark.mem_lowercase_iff {d : Char} (hd : IsMark d) (s : String) :
    d ∈ (lowercase s).toList ↔ d ∈ s.toList := by
  unfold lowercase
  rw [String.toList_ofList]
  exact hd.mem_lowerAfter_iff [] s.toList

/-- A mark is in the uppercase form of no other character. -/
theorem IsMark.eq_of_mem_upperForm {c d : Char} (hd : IsMark d) (h : d ∈ upperForm c) : c = d := by
  by_cases hc : c.toNat < 128
  · rw [upperForm, if_pos hc, List.mem_singleton] at h
    have hkept : c.toUpper.isAlpha = true ∨ c.toUpper = c :=
      of_forall_ascii (p := fun c => c.toUpper.isAlpha = true ∨ c.toUpper = c) (by decide) hc
    rw [← h, hd.2] at hkept
    exact (hkept.resolve_left Bool.false_ne_true).symm
  · have halpha := isAlpha_iff.2 (.inl (isUpper_of_mem_upperForm hc h hd.1))
    rw [hd.2] at halpha
    cases halpha

end SourceReview.Text
