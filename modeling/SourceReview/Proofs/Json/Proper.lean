import Mathlib.Algebra.Ring.Int.Defs
import SourceReview.Json.Parser

/-!
# Numbers in JSON values

Values as a data type can hold any integers and any doubles. Those that stand in a text are proper
values (`Json.isProper_of_parse?`): their integers have 64 bits, and their other numbers are finite.
-/

namespace SourceReview.Json

/-- All numbers in the value are integers of 64 bits, with or without a sign, or finite doubles. -/
inductive IsProper : Json → Prop where
  | null : IsProper .null
  | bool (value : Bool) : IsProper (.bool value)
  | int {value : Int} (hlow : -2 ^ 63 ≤ value) (hhigh : value < 2 ^ 64) : IsProper (.int value)
  | float {value : Float} (h : value.isFinite = true) : IsProper (.float value)
  | str (value : String) : IsProper (.str value)
  | arr {items : List Json} (h : ∀ v ∈ items, IsProper v) : IsProper (.arr items)
  | obj {members : List (String × Json)} (h : ∀ m ∈ members, IsProper m.2) :
      IsProper (.obj members)

/-- A whole number is an integer of 64 bits or not an integer at all. -/
theorem wholeNumber_cases (negative : Bool) (n : Nat) :
    (∃ value : Int, wholeNumber negative n = .int value ∧ -2 ^ 63 ≤ value ∧ value < 2 ^ 64) ∨
      ∃ x, wholeNumber negative n = .float x := by
  have hlow : Decimal.twoTo 63 = 2 ^ 63 := rfl
  have hhigh : Decimal.twoTo 64 = 2 ^ 64 := rfl
  unfold wholeNumber
  split
  · split
    · rename_i hbound
      simp only [Bool.and_eq_true, decide_eq_true_eq] at hbound
      exact .inl ⟨-n, rfl, by omega, by omega⟩
    · exact .inr ⟨_, rfl⟩
  · split
    · exact .inl ⟨n, rfl, by omega, by omega⟩
    · exact .inr ⟨_, rfl⟩

theorem isProper_of_numberAt {negative : Bool} {cs rest : List Char} {v : Json}
    (h : numberAt negative cs = some (v, rest)) : v.IsProper := by
  obtain ⟨numeral, hnumeral⟩ : ∃ numeral, numeral = (Decimal.numeralAt cs).1 := ⟨_, rfl⟩
  unfold numberAt at h
  simp only [← hnumeral] at h
  split at h
  · cases h
  · split at h
    · cases h
    · -- The check of the result lets no other doubles pass than finite ones.
      obtain ⟨value, hvalue⟩ : ∃ value, value =
          if numeral.fraction.isNone && numeral.exponent.isNone then
            wholeNumber negative (Decimal.natOfDigits numeral.whole)
          else .float (numeral.value negative) := ⟨_, rfl⟩
      rw [← hvalue] at h
      have hcases : (∃ n : Int, value = .int n ∧ -2 ^ 63 ≤ n ∧ n < 2 ^ 64) ∨
          ∃ x, value = .float x := by
        rw [hvalue]
        split
        · exact wholeNumber_cases _ _
        · exact .inr ⟨_, rfl⟩
      rcases hcases with ⟨n, rfl, hlow, hhigh⟩ | ⟨x, rfl⟩
      · cases h
        exact .int hlow hhigh
      · simp only at h
        split at h
        · rename_i hfinite
          cases h
          exact .float hfinite
        · cases h

/-! ### Readers -/

/-- Everything that the readers of values, items and members read in a number of steps is proper. -/
structure ReadsProper (fuel : Nat) : Prop where
  value : ∀ {depth cs v rest}, valueAt fuel depth cs = some (v, rest) → v.IsProper
  items : ∀ {depth cs vs rest}, itemsAt fuel depth cs = some (vs, rest) → ∀ v ∈ vs, IsProper v
  members : ∀ {depth cs ms rest}, membersAt fuel depth cs = some (ms, rest) → ∀ m ∈ ms, IsProper m.2

namespace ReadsProper

variable {fuel : Nat} (hfuel : ReadsProper fuel)
include hfuel

theorem value_succ {depth : Nat} {cs rest : List Char} {v : Json}
    (h : valueAt (fuel + 1) depth cs = some (v, rest)) : v.IsProper := by
  rw [valueAt] at h
  split at h
  · cases h
    exact .null
  · cases h
    exact .bool true
  · cases h
    exact .bool false
  · obtain ⟨⟨s, tail⟩, -, heq⟩ := Option.map_eq_some_iff.1 h
    cases heq
    exact .str s
  · split at h
    · cases h
    · split at h
      · cases h
        exact .arr fun _ hv => absurd hv List.not_mem_nil
      · obtain ⟨⟨vs, tail⟩, hread, heq⟩ := Option.map_eq_some_iff.1 h
        cases heq
        exact .arr (hfuel.items hread)
  · split at h
    · cases h
    · split at h
      · cases h
        exact .obj fun _ hm => absurd hm List.not_mem_nil
      · obtain ⟨⟨ms, tail⟩, hread, heq⟩ := Option.map_eq_some_iff.1 h
        cases heq
        exact .obj (hfuel.members hread)
  · exact isProper_of_numberAt h
  · exact isProper_of_numberAt h

theorem items_succ {depth : Nat} {cs rest : List Char} {vs : List Json}
    (h : itemsAt (fuel + 1) depth cs = some (vs, rest)) : ∀ v ∈ vs, IsProper v := by
  rw [itemsAt] at h
  split at h
  · cases h
  · rename_i hvalue
    have hfirst := hfuel.value hvalue
    split at h
    · cases h
      exact List.forall_mem_singleton.2 hfirst
    · obtain ⟨⟨more, tail⟩, hread, heq⟩ := Option.map_eq_some_iff.1 h
      cases heq
      exact List.forall_mem_cons.2 ⟨hfirst, hfuel.items hread⟩
    · cases h

theorem members_succ {depth : Nat} {cs rest : List Char} {ms : List (String × Json)}
    (h : membersAt (fuel + 1) depth cs = some (ms, rest)) : ∀ m ∈ ms, IsProper m.2 := by
  rw [membersAt] at h
  split at h
  · split at h
    · cases h
    · split at h
      · split at h
        · cases h
        · rename_i hvalue
          have hfirst := hfuel.value hvalue
          split at h
          · cases h
            exact List.forall_mem_singleton.2 hfirst
          · obtain ⟨⟨more, tail⟩, hread, heq⟩ := Option.map_eq_some_iff.1 h
            cases heq
            exact List.forall_mem_cons.2 ⟨hfirst, hfuel.members hread⟩
          · cases h
      · cases h
  · cases h

end ReadsProper

theorem readsProper (fuel : Nat) : ReadsProper fuel := by
  induction fuel with
  | zero => exact ⟨nofun, nofun, nofun⟩
  | succ fuel ih => exact ⟨ih.value_succ, ih.items_succ, ih.members_succ⟩

/-- A value that is read from a text is proper. -/
theorem isProper_of_parse? {text : String} {v : Json} (h : parse? text = some v) : v.IsProper := by
  unfold parse? at h
  simp only at h
  split at h
  · rename_i hvalue
    split at h
    · cases h
      exact (readsProper _).value hvalue
    · cases h
  · cases h

end SourceReview.Json
