import Mathlib.Data.List.Infix
import SourceReview.Outline.Parameters
import SourceReview.Proofs.Text.Segment

/-!
# Parameters are counted as they are listed

A list of items, joined by commas and put in parentheses, is taken apart into the same items
(`items_joined`), if the brackets in each item are closed again and its commas stand inside of them.
So the number of parameters in a signature is the number of those items that are parameters,
whatever comes before the list and after it (`count_joined`).

The walk over the list knows nothing but the depth of open brackets. One step changes the depth by
`nesting c` (`items_cons`), and a whole item leaves it as it was (`items_append`).
-/

namespace SourceReview.Parameters

/-! ### Levels -/

/-- What a character adds to the depth of open brackets. -/
def nesting (c : Char) : Int := if isOpening c then 1 else if isClosing c then -1 else 0

/-- The number of brackets that a text opens, less those that it closes. -/
def level : List Char → Int
  | [] => 0
  | c :: cs => nesting c + level cs

/-- A text that can be an item of a list. -/
structure IsItem (t : List Char) : Prop where
  /-- No bracket closes one that was opened before the text. -/
  level_nonneg : ∀ n ≤ t.length, 0 ≤ level (t.take n)
  /-- Every bracket is closed again. -/
  level_eq_zero : level t = 0
  /-- Every comma stands inside of brackets. -/
  comma_nested : ∀ n < t.length, t[n]? = some ',' → level (t.take n) ≠ 0

instance (t : List Char) : Decidable (IsItem t) :=
  decidable_of_iff
    ((∀ n ≤ t.length, 0 ≤ level (t.take n)) ∧ level t = 0 ∧
      ∀ n < t.length, t[n]? = some ',' → level (t.take n) ≠ 0)
    ⟨fun ⟨hnonneg, hzero, hcomma⟩ => ⟨hnonneg, hzero, hcomma⟩,
      fun h => ⟨h.level_nonneg, h.level_eq_zero, h.comma_nested⟩⟩

/-! ### Walking over items -/

theorem consFirst_ne_nil (c : Char) (rest : List (List Char)) : consFirst c rest ≠ [] := by
  cases rest <;> simp [consFirst]

theorem items_ne_nil (depth : Nat) (cs : List Char) : items depth cs ≠ [] := by
  fun_cases items depth cs
  · exact List.cons_ne_nil _ _
  · exact consFirst_ne_nil _ _
  · exact List.cons_ne_nil _ _
  · exact consFirst_ne_nil _ _
  · exact List.cons_ne_nil _ _
  · exact consFirst_ne_nil _ _

/-- A character that neither ends an item nor closes the list belongs to the first item. -/
theorem items_cons {depth depth' : Nat} {c : Char} (hdepth : (depth' : Int) = depth + nesting c)
    (hcomma : c = ',' → depth ≠ 0) (cs : List Char) :
    items depth (c :: cs) = (items depth' cs).modifyHead (c :: ·) := by
  have hfirst : ∀ d, consFirst c (items d cs) = (items d cs).modifyHead (c :: ·) := by
    intro d
    obtain ⟨item, rest, heq⟩ := List.exists_cons_of_ne_nil (items_ne_nil d cs)
    rw [heq]
    rfl
  rw [items.eq_def]
  dsimp only
  unfold nesting at hdepth
  split
  · rename_i hopening
    rw [if_pos hopening] at hdepth
    have hsucc : depth' = depth + 1 := by omega
    rw [hfirst, hsucc]
  · rename_i hopening
    rw [if_neg hopening] at hdepth
    split
    · rename_i hclosing
      rw [if_pos hclosing] at hdepth
      -- The depth does not get below zero, so the bracket is not the one of the list.
      obtain ⟨outer, rfl⟩ : ∃ outer, depth = outer + 1 := ⟨depth - 1, by omega⟩
      have houter : depth' = outer := by omega
      rw [houter]
      exact hfirst outer
    · rename_i hclosing
      rw [if_neg hclosing] at hdepth
      have hsame : depth' = depth := by omega
      rw [if_neg, hfirst, hsame]
      intro hend
      simp only [Bool.and_eq_true, beq_iff_eq] at hend
      exact hcomma hend.1 hend.2

/-- A text that never gets below the level of the list, and that has no comma there, belongs to the
first item as a whole. -/
theorem items_append {depth depth' : Nat} {t : List Char}
    (hdepth : (depth' : Int) = depth + level t)
    (hnonneg : ∀ n ≤ t.length, 0 ≤ (depth : Int) + level (t.take n))
    (hcomma : ∀ n < t.length, t[n]? = some ',' → (depth : Int) + level (t.take n) ≠ 0)
    (rest : List Char) :
    items depth (t ++ rest) = (items depth' rest).modifyHead (t ++ ·) := by
  induction t generalizing depth with
  | nil =>
    have hsame : depth' = depth := by
      have hnil : level [] = 0 := rfl
      omega
    rw [hsame]
    obtain ⟨item, others, heq⟩ := List.exists_cons_of_ne_nil (items_ne_nil depth rest)
    rw [List.nil_append, heq]
    rfl
  | cons c cs ih =>
    have hlevel : ∀ cs : List Char, level (c :: cs) = nesting c + level cs := fun _ => rfl
    -- The depth after the first character, where the rest of the text goes on.
    obtain ⟨next, hnext⟩ : ∃ next : Nat, (next : Int) = depth + nesting c := by
      have hone := hnonneg 1 (by simp)
      rw [List.take_succ_cons, List.take_zero, hlevel] at hone
      have hnil : level [] = 0 := rfl
      exact ⟨((depth : Int) + nesting c).toNat, by omega⟩
    have hfirst : c = ',' → depth ≠ 0 := by
      intro hc hzero
      have hne := hcomma 0 (by simp) (by simp [hc])
      have hnil : level ((c :: cs).take 0) = 0 := rfl
      omega
    have htail : items next (cs ++ rest) = (items depth' rest).modifyHead (cs ++ ·) := by
      apply ih
      · rw [hlevel] at hdepth
        omega
      · intro n hn
        have h := hnonneg (n + 1) (by simpa using hn)
        rw [List.take_succ_cons, hlevel] at h
        omega
      · intro n hn hget
        have h := hcomma (n + 1) (by simpa using hn) (by simpa using hget)
        rw [List.take_succ_cons, hlevel] at h
        omega
    rw [List.cons_append, items_cons hnext hfirst, htail, List.modifyHead_modifyHead]
    rfl

namespace IsItem

variable {t : List Char} (h : IsItem t)
include h

theorem items_append (rest : List Char) :
    items 0 (t ++ rest) = (items 0 rest).modifyHead (t ++ ·) := by
  apply Parameters.items_append
  · rw [h.level_eq_zero]
    rfl
  · intro n hn
    have := h.level_nonneg n hn
    omega
  · intro n hn hget
    have := h.comma_nested n hn hget
    omega

theorem items_comma (rest : List Char) : items 0 (t ++ ',' :: rest) = t :: items 0 rest := by
  have hcomma : items 0 (',' :: rest) = [] :: items 0 rest := rfl
  rw [h.items_append, hcomma, List.modifyHead_cons, List.append_nil]

theorem items_closing (rest : List Char) : items 0 (t ++ ')' :: rest) = [t] := by
  have hclosing : items 0 (')' :: rest) = [[]] := rfl
  rw [h.items_append, hclosing, List.modifyHead_cons, List.append_nil]

end IsItem

/-- **A joined list is taken apart into its items.** -/
theorem items_joined {texts : List (List Char)} (hne : texts ≠ [])
    (hitems : ∀ t ∈ texts, IsItem t) (rest : List Char) :
    items 0 ([','].intercalate texts ++ ')' :: rest) = texts := by
  induction texts with
  | nil => exact absurd rfl hne
  | cons t ts ih =>
    have ht : IsItem t := hitems t List.mem_cons_self
    cases ts with
    | nil =>
      rw [List.intercalate_singleton]
      exact ht.items_closing rest
    | cons u us =>
      have htail : items 0 ([','].intercalate (u :: us) ++ ')' :: rest) = u :: us :=
        ih (List.cons_ne_nil u us) fun s hs => hitems s (List.mem_cons_of_mem t hs)
      rw [List.intercalate_cons_cons, List.append_assoc, List.append_assoc, List.singleton_append,
        ht.items_comma, htail]

/-! ### Counting -/

/-- The first parenthesis of a text is the one that no other comes before. -/
theorem splitFirst_opening {before : List Char} (hbefore : '(' ∉ before) (rest : List Char) :
    Text.splitFirst ['('] (before ++ '(' :: rest) = some (before, rest) := by
  rw [Text.splitFirst_eq_some_iff (List.cons_ne_nil _ _)]
  refine ⟨rfl, ?_⟩
  rw [List.dropLast_concat, List.singleton_infix_iff]
  exact hbefore

/-- **The parameters of a bracketed list are counted.** Whatever the brackets in the items hold, and
whatever comes before the list and after it, the number of parameters is the number of items that
are not blank and whose names are not to be ignored. -/
theorem count_joined (ignore : List (List Char)) (before after : List Char)
    (texts : List (List Char)) (hbefore : '(' ∉ before) (hne : texts ≠ [])
    (hitems : ∀ t ∈ texts, IsItem t) :
    count ignore (before ++ '(' :: ([','].intercalate texts ++ ')' :: after))
      = texts.countP fun t => Text.trim t ≠ [] ∧ leadingName (Text.trim t) ∉ ignore := by
  unfold count
  rw [splitFirst_opening hbefore]
  dsimp only
  rw [items_joined hne hitems]
  apply List.countP_congr
  intro t _
  simp [isParameter]

/-- A default value and a type with commas, a name to ignore, and a comma before the closing
parenthesis; what follows the list has parentheses of its own. -/
theorem count_joined_defaults :
    let texts :=
      ["self".toList, " m: Map<str, int> = f[0, (1)]".toList, " self_ ".toList, " ".toList]
    let after := " -> (a, b):".toList
    '(' ∉ "def f".toList ∧ texts ≠ [] ∧ (∀ t ∈ texts, IsItem t) ∧
      count ["self".toList, "cls".toList]
        ("def f".toList ++ '(' :: ([','].intercalate texts ++ ')' :: after)) = 2 := by
  intro texts after
  have hbefore : '(' ∉ "def f".toList := by decide
  have hitems : ∀ t ∈ texts, IsItem t := by decide
  refine ⟨hbefore, List.cons_ne_nil _ _, hitems, ?_⟩
  rw [count_joined _ _ _ texts hbefore (List.cons_ne_nil _ _) hitems]
  decide

end SourceReview.Parameters
