import SourceReview.Calendar.Timestamp
import SourceReview.Proofs.Calendar.Date

/-!
# Timestamps are read back

A timestamp that is written as a text is read back from it (`Timestamp.parse?_text`). The parts of
the text are read one after the other: each part is followed by what it is read up to, and a number
of fixed width by anything.

Not every pair of numbers is a moment. More than a second's worth of nanoseconds stands for a leap
second, which only the last second of a minute has, and the year must be one that can be read
(`Timestamp.IsMoment`).
-/

namespace SourceReview

/-- The next step after one that gives a result. -/
theorem bind_eq_of_eq_some {α β : Type} {x : Option α} {a : α} (h : x = some a)
    (f : α → Option β) : (x >>= f) = f a := by
  rw [h]
  rfl

/-- No digit is a blank. -/
theorem Text.isBlank_of_isDigit {c : Char} (hc : c.isDigit = true) : isBlank c = false := by
  unfold Char.isDigit at hc
  simp only [Bool.and_eq_true, decide_eq_true_eq, ge_iff_le, UInt32.le_iff_toNat_le] at hc
  have hlow : 48 ≤ c.toNat := hc.1
  have hhigh : c.toNat ≤ 57 := hc.2
  have hspace : c ≠ ' ' := by
    rintro rfl
    exact absurd hlow (by decide)
  unfold isBlank
  simp only [beq_eq_false_iff_ne.2 hspace, Bool.false_or, Bool.or_eq_false_iff,
    Bool.and_eq_false_iff, decide_eq_false_iff_not]
  omega

namespace Timestamp

/-! ### Numbers -/

theorem toList_digits (width n : Nat) : (digits width n).toList
    = List.replicate (width - (Nat.toDigits 10 n).length) '0' ++ Nat.toDigits 10 n :=
  String.toList_ofList

theorem isDigit_of_mem_digits {width n : Nat} {c : Char} (hc : c ∈ (digits width n).toList) :
    c.isDigit = true := by
  rw [toList_digits] at hc
  rcases List.mem_append.1 hc with hc | hc
  · rw [List.eq_of_mem_replicate hc]
    rfl
  · exact Nat.isDigit_of_mem_toDigits (by decide) (by decide) hc

theorem digits_ne_nil (width n : Nat) : (digits width n).toList ≠ [] := by
  rw [toList_digits]
  exact List.append_ne_nil_of_right_ne_nil _ Nat.toDigits_ne_nil

theorem length_digits {width n : Nat} (hwidth : 0 < width) (hn : n < 10 ^ width) :
    (digits width n).toList.length = width := by
  have hlength := (Nat.length_toDigits_le_iff (by decide) hwidth).2 hn
  rw [toList_digits, List.length_append, List.length_replicate]
  omega

/-- The digits of a number stand for it, whatever number of zeros is before them. -/
theorem natOfDigits_digits (width n : Nat) :
    Decimal.natOfDigits (digits width n).toList = n := by
  have hfold : ∀ ds, Decimal.natOfDigits ds = Nat.ofDigitChars 10 ds 0 :=
    fun _ => Nat.ofDigitChars_eq_foldl.symm
  rw [hfold, toList_digits, Nat.ofDigitChars_append, Nat.ofDigitChars_replicate_zero, Nat.mul_zero]
  exact Nat.ofDigitChars_toDigits (by decide) (by decide)

/-- Digits are no blanks, so none of them is skipped. -/
theorem trimStart_append_of_digits {ds : List Char} (hne : ds ≠ [])
    (hds : ∀ c ∈ ds, c.isDigit = true) (rest : List Char) :
    Text.trimStart (ds ++ rest) = ds ++ rest := by
  obtain ⟨d, ds, rfl⟩ := List.exists_cons_of_ne_nil hne
  apply List.dropWhile_cons_of_neg
  rw [Text.isBlank_of_isDigit (hds d List.mem_cons_self)]
  exact Bool.false_ne_true

/-- A number is read up to its last digit if it has all digits that may be read, or if no digit
follows. -/
theorem numberAt?_digits {width read : Nat} (n : Nat) {rest : List Char}
    (h : (digits width n).toList.length = read ∨
      (digits width n).toList.length ≤ read ∧ rest.takeWhile Char.isDigit = []) :
    numberAt? read ((digits width n).toList ++ rest) = some (n, rest) := by
  obtain ⟨ds, hds⟩ : ∃ ds, ds = (digits width n).toList := ⟨_, rfl⟩
  have hne : ds ≠ [] := hds ▸ digits_ne_nil width n
  have hdigit : ∀ c ∈ ds, c.isDigit = true := fun c hc => isDigit_of_mem_digits (hds ▸ hc)
  have hvalue : Decimal.natOfDigits ds = n := hds ▸ natOfDigits_digits width n
  rw [← hds] at h ⊢
  have htake : ((ds ++ rest).takeWhile Char.isDigit).take read = ds := by
    rw [List.takeWhile_append_of_pos hdigit]
    rcases h with h | ⟨h, hrest⟩
    · exact List.take_left' h
    · rw [hrest, List.append_nil]
      exact List.take_of_length_le h
  unfold numberAt?
  simp only [trimStart_append_of_digits hne hdigit, htake, hvalue, List.drop_left]
  rw [if_neg (by simpa using hne)]

/-- A number of fixed width is read, whatever follows. -/
theorem numberAt?_two {n : Nat} (hn : n < 100) (rest : List Char) :
    numberAt? 2 ((digits 2 n).toList ++ rest) = some (n, rest) :=
  numberAt?_digits n (.inl (length_digits (by decide) hn))

theorem markAt?_cons {mark : Char} (hmark : Text.isBlank mark = false) (rest : List Char) :
    markAt? mark (mark :: rest) = some rest := by
  have htrim : Text.trimStart (mark :: rest) = mark :: rest :=
    List.dropWhile_cons_of_neg (by rw [hmark]; exact Bool.false_ne_true)
  unfold markAt?
  rw [htrim]
  exact if_pos (beq_self_eq_true mark)

/-! ### Years and fractions -/

/-- A year without a sign has at most four digits. -/
theorem yearAt?_of_digits {ds : List Char} (hne : ds ≠ []) (hds : ∀ c ∈ ds, c.isDigit = true)
    (rest : List Char) :
    yearAt? (ds ++ rest) = (numberAt? 4 (ds ++ rest)).map fun read => ((read.1 : Int), read.2) := by
  unfold yearAt?
  rw [trimStart_append_of_digits hne hds]
  obtain ⟨d, ds, rfl⟩ := List.exists_cons_of_ne_nil hne
  have hd : d.isDigit = true := hds d List.mem_cons_self
  rw [List.cons_append]
  split
  · rename_i heq
    rw [(List.cons.inj heq).1] at hd
    exact absurd hd (by decide)
  · rename_i heq
    rw [(List.cons.inj heq).1] at hd
    exact absurd hd (by decide)
  · rfl

/-- A year is read up to the mark behind it. -/
theorem yearAt?_yearText (year : Int) (rest : List Char) :
    yearAt? ((yearText year).toList ++ '-' :: rest) = some (year, '-' :: rest) := by
  obtain ⟨ds, hds⟩ : ∃ ds, ds = (digits 4 year.natAbs).toList := ⟨_, rfl⟩
  have hne : ds ≠ [] := hds ▸ digits_ne_nil 4 year.natAbs
  have hdigit : ∀ c ∈ ds, c.isDigit = true := fun c hc => isDigit_of_mem_digits (hds ▸ hc)
  have hend : ('-' :: rest).takeWhile Char.isDigit = [] := List.takeWhile_cons_of_neg (by decide)
  -- A year with a sign has any number of digits.
  have hsigned : yearAt?.signed (ds ++ '-' :: rest) = some (year.natAbs, '-' :: rest) := by
    unfold yearAt?.signed
    rw [List.takeWhile_append_of_pos hdigit, hend, List.append_nil, if_neg (by simpa using hne), hds]
    exact numberAt?_digits _ (.inr ⟨by simp, hend⟩)
  unfold yearText
  by_cases hneg : year < 0
  · have habs : -(year.natAbs : Int) = year := by omega
    rw [if_pos hneg, String.toList_append, ← hds]
    show (yearAt?.signed (ds ++ '-' :: rest)).map _ = _
    rw [hsigned]
    exact congrArg (fun n => some (n, '-' :: rest)) habs
  · have habs : (year.natAbs : Int) = year := by omega
    rw [if_neg hneg]
    by_cases hlong : 9999 < year
    · rw [if_pos hlong, String.toList_append, ← hds]
      show (yearAt?.signed (ds ++ '-' :: rest)).map _ = _
      rw [hsigned]
      exact congrArg (fun n => some (n, '-' :: rest)) habs
    · have hfour : numberAt? 4 (ds ++ '-' :: rest) = some (year.natAbs, '-' :: rest) := by
        rw [hds]
        exact numberAt?_digits _ (.inl (length_digits (by decide) (by omega)))
      rw [if_neg hlong, ← hds, yearAt?_of_digits hne hdigit, hfour]
      exact congrArg (fun n => some (n, '-' :: rest)) habs

/-- The digits of a fraction are read up to the letter behind them. -/
theorem fractionAt?_point {width n : Nat} (hwidth : 0 < width) (hnine : width ≤ 9)
    (hn : n < 10 ^ width) (rest : List Char) :
    fractionAt? (("." ++ digits width n).toList ++ 'Z' :: rest)
      = some (n * Decimal.tenTo (9 - width), 'Z' :: rest) := by
  obtain ⟨ds, hds⟩ : ∃ ds, ds = (digits width n).toList := ⟨_, rfl⟩
  have hne : ds ≠ [] := hds ▸ digits_ne_nil width n
  have hlength : ds.length = width := hds ▸ length_digits hwidth hn
  have hvalue : Decimal.natOfDigits ds = n := hds ▸ natOfDigits_digits width n
  have hall : (ds ++ 'Z' :: rest).takeWhile Char.isDigit = ds := by
    have hend : ('Z' :: rest).takeWhile Char.isDigit = [] := List.takeWhile_cons_of_neg (by decide)
    rw [List.takeWhile_append_of_pos fun c hc => isDigit_of_mem_digits (hds ▸ hc), hend,
      List.append_nil]
  have htake : ds.take 9 = ds := List.take_of_length_le (by omega)
  rw [String.toList_append, ← hds]
  show fractionAt? ('.' :: (ds ++ 'Z' :: rest)) = _
  unfold fractionAt?
  simp only [hall, htake, hlength, hvalue]
  rw [if_neg (by simpa using hne), ← hlength, List.drop_left]

/-- A fraction of a second is read up to the letter behind it. -/
theorem fractionAt?_fractionText {nanos : Nat} (hnanos : nanos < 1000000000) (rest : List Char) :
    fractionAt? ((fractionText nanos).toList ++ 'Z' :: rest) = some (nanos, 'Z' :: rest) := by
  unfold fractionText
  split
  · rename_i hzero
    rw [hzero]
    rfl
  · split
    · rw [fractionAt?_point (by decide) (by decide) (by omega)]
      have hvalue : nanos / 1000000 * 1000000 = nanos := by omega
      exact congrArg (fun n => some (n, 'Z' :: rest)) hvalue
    · split
      · rw [fractionAt?_point (by decide) (by decide) (by omega)]
        have hvalue : nanos / 1000 * 1000 = nanos := by omega
        exact congrArg (fun n => some (n, 'Z' :: rest)) hvalue
      · rw [fractionAt?_point (by decide) (by decide) (by omega)]
        exact congrArg (fun n => some (n, 'Z' :: rest)) (Nat.mul_one nanos)

theorem offsetAt?_zulu : offsetAt? ['Z'] = some (0, []) := by decide

/-! ### Moments -/

/-- The timestamp is a moment that has a text: a second that is more than full is the last of a
minute, and the year can be read. -/
def IsMoment (t : Timestamp) : Prop :=
  (t.nanos < 1000000000 ∨ t.nanos < 2000000000 ∧ t.seconds % 60 = 59) ∧
    (Calendar.Date.ofDays (t.seconds / 86400)).year.natAbs ≤ yearLimit

instance : DecidablePred IsMoment := fun _ => inferInstanceAs (Decidable (_ ∧ _))

/-- The text of a date and a time of day. -/
def clockText (date : Calendar.Date) (hour minute second nanos : Nat) : String :=
  yearText date.year ++ "-" ++ digits 2 date.month ++ "-" ++ digits 2 date.day ++ "T" ++
    digits 2 hour ++ ":" ++ digits 2 minute ++ ":" ++ digits 2 second ++ fractionText nanos ++ "Z"

theorem toList_clockText (date : Calendar.Date) (hour minute second nanos : Nat) :
    (clockText date hour minute second nanos).toList
      = (yearText date.year).toList ++ '-' :: ((digits 2 date.month).toList ++ '-' ::
        ((digits 2 date.day).toList ++ 'T' :: ((digits 2 hour).toList ++ ':' ::
        ((digits 2 minute).toList ++ ':' :: ((digits 2 second).toList ++
        ((fractionText nanos).toList ++ ['Z'])))))) := by
  simp [clockText]

/-- What is read from the text of a date and a time of day, where the second may be a leap second. -/
theorem parse?_clockText {date : Calendar.Date} (hdate : date.isValid = true)
    (hyear : date.year.natAbs ≤ yearLimit) {hour minute second nanos : Nat} (hhour : hour < 24)
    (hminute : minute < 60) (hsecond : second ≤ 60) (hnanos : nanos < 1000000000) :
    parse? (clockText date hour minute second nanos) = some
      (if second = 60 then
        ⟨date.toDays * 86400 + (hour * 3600 + minute * 60 + 59 : Nat), nanos + 1000000000⟩
      else ⟨date.toDays * 86400 + (hour * 3600 + minute * 60 + second : Nat), nanos⟩) := by
  have hparts := hdate
  unfold Calendar.Date.isValid at hparts
  simp only [Bool.and_eq_true, decide_eq_true_eq] at hparts
  have hdash : Text.isBlank '-' = false := by decide
  have hcolon : Text.isBlank ':' = false := by decide
  have hmonth : date.month < 100 := by omega
  have hday : date.day < 100 := by
    have hdays := Calendar.daysIn_le date.year date.month
    omega
  unfold parse?
  rw [toList_clockText, bind_eq_of_eq_some (yearAt?_yearText _ _)]
  dsimp only
  rw [bind_eq_of_eq_some (markAt?_cons hdash _), bind_eq_of_eq_some (numberAt?_two hmonth _)]
  dsimp only
  rw [bind_eq_of_eq_some (markAt?_cons hdash _), bind_eq_of_eq_some (numberAt?_two hday _)]
  dsimp only
  rw [if_pos (by decide), bind_eq_of_eq_some rfl,
    bind_eq_of_eq_some (numberAt?_two (by omega : hour < 100) _),
    bind_eq_of_eq_some (markAt?_cons hcolon _),
    bind_eq_of_eq_some (numberAt?_two (by omega : minute < 100) _),
    bind_eq_of_eq_some (markAt?_cons hcolon _),
    bind_eq_of_eq_some (numberAt?_two (by omega : second < 100) _),
    bind_eq_of_eq_some (fractionAt?_fractionText hnanos _), bind_eq_of_eq_some offsetAt?_zulu]
  dsimp only
  rw [if_pos ?_]
  · split
    · rw [Int.sub_zero]
    · rw [Int.sub_zero]
  · have hrest : (Text.trimStart []).isEmpty = true := rfl
    simp only [hdate, hyear, hhour, hminute, hsecond, hrest, decide_true, Bool.and_true]
    decide

/-- **A timestamp is read back from its text.** -/
theorem parse?_text {t : Timestamp} (ht : t.IsMoment) : parse? t.text = some t := by
  obtain ⟨hnanos, hyear⟩ := ht
  obtain ⟨time, htime⟩ : ∃ time : Nat, time = (t.seconds % 86400).toNat := ⟨_, rfl⟩
  obtain ⟨date, hdate⟩ : ∃ date, date = Calendar.Date.ofDays (t.seconds / 86400) := ⟨_, rfl⟩
  have hvalid : date.isValid = true := hdate ▸ Calendar.Date.isValid_ofDays _
  have hdays : date.toDays = t.seconds / 86400 := hdate ▸ Calendar.Date.toDays_ofDays _
  by_cases hfull : t.nanos < 1000000000
  · have htext : t.text = clockText date (time / 3600) (time / 60 % 60) (time % 60) t.nanos := by
      unfold text
      rw [if_pos hfull, ← htime, ← hdate]
      rfl
    rw [htext, parse?_clockText hvalid (hdate ▸ hyear) (by omega) (by omega) (by omega) hfull,
      if_neg (by omega)]
    have hseconds : date.toDays * 86400
        + (time / 3600 * 3600 + time / 60 % 60 * 60 + time % 60 : Nat) = t.seconds := by omega
    rw [hseconds]
  · have htext : t.text = clockText date (time / 3600) (time / 60 % 60) (time % 60 + 1)
        (t.nanos - 1000000000) := by
      unfold text
      rw [if_neg hfull, ← htime, ← hdate]
      rfl
    -- The second that is more than full is the last one of its minute, so sixty is written.
    obtain ⟨hless, hlast⟩ := hnanos.resolve_left hfull
    rw [htext, parse?_clockText hvalid (hdate ▸ hyear) (by omega) (by omega) (by omega) (by omega),
      if_pos (by omega)]
    have hseconds : date.toDays * 86400
        + (time / 3600 * 3600 + time / 60 % 60 * 60 + 59 : Nat) = t.seconds := by omega
    have hnanos : t.nanos - 1000000000 + 1000000000 = t.nanos := by omega
    rw [hseconds, hnanos]

end Timestamp

end SourceReview
