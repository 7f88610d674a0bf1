import Mathlib.Data.List.TakeWhile
import SourceReview.Proofs.Registry.Effect
import SourceReview.Proofs.Text.CaseForm
import SourceReview.Proofs.Text.Segment

/-!
# The spelling of registered extensions

An extension is registered without blanks around it and dots before it, in lower case. Nothing is
left of it just if it consists of dots with blanks around them (`normalExtension_eq_empty_iff`).
What is left is not always the form of itself: the blanks are taken off before the dots, so a blank
behind the dots stays, and is only taken off when the extension is registered once more.
`normalExtension_eq_self` says that this is the only case.

That lowering a text brings no blank to either end of it is read off the tables of forms, of which
none maps to a blank.
-/

namespace SourceReview

namespace Text

/-! ### Blanks and lowercase forms -/

/-- Ranges of code points above the ASCII block that hold all the blanks. -/
def blankRanges : List (Nat × Nat) :=
  [(0x85, 0xA0), (0x1680, 0x1680), (0x2000, 0x205F), (0x3000, 0x3000)]

theorem exists_blankRange {c : Char} (hc : ¬ c.toNat < 128) (hblank : isBlank c = true) :
    ∃ range ∈ blankRanges, range.1 ≤ c.toNat ∧ c.toNat ≤ range.2 := by
  have hspace : ¬ c = ' ' := by
    rintro rfl
    exact hc (by decide)
  simp only [isBlank, Bool.or_eq_true, Bool.and_eq_true, beq_iff_eq, decide_eq_true_eq, hspace,
    false_or] at hblank
  simp only [blankRanges, List.mem_cons, List.not_mem_nil, or_false, exists_eq_or_imp,
    exists_eq_left]
  omega

theorem isMark_of_isBlank {c : Char} (hc : c.toNat < 128) (hblank : isBlank c = true) :
    IsMark c := by
  have hplain : isBlank c = true → c.isAlpha = false :=
    of_forall_ascii (p := fun c => isBlank c = true → c.isAlpha = false) (by decide) hc
  exact ⟨hc, hplain hblank⟩

theorem lowerExpansions_not_blank : lowerExpansions.toList.all (fun e =>
    e.2.all fun n => !isBlank (Char.ofNat n)) = true := by
  decide

theorem lowerRuns_not_blank : lowerRuns.toList.all (fun r => blankRanges.all fun range =>
    Nat.blt r.top range.1 || Nat.blt range.2 r.target) = true := by
  decide

/-- A blank is in the lowercase form of no other character. -/
theorem eq_of_isBlank_of_mem_lowerForm {c d : Char} (h : d ∈ lowerForm c)
    (hd : isBlank d = true) : c = d := by
  by_cases hascii : d.toNat < 128
  · exact (isMark_of_isBlank hascii hd).eq_of_mem_lowerForm h
  by_cases hc : c.toNat < 128
  · have hlower : c.toLower.toNat < 128 :=
      of_forall_ascii (p := fun c => c.toLower.toNat < 128) (by decide) hc
    rw [lowerForm, if_pos hc, List.mem_singleton] at h
    exact absurd (h ▸ hlower) hascii
  rw [lowerForm, if_neg hc] at h
  rcases mem_caseForm h with rfl | ⟨e, he, -, n, hn, rfl⟩ | ⟨r, hr, n, hn, rfl⟩
  · rfl
  · have hall := List.all_eq_true.1 lowerExpansions_not_blank e (Array.mem_toList_iff.2 he)
    have hplain := List.all_eq_true.1 hall n hn
    rw [hd] at hplain
    cases hplain
  · have hall := List.all_eq_true.1 lowerRuns_not_blank r (Array.mem_toList_iff.2 hr)
    obtain ⟨range, hrange, hlow, hhigh⟩ := exists_blankRange hascii hd
    have hapart := List.all_eq_true.1 hall range hrange
    simp only [Bool.or_eq_true, Nat.blt_eq] at hapart
    obtain ⟨htarget, htop⟩ := CaseRun.target_le_of_map? hn
    have hcode : (Char.ofNat n).toNat = n := by
      by_cases hvalid : n.isValidChar
      · exact toNat_ofNat hvalid
      · -- A number that is no code point stands for the character of code point zero.
        rw [Char.ofNat, dif_neg hvalid] at hascii
        exact absurd (by decide) hascii
    omega

/-- A character has a form of its own in the lowercase form of a text, which holds no blank and no
mark but the character itself. -/
theorem exists_lowerAfter_cons (before : List Char) (c : Char) (cs : List Char) :
    ∃ form, form ≠ [] ∧ lowerAfter before (c :: cs) = form ++ lowerAfter (c :: before) cs ∧
      ∀ d ∈ form, isBlank d = true ∨ IsMark d → d = c := by
  refine ⟨_, ?_, rfl, ?_⟩
  · split
    · exact List.cons_ne_nil _ _
    · exact lowerForm_ne_nil c
  · intro d hd hkind
    split at hd
    · -- The forms of a capital sigma are neither blanks nor marks.
      rw [List.mem_singleton, lowerSigma] at hd
      have hneither : isBlank d = false ∧ ¬ d.toNat < 128 := by
        split at hd <;> subst hd <;> decide
      rcases hkind with hblank | hmark
      · rw [hneither.1] at hblank
        cases hblank
      · exact absurd hmark.1 hneither.2
    · rcases hkind with hblank | hmark
      · exact (eq_of_isBlank_of_mem_lowerForm hd hblank).symm
      · exact (hmark.eq_of_mem_lowerForm hd).symm

theorem lowerAfter_eq_nil_iff (before cs : List Char) : lowerAfter before cs = [] ↔ cs = [] := by
  cases cs with
  | nil => exact iff_of_true rfl rfl
  | cons c cs =>
    obtain ⟨form, hform, heq, -⟩ := exists_lowerAfter_cons before c cs
    rw [heq]
    simp [hform]

/-- A lowercase form begins with a blank or a mark only if the text does. -/
theorem head?_of_head?_lowerAfter {before cs : List Char} {d : Char}
    (h : (lowerAfter before cs).head? = some d) (hd : isBlank d = true ∨ IsMark d) :
    cs.head? = some d := by
  cases cs with
  | nil => cases h
  | cons c cs =>
    obtain ⟨form, hform, heq, honly⟩ := exists_lowerAfter_cons before c cs
    obtain ⟨first, rest, rfl⟩ := List.exists_cons_of_ne_nil hform
    rw [heq] at h
    cases h
    rw [List.head?_cons, honly d List.mem_cons_self hd]

/-- A lowercase form ends in a blank only if the text does. -/
theorem getLast?_of_getLast?_lowerAfter {before cs : List Char} {d : Char}
    (h : (lowerAfter before cs).getLast? = some d) (hd : isBlank d = true) :
    cs.getLast? = some d := by
  induction cs generalizing before with
  | nil => cases h
  | cons c cs ih =>
    obtain ⟨form, hform, heq, honly⟩ := exists_lowerAfter_cons before c cs
    cases cs with
    | nil =>
      rw [heq, lowerAfter, List.append_nil] at h
      rw [List.getLast?_singleton, honly d (List.mem_of_getLast? h) (.inl hd)]
    | cons b cs =>
      have hrest : (lowerAfter (c :: before) (b :: cs)).getLast? ≠ none := by
        rw [Ne, List.getLast?_eq_none_iff, lowerAfter_eq_nil_iff]
        exact List.cons_ne_nil b cs
      obtain ⟨last, hlast⟩ := Option.ne_none_iff_exists'.1 hrest
      rw [heq, List.getLast?_append, hlast] at h
      rw [List.getLast?_cons_cons]
      exact ih (hlast.trans h)

/-! ### Texts without blanks around them -/

theorem dropLeading_eq_self {p : Char → Bool} {cs : List Char}
    (h : ∀ c, cs.head? = some c → p c = false) : dropLeading p cs = cs := by
  cases cs with
  | nil => rfl
  | cons c cs =>
    rw [dropLeading, List.dropWhile_cons, h c rfl]
    rfl

theorem of_head?_dropLeading {p : Char → Bool} {cs : List Char} {c : Char}
    (h : (dropLeading p cs).head? = some c) : p c = false := by
  have hnot := List.head?_dropWhile_not p cs
  rw [dropLeading] at h
  rw [h] at hnot
  simpa using hnot

theorem getLast?_dropLeading {p : Char → Bool} {cs : List Char} {c : Char}
    (h : (dropLeading p cs).getLast? = some c) : cs.getLast? = some c := by
  have happend : cs.takeWhile p ++ dropLeading p cs = cs := List.takeWhile_append_dropWhile
  rw [← happend, List.getLast?_append, h]
  rfl

theorem trim_eq_self {cs : List Char} (hfirst : ∀ c, cs.head? = some c → isBlank c = false)
    (hlast : ∀ c, cs.getLast? = some c → isBlank c = false) : trim cs = cs := by
  have hend : dropLeading isBlank cs.reverse = cs.reverse := by
    apply dropLeading_eq_self
    rwa [List.head?_reverse]
  rw [trim, trimStart, dropLeading_eq_self hfirst, trimEnd, dropTrailing]
  rw [dropLeading] at hend
  rw [hend, List.reverse_reverse]

theorem isBlank_of_getLast?_trim {cs : List Char} {c : Char} (h : (trim cs).getLast? = some c) :
    isBlank c = false := by
  rw [trim, trimEnd, dropTrailing, List.getLast?_reverse] at h
  exact of_head?_dropLeading h

end Text

namespace Registry

/-! ### Normal forms -/

/-- Whether a text begins with a blank. -/
def beginsBlank (s : String) : Bool := s.toList.head?.any Text.isBlank

/-- Nothing is left exactly of dots with blanks around them. -/
theorem normalExtension_eq_empty_iff (ext : String) :
    normalExtension ext = "" ↔ ∃ n, Text.trim ext.toList = List.replicate n '.' := by
  have hempty : normalExtension ext = "" ↔ ∀ c ∈ Text.trim ext.toList, c = '.' := by
    rw [normalExtension, Text.lowercase, String.toList_ofList, ← String.toList_eq_nil_iff,
      String.toList_ofList, Text.lowerAfter_eq_nil_iff, Text.dropLeading, List.dropWhile_eq_nil_iff]
    simp only [beq_iff_eq]
  rw [hempty]
  constructor
  · intro h
    exact ⟨_, List.eq_replicate_iff.2 ⟨rfl, h⟩⟩
  · rintro ⟨n, hn⟩
    exact (List.eq_replicate_iff.1 hn).2

/-- A form that does not begin with a blank is the form of itself. -/
theorem normalExtension_eq_self {given ext : String} (hform : normalExtension given = ext)
    (h : beginsBlank ext = false) : normalExtension ext = ext := by
  have hlist : ext.toList
      = Text.lowerAfter [] (Text.dropLeading (· == '.') (Text.trim given.toList)) := by
    rw [← hform, normalExtension, Text.lowercase, String.toList_ofList, String.toList_ofList]
  have hfirst : ∀ c, ext.toList.head? = some c → Text.isBlank c = false := by
    intro c hc
    rwa [beginsBlank, hc, Option.any_some] at h
  have hlast : ∀ c, ext.toList.getLast? = some c → Text.isBlank c = false := by
    intro c hc
    rw [Bool.eq_false_iff]
    intro hblank
    rw [hlist] at hc
    have hgiven := Text.getLast?_dropLeading (Text.getLast?_of_getLast?_lowerAfter hc hblank)
    rw [Text.isBlank_of_getLast?_trim hgiven] at hblank
    cases hblank
  have hdot : ∀ c, ext.toList.head? = some c → (c == '.') = false := by
    intro c hc
    rw [Bool.eq_false_iff]
    intro heq
    rw [beq_iff_eq.1 heq, hlist] at hc
    have hgiven := Text.of_head?_dropLeading
      (Text.head?_of_head?_lowerAfter hc (.inr ⟨by decide, by decide⟩))
    cases hgiven
  have hlower : Text.lowercase ext = ext := by
    rw [← hform, normalExtension, Text.lowercase_lowercase]
  rw [normalExtension, Text.trim_eq_self hfirst hlast, Text.dropLeading_eq_self hdot,
    String.ofList_toList, hlower]

/-- A blank behind the dots is taken off only the second time. -/
example : normalExtension ". X" = " x" ∧ normalExtension " x" = "x" := by decide

/-! ### Registered extensions -/

/-- Every extension with a language is a normal form. -/
def NormalForms (r : Registry) : Prop :=
  ∀ ext language, r.extensions.get? ext = some language → ∃ given, normalExtension given = ext

variable {r : Registry}

theorem normalForms_register (h : r.Consistent) (hforms : r.NormalForms) (config : Registration) :
    (r.register config).NormalForms := by
  intro ext language hext
  have heffect := register_reassigned h config ext
  by_cases hclaimed : ext ∈ claimedExtensions config
  · obtain ⟨given, -, hgiven⟩ := List.mem_map.1 (List.mem_filter.1 hclaimed).1
    exact ⟨given, hgiven⟩
  · by_cases hbefore : r.extensions.get? ext = some (Text.lowercase config.name)
    · rw [heffect.released hclaimed hbefore] at hext
      cases hext
    · rw [heffect.kept hclaimed hbefore] at hext
      exact hforms ext language hext

theorem normalForms_perform (h : r.Consistent) (hforms : r.NormalForms) (call : Call) :
    (r.perform call).NormalForms := by
  cases call with
  | register config => exact normalForms_register h hforms config
  | addExtension given name =>
    rw [perform]
    obtain ⟨e, hfail⟩ | ⟨-, -, hadd⟩ := addExtension_cases r given name
    · rw [hfail]
      exact hforms
    · rw [hadd]
      intro ext language hext
      have hget := extended_extensions_get? r (normalExtension given) (Text.lowercase name) ext
      by_cases heq : ext = normalExtension given
      · exact ⟨given, heq.symm⟩
      · rw [if_neg heq] at hget
        exact hforms ext language (hget ▸ hext)
  | useAnalyzer name a =>
    rw [perform]
    obtain ⟨e, hfail⟩ | ⟨-, huse⟩ := useAnalyzer_cases r name a
    · rw [hfail]
      exact hforms
    · rw [huse]
      exact hforms
  | _ =>
    intro ext language hext
    rw [(warmed_perform r rfl).extensions] at hext
    exact hforms ext language hext

theorem normalForms_run (h : r.Consistent) (hforms : r.NormalForms) (calls : List Call) :
    (r.run calls).NormalForms := by
  induction calls generalizing r with
  | nil => exact hforms
  | cons call calls ih =>
    exact ih (perform_consistent h call) (normalForms_perform h hforms call)

/-- Whatever a registry is asked to do, it holds extensions in their normal form. -/
theorem Reachable.normalForms (hr : r.Reachable) : r.NormalForms := by
  obtain ⟨calls, rfl⟩ := hr.exists_run
  exact normalForms_run consistent_empty (fun ext language hext => by cases hext) calls

end Registry

end SourceReview
