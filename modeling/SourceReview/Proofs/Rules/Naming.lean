import SourceReview.Proofs.Rules.OwnIssues
import SourceReview.Proofs.Text.CaseForm

/-!
# Names that the rules propose

The rules on names report a name that is spelled against the convention of its language, and propose
the same name in the spelling that they ask for. Whether the proposal would be reported in turn is a
question about the three conversions alone:

* a name in small letters has no capital (`isUpper_of_mem_snakeFrom`), so nothing is left to report;
* a name in mixed case has no underscore (`underscore_not_mem_mixedFrom`), but it is empty if the
  name had nothing else (`mixedFrom_eq_nil_iff`);
* a name in camel case has no underscore either, but begins with a small letter only if the name
  begins with a letter after one underscore at most (`isCamelCase_toCamelCase_iff`). A second
  underscore at the beginning makes the letter after it a capital.

The main statement is `naming_fixes_conform_iff`.
-/

namespace SourceReview

namespace Naming

/-! ### Words of small letters -/

theorem isUpper_of_mem_snakeFrom {prev : Option Char} {name : List Char} {d : Char}
    (h : d ∈ snakeFrom prev name) : d.isUpper = false := by
  induction name generalizing prev with
  | nil => cases h
  | cons c cs ih =>
    rw [snakeFrom] at h
    split at h
    · rcases List.mem_append.1 h with h | h
      · split at h
        · rcases List.mem_cons.1 h with rfl | h
          · rfl
          · rw [List.mem_singleton.1 h]
            exact Text.isUpper_toLower c
        · rw [List.mem_singleton.1 h]
          exact Text.isUpper_toLower c
      · exact ih h
    · rename_i hc
      rcases List.mem_cons.1 h with rfl | h
      · exact Bool.eq_false_iff.2 hc
      · exact ih h

theorem toSnakeCase_ne_nil {name : List Char} (h : name ≠ []) : toSnakeCase name ≠ [] := by
  cases name with
  | nil => contradiction
  | cons c cs =>
    unfold toSnakeCase snakeFrom
    split
    · split <;> simp
    · exact List.cons_ne_nil _ _

/-! ### Words joined by capitals -/

theorem isMark_underscore : Text.IsMark '_' := by
  unfold Text.IsMark
  decide

theorem underscore_not_mem_upperForm {c : Char} (h : c ≠ '_') : '_' ∉ Text.upperForm c :=
  fun hmem => h (isMark_underscore.eq_of_mem_upperForm hmem)

theorem underscore_not_mem_lowerForm {c : Char} (h : c ≠ '_') : '_' ∉ Text.lowerForm c :=
  fun hmem => h (isMark_underscore.eq_of_mem_lowerForm hmem)

theorem underscore_not_mem_mixedFrom (blank raise : Bool) (name : List Char) :
    '_' ∉ mixedFrom blank raise name := by
  induction name generalizing blank raise with
  | nil => exact List.not_mem_nil
  | cons c cs ih =>
    rw [mixedFrom]
    split
    · exact ih _ _
    · rename_i hc
      split
      · rw [List.mem_append, not_or]
        exact ⟨underscore_not_mem_upperForm hc, ih _ _⟩
      · rw [List.mem_cons, not_or]
        exact ⟨Ne.symm hc, ih _ _⟩

/-- Nothing is left of a name just if it consists of underscores. -/
theorem mixedFrom_eq_nil_iff (blank raise : Bool) (name : List Char) :
    mixedFrom blank raise name = [] ↔ ∀ c ∈ name, c = '_' := by
  induction name generalizing blank raise with
  | nil => simp [mixedFrom]
  | cons c cs ih =>
    rw [mixedFrom, List.forall_mem_cons]
    split
    · rename_i hc
      rw [ih, and_iff_right hc]
    · rename_i hc
      have hne : ¬ (c = '_' ∧ ∀ d ∈ cs, d = '_') := fun hall => hc hall.1
      split
      · simp [hne, Text.upperForm_ne_nil c]
      · simp [hne]

theorem underscore_not_mem_camelFrom (start blank raise : Bool) (name : List Char) :
    '_' ∉ camelFrom start blank raise name := by
  induction name generalizing start blank raise with
  | nil => exact List.not_mem_nil
  | cons c cs ih =>
    rw [camelFrom]
    split
    · exact ih _ _ _
    · rename_i hc
      split
      · rw [List.mem_append, not_or]
        exact ⟨underscore_not_mem_upperForm hc, ih _ _ _⟩
      · split
        · rw [List.mem_append, not_or]
          exact ⟨underscore_not_mem_lowerForm hc, ih _ _ _⟩
        · rw [List.mem_cons, not_or]
          exact ⟨Ne.symm hc, ih _ _ _⟩

/-! ### The first letter in camel case -/

/-- A letter of the ASCII block, or one of the two other characters whose lowercase form begins with
one: the capital I with a dot and the Kelvin sign. -/
def HasSmallForm (c : Char) : Prop := c.isAlpha = true ∨ c = '\u0130' ∨ c = '\u212a'

theorem not_hasSmallForm_underscore : ¬ HasSmallForm '_' := by
  unfold HasSmallForm
  decide

theorem lowerForm_of_two : (Text.lowerForm '\u0130').head? = some 'i' ∧
    (Text.lowerForm '\u212a').head? = some 'k' := by
  simp only [Text.lowerForm_eq_of_lists]
  decide

/-- The lowercase form of a character begins with a small letter just if the character has one. -/
theorem head?_lowerForm_iff (c : Char) :
    (Text.lowerForm c).head?.any Char.isLower = true ↔ HasSmallForm c := by
  by_cases hc : c.toNat < 128
  · have hascii : c.toLower.isLower = true ↔ c.isAlpha = true :=
      Text.of_forall_ascii (p := fun c => c.toLower.isLower = true ↔ c.isAlpha = true)
        (by decide) hc
    have hne : ¬ (c = '\u0130' ∨ c = '\u212a') := by
      rintro (rfl | rfl) <;> exact absurd hc (by decide)
    rw [Text.lowerForm, if_pos hc, HasSmallForm, or_iff_left hne]
    exact hascii
  · constructor
    · intro h
      obtain ⟨d, hd⟩ : ∃ d, (Text.lowerForm c).head? = some d := by
        cases hhead : (Text.lowerForm c).head? with
        | none => simp [hhead] at h
        | some d => exact ⟨d, rfl⟩
      rw [hd, Option.any_some] at h
      have hascii : d.toNat < 128 := by
        have := (Text.isLower_iff.1 h).2
        omega
      rcases Text.eq_of_mem_lowerForm hc (List.mem_of_head? hd) hascii with ⟨hI, -⟩ | ⟨hK, -⟩
      · exact .inr (.inl hI)
      · exact .inr (.inr hK)
    · rintro (halpha | rfl | rfl)
      · -- A letter of the block is no character above it.
        rcases Text.isAlpha_iff.1 halpha with hupper | hlower
        · have := (Text.isUpper_iff.1 hupper).2
          omega
        · have := (Text.isLower_iff.1 hlower).2
          omega
      · rw [lowerForm_of_two.1]
        rfl
      · rw [lowerForm_of_two.2]
        rfl

/-- The first character of a name, after one underscore at most. -/
def firstLetter? (name : List Char) : Option Char :=
  if name.head? = some '_' then name.tail.head? else name.head?

theorem firstLetter?_of_ne {c : Char} (hc : c ≠ '_') (cs : List Char) :
    firstLetter? (c :: cs) = some c := by
  simp [firstLetter?, hc]

/-- After a second underscore, whatever comes first is raised. -/
theorem head?_camelFrom_raised (name : List Char) :
    (camelFrom false true true name).head?.any Char.isLower = false := by
  induction name with
  | nil => rfl
  | cons c cs ih =>
    rw [camelFrom]
    split
    · exact ih
    · rw [if_pos rfl]
      obtain ⟨d, rest, hform⟩ := List.exists_cons_of_ne_nil (Text.upperForm_ne_nil c)
      have hd : d ∈ Text.upperForm c := by
        rw [hform]
        exact List.mem_cons_self
      rw [hform]
      exact Text.isLower_of_mem_upperForm hd

theorem head?_camelFrom_blank (start : Bool) {c : Char} (hc : c ≠ '_') (cs : List Char) :
    (camelFrom start true false (c :: cs)).head?.any Char.isLower = true ↔ HasSmallForm c := by
  rw [camelFrom, if_neg hc, if_neg Bool.false_ne_true, if_pos rfl, ← head?_lowerForm_iff]
  obtain ⟨d, rest, hform⟩ := List.exists_cons_of_ne_nil (Text.lowerForm_ne_nil c)
  rw [hform]
  rfl

/-- A converted name is in camel case just if the name begins with a letter, after one underscore at
most. -/
theorem isCamelCase_toCamelCase_iff (name : List Char) :
    isCamelCase (toCamelCase name) = true ↔ ∃ c, firstLetter? name = some c ∧ HasSmallForm c := by
  have hunderscore : (toCamelCase name).contains '_' = false := by
    rw [List.contains_eq_mem, decide_eq_false_iff_not]
    exact underscore_not_mem_camelFrom true true false name
  have hhead : isCamelCase (toCamelCase name) = true ↔
      (camelFrom true true false name).head?.any Char.isLower = true := by
    rw [isCamelCase, hunderscore, Bool.not_false, Bool.and_true]
    rfl
  rw [hhead]
  rcases name with _ | ⟨c, cs⟩
  · simp [camelFrom, firstLetter?]
  · by_cases hc : c = '_'
    · subst hc
      have hstart : camelFrom true true false ('_' :: cs) = camelFrom false true false cs := rfl
      have hfirst : firstLetter? ('_' :: cs) = cs.head? := rfl
      rw [hstart, hfirst]
      rcases cs with _ | ⟨d, ds⟩
      · simp [camelFrom]
      · by_cases hd : d = '_'
        · subst hd
          have hraised : camelFrom false true false ('_' :: ds)
              = camelFrom false true true ds := rfl
          rw [hraised, head?_camelFrom_raised]
          simp [not_hasSmallForm_underscore]
        · rw [head?_camelFrom_blank false hd]
          simp
    · rw [head?_camelFrom_blank true hc, firstLetter?_of_ne hc]
      simp

end Naming

/-! ### What the rules propose -/

/-- The language reports the issue `i` under its rule on names, and proposes `fix`. -/
structure ProposesName (l : Language) (text : List Char) (i : Issue) (fix : Fix) : Prop where
  exists_mem : ∃ ids, i ∈ l.analyzer.check ids text
  rule_eq : i.rule = "naming-convention"
  fix_eq : i.fix = some fix

/-- The rule on names can be asked for alone. -/
theorem ProposesName.mem_check {l : Language} (hl : l ∈ Language.known) {rule : Rule}
    (hrule : l.rules.find? (·.id == "naming-convention") = some rule) {text : List Char} {i : Issue}
    {fix : Fix} (h : ProposesName l text i fix) : i ∈ rule.check (listing l.comments text) := by
  obtain ⟨ids, hi⟩ := h.exists_mem
  have hown := Language.mem_check_own (Language.known_reportsOwn l hl) hi
  rwa [h.rule_eq, Language.check_singleton hrule] at hown

namespace Python

theorem exists_of_fix_namingIssue? {line : SourceLine} {i : Issue} {fix : Fix}
    (h : namingIssue? line = some i) (hfix : i.fix = some fix) :
    ∃ name, name.any Char.isUpper = true ∧
      fix.replacement = String.ofList (Naming.toSnakeCase name) := by
  unfold namingIssue? at h
  split at h
  · simp only at h
    split at h
    · rename_i hname
      cases h
      cases hfix
      exact ⟨_, (Bool.and_eq_true_iff.1 hname).2, rfl⟩
    · cases h
  · split at h
    · simp only at h
      split at h
      · cases h
      · cases h
        cases hfix
    · cases h

end Python

namespace Java

/-- The rule proposes another name for methods only, and looks at one line after the other. -/
theorem exists_of_fix_mem_namingIssues {types : List (List Char)} {lines : List SourceLine}
    {i : Issue} {fix : Fix} (h : i ∈ namingIssues types lines) (hfix : i.fix = some fix) :
    ∃ name, i.message = "Method name '" ++ String.ofList name ++ "' should be camelCase" ∧
      fix.replacement = String.ofList (Naming.toCamelCase name) := by
  induction lines generalizing types with
  | nil => exact absurd h List.not_mem_nil
  | cons line lines ih =>
    unfold namingIssues at h
    split at h
    · simp only at h
      split at h
      · exact ih h
      · rcases List.mem_cons.1 h with rfl | h
        · cases hfix
        · exact ih h
    · split at h
      · split at h
        · exact ih h
        · rcases List.mem_cons.1 h with rfl | h
          · cases hfix
            exact ⟨_, rfl, rfl⟩
          · exact ih h
      · exact ih h

end Java

namespace Go

theorem exists_of_fix_namingIssue? {line : SourceLine} {i : Issue} {fix : Fix}
    (h : namingIssue? line = some i) (hfix : i.fix = some fix) :
    ∃ name,
      i.message = "Name '" ++ String.ofList name ++ "' should use MixedCaps, not underscores" ∧
      fix.replacement = String.ofList (Naming.toMixedCaps name) := by
  unfold namingIssue? at h
  split at h
  · split at h
    · cases h
    · cases h
      cases hfix
      exact ⟨_, rfl, rfl⟩
  · cases h

end Go

/-- **Which of the proposed names conform**, for every text. A name proposed for a function in
Python is never empty and has no capital. A name proposed for a method in Java is in camel case if
and only if the method's name begins with a letter, after one underscore at most. A name proposed in
Go never has an underscore, and is empty if and only if the reported name has nothing else. -/
theorem naming_fixes_conform_iff (text : List Char) :
    (∀ i fix, ProposesName Language.python text i fix →
      fix.replacement ≠ "" ∧ ∀ c ∈ fix.replacement.toList, c.isUpper = false) ∧
    (∀ i fix, ProposesName Language.java text i fix →
      ∃ name, i.message = "Method name '" ++ String.ofList name ++ "' should be camelCase" ∧
        (fix.replacement ≠ "" ∧ Naming.isCamelCase fix.replacement.toList = true ↔
          ∃ c, Naming.firstLetter? name = some c ∧ Naming.HasSmallForm c)) ∧
    ∀ i fix, ProposesName Language.go text i fix →
      ∃ name,
        i.message = "Name '" ++ String.ofList name ++ "' should use MixedCaps, not underscores" ∧
        '_' ∉ fix.replacement.toList ∧ (fix.replacement ≠ "" ↔ ∃ c ∈ name, c ≠ '_') := by
  refine ⟨?_, ?_, ?_⟩
  · intro i fix h
    obtain ⟨line, -, hi⟩ := List.mem_filterMap.1 (h.mem_check (by simp [Language.known]) rfl)
    obtain ⟨name, hupper, hreplacement⟩ := Python.exists_of_fix_namingIssue? hi h.fix_eq
    have hname : name ≠ [] := by
      rintro rfl
      cases hupper
    rw [hreplacement, Ne, String.ofList_eq_empty_iff, String.toList_ofList]
    exact ⟨Naming.toSnakeCase_ne_nil hname, fun c => Naming.isUpper_of_mem_snakeFrom⟩
  · intro i fix h
    have hi := h.mem_check (by simp [Language.known]) rfl
    obtain ⟨name, hmessage, hreplacement⟩ := Java.exists_of_fix_mem_namingIssues hi h.fix_eq
    refine ⟨name, hmessage, ?_⟩
    rw [hreplacement, Ne, String.ofList_eq_empty_iff, String.toList_ofList,
      ← Naming.isCamelCase_toCamelCase_iff]
    refine and_iff_right_of_imp ?_
    intro hcamel hnil
    rw [hnil] at hcamel
    cases hcamel
  · intro i fix h
    obtain ⟨line, -, hi⟩ := List.mem_filterMap.1 (h.mem_check (by simp [Language.known]) rfl)
    obtain ⟨name, hmessage, hreplacement⟩ := Go.exists_of_fix_namingIssue? hi h.fix_eq
    refine ⟨name, hmessage, ?_, ?_⟩
    · rw [hreplacement, String.toList_ofList]
      exact Naming.underscore_not_mem_mixedFrom _ _ _
    · rw [hreplacement, Ne, String.ofList_eq_empty_iff, Naming.toMixedCaps,
        Naming.mixedFrom_eq_nil_iff]
      simp

/-- The statement at a name with a run of capitals, at one with an underscore at the beginning and
inside, and at one with an underscore at the end. -/
theorem naming_fixes_conform_mixed :
    (∃ i fix, ProposesName Language.python "def loadHTTPPage(x):\n    pass\n".toList i fix ∧
      fix.replacement = "load_http_page" ∧ ∀ c ∈ fix.replacement.toList, c.isUpper = false) ∧
    (∃ i fix, ProposesName Language.java "class A \x7b\n  void _Load_all() \x7b\x7d\n\x7d\n".toList i fix ∧
      fix.replacement = "loadAll" ∧ Naming.isCamelCase fix.replacement.toList = true) ∧
    ∃ i fix, ProposesName Language.go "func read_all_() \x7b\n\x7d\n".toList i fix ∧
      fix.replacement = "readAll" ∧ fix.replacement ≠ "" ∧ '_' ∉ fix.replacement.toList := by
  refine ⟨?_, ?_, ?_⟩
  · let fix : Fix := ⟨"Rename to snake_case", "load_http_page"⟩
    let i : Issue := ⟨.info, .low, "Function name 'loadHTTPPage' should be snake_case", 1, none,
      "naming-convention", some fix⟩
    have h : ProposesName Language.python "def loadHTTPPage(x):\n    pass\n".toList i fix :=
      ⟨⟨["naming-convention"], by decide⟩, rfl, rfl⟩
    exact ⟨i, fix, h, rfl, ((naming_fixes_conform_iff _).1 i fix h).2⟩
  · let fix : Fix := ⟨"Rename to camelCase", "loadAll"⟩
    let i : Issue := ⟨.info, .low, "Method name '_Load_all' should be camelCase", 2, none,
      "naming-convention", some fix⟩
    have h : ProposesName Language.java
        "class A \x7b\n  void _Load_all() \x7b\x7d\n\x7d\n".toList i fix :=
      ⟨⟨["naming-convention"], by decide⟩, rfl, rfl⟩
    obtain ⟨name, hmessage, hiff⟩ := (naming_fixes_conform_iff _).2.1 i fix h
    have hname : name = "_Load_all".toList := by
      have hwritten : i.message.toList
          = "Method name '".toList ++ "_Load_all".toList ++ "' should be camelCase".toList := by
        decide
      rw [hmessage, String.toList_append, String.toList_append,
        String.toList_ofList (l := name)] at hwritten
      exact List.append_cancel_left (List.append_cancel_right hwritten)
    exact ⟨i, fix, h, rfl, (hiff.2 ⟨'L', by rw [hname]; decide, .inl (by decide)⟩).2⟩
  · let fix : Fix := ⟨"Rename to MixedCaps", "readAll"⟩
    let i : Issue := ⟨.info, .low, "Name 'read_all_' should use MixedCaps, not underscores", 1, none,
      "naming-convention", some fix⟩
    have h : ProposesName Language.go "func read_all_() \x7b\n\x7d\n".toList i fix :=
      ⟨⟨["naming-convention"], by decide⟩, rfl, rfl⟩
    obtain ⟨name, -, hunderscore, -⟩ := (naming_fixes_conform_iff _).2.2 i fix h
    exact ⟨i, fix, h, rfl, by decide, hunderscore⟩

/-- After two underscores the letter of a method becomes a capital, and nothing is left of a name of
underscores. -/
theorem naming_fixes_conform_underscores :
    (Language.java.analyzer.check ["naming-convention"]
      "class A \x7b\n  void __load() \x7b\x7d\n\x7d\n".toList).map (·.fix)
        = [some ⟨"Rename to camelCase", "Load"⟩] ∧
    Naming.isCamelCase "Load".toList = false ∧
    (Language.go.analyzer.check ["naming-convention"] "var __ = 1\n".toList).map (·.fix)
        = [some ⟨"Rename to MixedCaps", ""⟩] := by
  decide

end SourceReview
