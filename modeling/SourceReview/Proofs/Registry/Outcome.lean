import SourceReview.Proofs.Options.Resolve
import SourceReview.Proofs.Registry.Effect
import SourceReview.Proofs.Registry.History
import SourceReview.Proofs.Text.Lowercase

/-!
# How the review of a file comes out

Four things can keep a file from being reviewed, and they are looked for in this order: no
registered language lists its extension, the language has no analyzer, the file cannot be read, and
a threshold that counts is out of range. `reviewFile_outcome` says that exactly these failures
occur, each where it is the first to apply, and that the text of the file has no part in them.

A file is never said to be of a language that is not registered. The map from extensions leads to
registered languages only, and asking for one of them by its name finds it again, since a name is
registered in lower case (`Reachable.lowercase_eq`) and lowering it once more does not change it.
-/

namespace SourceReview

/-- A text is reviewed if all thresholds are in range that count in the end. -/
theorem Review.exists_ofText_eq_ok {b : Binding} {options : Options}
    (h : (EffectiveOptions.effective options b.defaultRules b.defaultThresholds).InRange)
    (path text : String) : ∃ review, ofText b path options text = .ok review := by
  rw [ofText, EffectiveOptions.resolve_eq_ok_iff_inRange.2 ⟨h, rfl⟩]
  exact ⟨_, rfl⟩

/-- Otherwise one of them is found to be out of range. -/
theorem Review.exists_ofText_eq_error {b : Binding} {options : Options}
    (h : ¬ (EffectiveOptions.effective options b.defaultRules b.defaultThresholds).InRange)
    (path text : String) :
    ∃ fault, ofText b path options text = .error (.invalidThreshold fault) := by
  unfold ofText
  cases hresolve : EffectiveOptions.resolve options b.defaultRules b.defaultThresholds with
  | ok resolved => exact absurd (EffectiveOptions.resolve_eq_ok_iff_inRange.1 hresolve).1 h
  | error fault => exact ⟨fault, rfl⟩

/-- Only the options can keep a text from being reviewed. -/
theorem Review.ofText_eq_error_iff (b : Binding) (path : String) (options : Options)
    (text : String) (e : ReviewError) :
    ofText b path options text = .error e ↔
      ∃ fault, e = .invalidThreshold fault ∧
        EffectiveOptions.resolve options b.defaultRules b.defaultThresholds = .error fault := by
  unfold ofText
  cases EffectiveOptions.resolve options b.defaultRules b.defaultThresholds with
  | ok resolved => simp
  | error fault => simp [eq_comm]

namespace Registry

/-! ### The outcome of a review by its parts -/

/-- A language is found if it is registered and has an analyzer. -/
theorem resolve_fst (r : Registry) (language : String) :
    (r.resolve language).1
      = match r.registration? (Text.lowercase language) with
        | none => .error (.unsupportedLanguage (Text.lowercase language))
        | some config =>
          match (r.analyzerFor (Text.lowercase language)).1 with
          | none => .error (.noAnalyzer (Text.lowercase language))
          | some a =>
            .ok ⟨Text.lowercase language, a, config.defaultRules, config.defaultThresholds⟩ := by
  unfold resolve
  simp only
  cases r.registration? (Text.lowercase language) with
  | none => rfl
  | some config =>
    cases r.analyzerFor (Text.lowercase language) with
    | mk found r' => cases found <;> rfl

/-- A text is reviewed once its language is found. -/
theorem reviewText_fst (r : Registry) (text language : String) (path : Option String)
    (options : Options) :
    (r.reviewText text language path options).1
      = (r.resolve language).1.bind fun b =>
          Review.ofText b (path.getD (inlineLabel b.name)) options text := by
  unfold reviewText
  cases r.resolve language with
  | mk resolved r' => cases resolved <;> rfl

/-- A file is reviewed once its language is detected and found and its text is read. -/
theorem reviewFile_fst (r : Registry) (source : Source) (path : String) (options : Options) :
    (r.reviewFile source path options).1
      = match r.detect? path with
        | none => .error (.unsupportedFileType path)
        | some language =>
          (r.resolve language).1.bind fun b =>
            match source path with
            | .error reason => .error (.unreadable path reason)
            | .ok text => Review.ofText b path options text := by
  unfold reviewFile
  cases r.detect? path with
  | none => rfl
  | some language =>
    simp only
    cases r.resolve language with
    | mk resolved r' =>
      cases resolved with
      | error e => rfl
      | ok b => cases source path <;> rfl

variable {r : Registry}

/-! ### The language of a file -/

/-- The registration of `language` lists the extension of the file. -/
def HasLanguage (r : Registry) (path language : String) (c : Registration) : Prop :=
  r.languages.get? language = some c ∧
    ∃ ext, Path.extension? path = some ext ∧ Text.lowercase ext ∈ c.extensions

/-- A file is detected to be of the registered language that lists its extension. -/
theorem detect?_eq_some_iff (h : r.Consistent) {path language : String} :
    r.detect? path = some language ↔ ∃ c, r.HasLanguage path language c := by
  cases hext : Path.extension? path with
  | none => simp [detect?, HasLanguage, hext]
  | some ext =>
    rw [detect?_of_extension? r hext, h.mapped_iff]
    simp [Lists, HasLanguage, hext]

/-- A file has at most one language. -/
theorem HasLanguage.unique (h : r.Consistent) {path language other : String} {c d : Registration}
    (hc : r.HasLanguage path language c) (hd : r.HasLanguage path other d) :
    language = other ∧ c = d := by
  have hlanguage := (detect?_eq_some_iff h).2 ⟨c, hc⟩
  rw [(detect?_eq_some_iff h).2 ⟨d, hd⟩] at hlanguage
  obtain rfl := Option.some.inj hlanguage
  exact ⟨rfl, Option.some.inj (hc.1.symm.trans hd.1)⟩

/-- A language is registered under a name in lower case. -/
theorem Reachable.lowercase_eq (hr : r.Reachable) {language : String} {c : Registration}
    (hc : r.languages.get? language = some c) : Text.lowercase language = language := by
  obtain ⟨calls, rfl⟩ := hr.exists_run
  have hstanding := standing?_run consistent_empty language calls
  rw [standing?, hc, Option.map_some] at hstanding
  obtain ⟨-, config, -, -, hname, -⟩ := exists_last_register hstanding.symm
  rw [← hname, Text.lowercase_lowercase]

/-! ### What can go wrong -/

/-- No registered language lists the extension of the file. -/
def Unmapped (r : Registry) (path : String) : Prop :=
  ∀ language c, ¬ r.HasLanguage path language c

/-- The language of the file has no analyzer in use and none that is registered. -/
def Unanalyzed (r : Registry) (path language : String) : Prop :=
  ∃ c, r.HasLanguage path language c ∧ r.analyzers.get? language = none ∧ c.analyzer = none

/-- The options over the defaults of the file's language have a threshold out of range. -/
def OutOfRange (r : Registry) (path : String) (options : Options) : Prop :=
  ∃ language c, r.HasLanguage path language c ∧
    ¬ (EffectiveOptions.effective options c.defaultRules c.defaultThresholds).InRange

namespace HasLanguage

variable {path language : String} {c : Registration}

theorem not_unmapped (hc : r.HasLanguage path language c) : ¬ r.Unmapped path :=
  fun hpath => hpath language c hc

theorem unanalyzed_iff (h : r.Consistent) (hc : r.HasLanguage path language c) {other : String} :
    r.Unanalyzed path other ↔
      language = other ∧ (r.analyzers.get? language <|> c.analyzer) = none := by
  constructor
  · rintro ⟨d, hd, hused, hregistered⟩
    obtain ⟨rfl, rfl⟩ := hc.unique h hd
    exact ⟨rfl, by rw [hused, hregistered]; rfl⟩
  · rintro ⟨rfl, hnone⟩
    exact ⟨c, hc, by simpa using hnone⟩

theorem outOfRange_iff (h : r.Consistent) (hc : r.HasLanguage path language c) {options : Options} :
    r.OutOfRange path options ↔
      ¬ (EffectiveOptions.effective options c.defaultRules c.defaultThresholds).InRange := by
  constructor
  · rintro ⟨other, d, hd, hrange⟩
    obtain ⟨rfl, rfl⟩ := hc.unique h hd
    exact hrange
  · exact fun hrange => ⟨language, c, hc, hrange⟩

end HasLanguage

/-! ### The outcome -/

/-- A language that a file has is found by its name, and then only an analyzer can be missing. -/
theorem HasLanguage.resolve_fst (hr : r.Reachable) {path language : String} {c : Registration}
    (hc : r.HasLanguage path language c) :
    (r.resolve language).1
      = match r.analyzers.get? language <|> c.analyzer with
        | none => .error (.noAnalyzer language)
        | some a => .ok ⟨language, a, c.defaultRules, c.defaultThresholds⟩ := by
  have hlower := hr.lowercase_eq hc.1
  have hregistered : r.registration? language = some c := by
    unfold registration?
    rw [hlower, hc.1]
  have hfor : (r.analyzerFor language).1 = (r.analyzers.get? language <|> c.analyzer) := by
    rw [analyzerFor_fst hr.consistent, hlower, standing?, hc.1, Option.map_some, Option.getD_some]
  rw [Registry.resolve_fst, hlower, hregistered]
  simp only [hfor]

theorem reviewFile_of_unmapped (h : r.Consistent) {path : String} (hpath : r.Unmapped path)
    (source : Source) (options : Options) :
    (r.reviewFile source path options).1 = .error (.unsupportedFileType path) := by
  have hdetect : r.detect? path = none := by
    rw [Option.eq_none_iff_forall_ne_some]
    intro language hlanguage
    obtain ⟨c, hc⟩ := (detect?_eq_some_iff h).1 hlanguage
    exact hpath language c hc
  rw [reviewFile_fst, hdetect]

/-- What comes of a file that has a language. -/
theorem HasLanguage.reviewFile_fst (hr : r.Reachable) {path language : String} {c : Registration}
    (hc : r.HasLanguage path language c) (source : Source) (options : Options) :
    (r.reviewFile source path options).1
      = match r.analyzers.get? language <|> c.analyzer with
        | none => .error (.noAnalyzer language)
        | some a =>
          match source path with
          | .error reason => .error (.unreadable path reason)
          | .ok text =>
            Review.ofText ⟨language, a, c.defaultRules, c.defaultThresholds⟩ path options text := by
  have hdetect := (detect?_eq_some_iff hr.consistent).2 ⟨c, hc⟩
  rw [Registry.reviewFile_fst, hdetect]
  simp only [hc.resolve_fst hr]
  cases r.analyzers.get? language <|> c.analyzer with
  | none => rfl
  | some a => cases source path <;> rfl

/-- The failure of a review does not depend on the text of the file. -/
theorem reviewFile_error_congr (r : Registry) {source other : Source} {path : String}
    (h : ∀ reason, other path = .error reason ↔ source path = .error reason) (options : Options)
    (e : ReviewError) :
    (r.reviewFile other path options).1 = .error e ↔
      (r.reviewFile source path options).1 = .error e := by
  rw [reviewFile_fst, reviewFile_fst]
  cases r.detect? path with
  | none => exact Iff.rfl
  | some language =>
    simp only
    cases (r.resolve language).1 with
    | error e' => exact Iff.rfl
    | ok b =>
      cases hsource : source path with
      | error reason => simp only [(h reason).2 hsource]
      | ok text =>
        cases hother : other path with
        | error reason =>
          rw [(h reason).1 hother] at hsource
          cases hsource
        | ok otherText => simp only [Except.bind, Review.ofText_eq_error_iff]

/-- **How the review of a file comes out.** In every registry that has come out of a history, for
every source, file and options:

* it fails for its type exactly if no registered language lists its extension;
* otherwise for want of an analyzer exactly if its language has none in use and none registered;
* otherwise for being unreadable exactly if the source gives a reason why it cannot be read;
* otherwise for a threshold exactly if one is out of range that counts in the end;
* otherwise it is reviewed.

It never fails for a language that is not registered or for an extension that is not valid. Sources
that fail alike on the file give the same failures, whatever texts they have for it. -/
theorem reviewFile_outcome (r : Registry) (hr : r.Reachable) (source : Source) (path : String)
    (options : Options) :
    let outcome := (r.reviewFile source path options).1
    (∀ other : Source, (∀ reason, other path = .error reason ↔ source path = .error reason) →
      ∀ e, (r.reviewFile other path options).1 = .error e ↔ outcome = .error e) ∧
    (outcome = .error (.unsupportedFileType path) ↔ r.Unmapped path) ∧
    (∀ language, outcome = .error (.noAnalyzer language) ↔
      ¬ r.Unmapped path ∧ r.Unanalyzed path language) ∧
    (∀ reason, outcome = .error (.unreadable path reason) ↔
      ¬ r.Unmapped path ∧ (∀ language, ¬ r.Unanalyzed path language) ∧
        source path = .error reason) ∧
    ((∃ fault, outcome = .error (.invalidThreshold fault)) ↔
      ¬ r.Unmapped path ∧ (∀ language, ¬ r.Unanalyzed path language) ∧
        (∃ text, source path = .ok text) ∧ r.OutOfRange path options) ∧
    ((∃ review, outcome = .ok review) ↔
      ¬ r.Unmapped path ∧ (∀ language, ¬ r.Unanalyzed path language) ∧
        (∃ text, source path = .ok text) ∧ ¬ r.OutOfRange path options) ∧
    (∀ name, outcome ≠ .error (.unsupportedLanguage name)) ∧
    ∀ ext, outcome ≠ .error (.invalidExtension ext) := by
  intro outcome
  have h := hr.consistent
  refine ⟨fun other hother => reviewFile_error_congr r hother options, ?_⟩
  by_cases hpath : r.Unmapped path
  · have houtcome : outcome = .error (.unsupportedFileType path) :=
      reviewFile_of_unmapped h hpath source options
    simp [houtcome, hpath]
  · obtain ⟨language, c, hc⟩ : ∃ language c, r.HasLanguage path language c := by
      simpa [Unmapped] using hpath
    have houtcome : outcome = _ := hc.reviewFile_fst hr source options
    -- Everything that can still go wrong is said of this language and its registration.
    simp only [hpath, hc.unanalyzed_iff h, hc.outOfRange_iff h]
    cases hfound : r.analyzers.get? language <|> c.analyzer with
    | none =>
      simp only [hfound] at houtcome
      simp [houtcome]
    | some a =>
      cases hsource : source path with
      | error reason =>
        simp only [hfound, hsource] at houtcome
        simp [houtcome]
      | ok text =>
        simp only [hfound, hsource] at houtcome
        by_cases hrange :
            (EffectiveOptions.effective options c.defaultRules c.defaultThresholds).InRange
        · obtain ⟨review, hreview⟩ := Review.exists_ofText_eq_ok
            (b := ⟨language, a, c.defaultRules, c.defaultThresholds⟩) hrange path text
          simp [houtcome, hreview, hrange]
        · obtain ⟨fault, hfault⟩ := Review.exists_ofText_eq_error
            (b := ⟨language, a, c.defaultRules, c.defaultThresholds⟩) hrange path text
          simp [houtcome, hfault, hrange]

/-- The statement at a language without an analyzer, for a file that cannot be read either and
options that are out of range: the first of the three failures is the one that counts. -/
theorem reviewFile_outcome_notes :
    let config : Registration := { name := "Notes", extensions := [".Txt"] }
    let r := empty.run [.register config]
    let source : Source := fun _ => .error "gone"
    let options : Options := { thresholds := some { coverage := some (.single 200) } }
    r.OutOfRange "lib/a.TXT" options ∧
      (r.reviewFile source "lib/a.TXT" options).1 = .error (.noAnalyzer "notes") := by
  intro config r source options
  have hget : r.languages.get? "notes" = some (normalForm config) := by
    have hname : "notes" = (normalForm config).name := by decide +kernel
    exact (register_languages_get? consistent_empty config "notes").trans (if_pos hname)
  have hlanguage : r.HasLanguage "lib/a.TXT" "notes" (normalForm config) :=
    ⟨hget, "TXT", by decide +kernel, by decide +kernel⟩
  have hunused : r.analyzers.get? "notes" = none := by
    rw [← Table.not_contains_iff]
    decide +kernel
  constructor
  · refine ⟨"notes", _, hlanguage, fun hrange => ?_⟩
    have hcoverage : (200 : Float) ≤ 100 := (hrange.coverage 200 (List.mem_singleton.2 rfl)).2
    exact absurd hcoverage (by decide)
  · have houtcome := reviewFile_outcome r ⟨.empty, _, rfl⟩ source "lib/a.TXT" options
    exact (houtcome.2.2.1 "notes").2 ⟨hlanguage.not_unmapped, _, hlanguage, hunused, rfl⟩

end Registry

end SourceReview
