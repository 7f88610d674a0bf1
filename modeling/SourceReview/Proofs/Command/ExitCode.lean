import Mathlib.Data.List.Count
import SourceReview.Command.Run
import SourceReview.Proofs.Config.Validation
import SourceReview.Proofs.Engine.Batch
import SourceReview.Proofs.Registry.Table
import SourceReview.Proofs.Review.RuleSelection

/-!
# Exit codes

A run that gets as far as a report ends with 1 if some issue is as serious as the request asks for,
else with 2 if some file has no review, and else with 0 (`exit_code_exact`).

The run does not look at the issues for this. It looks at a table that counts them under the names
of their severities, and reads the names back. Every sum over the table is a number of issues
(`sum_filter_severityCounts`), and a name is read back as the severity it belongs to
(`Severity.ofName?_name`), so no issue escapes. Nor does the run look for files that fail: it
compares the numbers of files and reviews. The reviews are those of the files one by one
(`Plan.reviews_eq`), so there are fewer of them just if some file fails.
-/

namespace SourceReview

/-! ### Counts by severity -/

/-- The name of a severity is read back as that severity. -/
theorem Severity.ofName?_name (s : Severity) : ofName? s.name = some s := by
  cases s <;> decide +kernel

namespace Summary

/-- Whether the name of a severity is counted depends on its place on the scale. -/
theorem namesFrom_name (s t : Severity) : namesFrom s t.name = decide (s.rank ≤ t.rank) := by
  unfold namesFrom
  rw [Severity.ofName?_name, Option.any_some]

/-- One more issue is one more in the sums that its severity belongs to. -/
theorem sum_filter_countIssue (counts : Table Nat) (p : String → Bool) (i : Issue) :
    ((countIssue counts i).filter fun name _ => p name).sum
      = (counts.filter fun name _ => p name).sum + if p i.severity.name then 1 else 0 :=
  counts.sum_filter_increment p i.severity.name

/-- A sum over names is the number of issues whose severities have such names. -/
theorem sum_filter_severityCounts (p : String → Bool) (issues : List Issue) :
    ((severityCounts issues).filter fun name _ => p name).sum
      = issues.countP fun i => p i.severity.name := by
  -- The table may have counted other issues before.
  have hfold : ∀ counts : Table Nat,
      ((issues.foldl countIssue counts).filter fun name _ => p name).sum
        = (counts.filter fun name _ => p name).sum + issues.countP fun i => p i.severity.name := by
    induction issues with
    | nil => intro counts; simp
    | cons i issues ih =>
      intro counts
      rw [List.foldl_cons, ih, sum_filter_countIssue, List.countP_cons]
      omega
  have hempty : (({} : Table Nat).filter fun name _ => p name).sum = 0 := rfl
  have hall := hfold {}
  unfold severityCounts
  omega

/-- The issues of all reviews are as many as the reviews have together. -/
theorem length_flatMap_issues (reviews : List Review) :
    (reviews.flatMap (·.issues)).length = total (reviews.map (·.issues.length)) := by
  induction reviews with
  | nil => rfl
  | cons r reviews ih => rw [List.flatMap_cons, List.length_append, ih, List.map_cons, total_cons]

theorem countFrom_ofReviews (reviews : List Review) (s : Severity) :
    (ofReviews reviews).countFrom s
      = (reviews.flatMap (·.issues)).countP fun i => decide (s.rank ≤ i.severity.rank) := by
  show ((severityCounts (reviews.flatMap (·.issues))).filter fun name _ => namesFrom s name).sum = _
  rw [sum_filter_severityCounts]
  simp only [namesFrom_name]

theorem sum_bySeverity_ofReviews (reviews : List Review) :
    (ofReviews reviews).bySeverity.sum = (ofReviews reviews).issues := by
  show (severityCounts (reviews.flatMap (·.issues))).sum = total (reviews.map (·.issues.length))
  rw [← Table.sum_filter_true, sum_filter_severityCounts (fun _ => true), List.countP_true,
    length_flatMap_issues]

end Summary

/-! ### Files in a given language -/

namespace Engine

/-- Reviewing a file in a given language leaves an engine that is like the one before. -/
theorem exists_alike_reviewFileAs {e : Engine} (h : e.registry.Consistent) (path language : String)
    (options : Options) :
    ∃ r, (e.reviewFileAs path language options).2 = ⟨r, e.source, e.defaults⟩ ∧
      Registry.Alike e.registry r := by
  unfold reviewFileAs
  cases e.source path with
  | error reason => exact ⟨e.registry, rfl, (Registry.Warmed.refl _).alike h⟩
  | ok text => exact ⟨_, rfl, (Registry.warmed_reviewText _ _ _ _ _).alike h⟩

/-- Many files are reviewed in a given language as if each were the first. -/
theorem reviewFilesAs_fst {e : Engine} (h : e.registry.Consistent) (paths : List String)
    (language : String) (options : Options) :
    (e.reviewFilesAs paths language options).1
      = paths.filterMap fun path => (e.reviewFileAs path language options).1.toOption := by
  induction paths generalizing e with
  | nil => rfl
  | cons path paths ih =>
    obtain ⟨r, hnext, halike⟩ := exists_alike_reviewFileAs h path language options
    have hanswers : (answers ⟨r, e.source, e.defaults⟩).reviewFileAs = e.answers.reviewFileAs :=
      congrArg Answers.reviewFileAs (answers_eq_of_alike halike e.source e.defaults)
    have htail : ((e.reviewFileAs path language options).2.reviewFilesAs paths language options).1
        = paths.filterMap fun path => (e.reviewFileAs path language options).1.toOption := by
      rw [hnext, ih halike.right]
      show paths.filterMap (fun path =>
        ((answers ⟨r, e.source, e.defaults⟩).reviewFileAs path language options).toOption) = _
      rw [hanswers]
      rfl
    rw [reviewFilesAs]
    show (e.reviewFileAs path language options).1.toOption.toList ++ _ = _
    rw [htail, List.filterMap_cons]
    cases (e.reviewFileAs path language options).1.toOption <;> rfl

end Engine

/-! ### Plans -/

namespace Command

/-- The outcome of a single file, if it is the first one that is reviewed after a plan. -/
def Plan.outcomeOf (p : Plan) (disk : Disk) (path : String) : Except ReviewError Review :=
  let engine : Engine := ⟨p.registry, sourceOf disk, p.config.options⟩
  match p.language with
  | some l => (engine.reviewFileAs path l p.options).1
  | none => (engine.reviewFile path p.options).1

/-- The reviews of a plan are those of its files one by one, without those that fail. -/
theorem Plan.reviews_eq {p : Plan} (h : p.registry.Consistent) (disk : Disk) :
    p.reviews disk = p.files.filterMap fun path => (p.outcomeOf disk path).toOption := by
  unfold Plan.reviews Plan.outcomeOf
  cases p.language with
  | some l => exact Engine.reviewFilesAs_fst h p.files l p.options
  | none => exact Registry.reviewFiles_fst h _ p.files _

/-- The registry of a plan is the initial one with the changes of the configuration. -/
theorem applyTo_of_plan {setup : Setup} {request : ReviewRequest} {p : Plan}
    (h : plan setup request = .ok p) : p.config.applyTo .builtin = .ok p.registry := by
  obtain ⟨config, -, h⟩ := exists_of_bind_eq_ok h
  obtain ⟨registry, hregistry, h⟩ := exists_of_bind_eq_ok h
  have happly := eq_ok_of_mapError_eq_ok hregistry
  -- Whether a language is asked for or not, the last steps are the same.
  have hlast : ∀ language : Option String,
      (do
        request.options.validate.mapError RunError.invalidThreshold
        let files ← request.paths.mapM (filesOf setup.disk registry config.exclusions language)
        return { config, registry, language, options := request.options, files := files.flatten })
        = Except.ok p → p.config.applyTo .builtin = .ok p.registry := by
    intro language h
    obtain ⟨-, -, h⟩ := exists_of_bind_eq_ok h
    obtain ⟨files, -, h⟩ := exists_of_bind_eq_ok h
    cases h
    exact happly
  dsimp only at h
  split at h
  · split at h
    · cases h
    · exact hlast _ h
  · exact hlast _ h

theorem consistent_of_plan {setup : Setup} {request : ReviewRequest} {p : Plan}
    (h : plan setup request = .ok p) : p.registry.Consistent :=
  Config.applyTo_consistent Registry.reachable_builtin.consistent (applyTo_of_plan h)

/-- There are fewer reviews than files just if a file fails. -/
theorem Plan.length_reviews_lt_iff {p : Plan} (h : p.registry.Consistent) (disk : Disk) :
    (p.reviews disk).length < p.files.length ↔
      ∃ path ∈ p.files, ∃ e, p.outcomeOf disk path = .error e := by
  have herror : ∀ path, (p.outcomeOf disk path).toOption.isSome = false ↔
      ∃ e, p.outcomeOf disk path = .error e := by
    intro path
    cases p.outcomeOf disk path with
    | error e => simp [Except.toOption]
    | ok r => simp [Except.toOption]
  rw [Plan.reviews_eq h, List.length_filterMap_eq_countP, List.countP_lt_length_iff]
  simp only [herror]

/-! ### Exit codes -/

/-- An issue is at least as serious as the severity that is asked for, if one is. -/
def HasSevere (failOn : Option Severity) (reviews : List Review) : Prop :=
  ∃ s, failOn = some s ∧ ∃ r ∈ reviews, ∃ i ∈ r.issues, s.rank ≤ i.severity.rank

/-- The counts by severity tell whether an issue is serious enough. -/
theorem any_countFrom_iff (failOn : Option Severity) (reviews : List Review) :
    (failOn.any fun s => decide (0 < (Summary.ofReviews reviews).countFrom s)) = true ↔
      HasSevere failOn reviews := by
  unfold HasSevere
  rw [Option.any_eq_true]
  apply exists_congr
  intro s
  rw [decide_eq_true_iff, Summary.countFrom_ofReviews, List.countP_pos_iff]
  simp only [List.mem_flatMap, decide_eq_true_iff]
  constructor
  · rintro ⟨hs, i, ⟨r, hr, hi⟩, hrank⟩
    exact ⟨hs, r, hr, i, hi, hrank⟩
  · rintro ⟨hs, r, hr, i, hi, hrank⟩
    exact ⟨hs, i, ⟨r, hr, hi⟩, hrank⟩

theorem exitCode_of_severe {failOn : Option Severity} {reviews : List Review}
    (h : HasSevere failOn reviews) (files : List String) : exitCode failOn files reviews = 1 := by
  unfold exitCode
  rw [if_pos ((any_countFrom_iff failOn reviews).2 h)]

theorem exitCode_of_not_severe {failOn : Option Severity} {reviews : List Review}
    (h : ¬ HasSevere failOn reviews) (files : List String) :
    exitCode failOn files reviews = if reviews.length < files.length then 2 else 0 := by
  unfold exitCode
  rw [if_neg fun hany => h ((any_countFrom_iff failOn reviews).1 hany)]

/-- **The exit code says what has been found.** The numbers of issues by severity add up to the
number of all issues, and those from a severity on to the number of issues that are at least as
serious. So a run that reports on files ends with 1 if and only if an issue in the reviews of the
files is as serious as the request asks for, with 2 if and only if there is no such issue and a file
has no review, and with 0 if and only if there is neither. -/
theorem exit_code_exact :
    (∀ (reviews : List Review) (s : Severity),
      (Summary.ofReviews reviews).countFrom s
        = (reviews.flatMap (·.issues)).countP (fun i => s.rank ≤ i.severity.rank) ∧
      (Summary.ofReviews reviews).bySeverity.sum = (Summary.ofReviews reviews).issues) ∧
    ∀ (setup : Setup) (request : ReviewRequest) (p : Plan),
      plan setup request = .ok p → p.files ≠ [] →
      let reviews := p.files.filterMap fun path => (p.outcomeOf setup.disk path).toOption
      let severe := ∃ s, request.failOn = some s ∧
        ∃ r ∈ reviews, ∃ i ∈ r.issues, s.rank ≤ i.severity.rank
      let failed := ∃ path ∈ p.files, ∃ e, p.outcomeOf setup.disk path = .error e
      let run := runReview setup request
      run.output = p.report setup request.format reviews ∧
      (run.exitCode = 1 ↔ severe) ∧
      (run.exitCode = 2 ↔ ¬ severe ∧ failed) ∧
      (run.exitCode = 0 ↔ ¬ severe ∧ ¬ failed) := by
  refine ⟨fun reviews s =>
    ⟨Summary.countFrom_ofReviews reviews s, Summary.sum_bySeverity_ofReviews reviews⟩, ?_⟩
  intro setup request p hplan hfiles reviews severe failed run
  have hconsistent := consistent_of_plan hplan
  have hreviews : p.reviews setup.disk = reviews := Plan.reviews_eq hconsistent setup.disk
  have hlength : reviews.length < p.files.length ↔ failed := by
    rw [← hreviews]
    exact Plan.length_reviews_lt_iff hconsistent setup.disk
  have hrun : run = { exitCode := exitCode request.failOn p.files reviews
                      output := p.report setup request.format reviews } := by
    show runReview setup request = _
    unfold runReview
    rw [hplan]
    dsimp only
    rw [if_neg (by simpa using hfiles), hreviews]
  rw [hrun]
  dsimp only
  refine ⟨rfl, ?_⟩
  by_cases hsevere : severe
  · rw [exitCode_of_severe hsevere p.files]
    simp [hsevere]
  · rw [exitCode_of_not_severe hsevere p.files, ← hlength]
    split <;> rename_i hlt <;> simp [hsevere, hlt]

/-- The statement at two files of which one has a serious issue and the other no language: the issue
counts if the request asks for it, and else the file that has no review. -/
theorem exit_code_exact_unsafe :
    let disk : Disk := fun path =>
      if path = "a.py" then .ok (.file [101, 118, 97, 108, 40, 120, 41])
      else if path = "notes.txt" then .ok (.file [])
      else .error .notFound
    let setup : Setup := { disk, directory := ".", now := ⟨0, 0⟩ }
    let request : Option Severity → ReviewRequest := fun failOn =>
      { paths := ["a.py", "notes.txt"], failOn }
    let p : Plan := ⟨{}, Registry.builtin, none, {}, ["a.py", "notes.txt"]⟩
    (∀ failOn, plan setup (request failOn) = .ok p) ∧ p.files ≠ [] ∧
      (runReview setup (request (some .high))).exitCode = 1 ∧
      (runReview setup (request none)).exitCode = 2 := by
  intro disk setup request p
  have hsorted : ({} : Config).languages.sorted = [] := List.mergeSort_nil
  have hvalidate : ({} : Config).validate = .ok () := by
    unfold Config.validate
    rw [hsorted]
    rfl
  have happly : ({} : Config).applyTo .builtin = .ok .builtin := by
    unfold Config.applyTo
    rw [hsorted]
    rfl
  have hload : Config.load disk none "." = .ok {} := by
    unfold Config.load
    show (({} : Config).validate >>= fun _ => Except.ok ({} : Config)) = _
    rw [hvalidate]
    rfl
  have hplan : ∀ failOn, plan setup (request failOn) = .ok p := by
    intro failOn
    unfold plan
    show ((Config.load disk none ".").mapError RunError.config >>= _) = _
    rw [hload]
    show ((({} : Config).applyTo .builtin).mapError RunError.config >>= _) = _
    rw [happly]
    rfl
  have hfiles : p.files ≠ [] := by decide
  refine ⟨hplan, hfiles, ?_, ?_⟩
  · obtain ⟨-, hone, -, -⟩ := exit_code_exact.2 setup (request (some .high)) p (hplan _) hfiles
    refine hone.2 ⟨.high, rfl, Review.ofResolved _ _ _ _,
      List.mem_filterMap.2 ⟨"a.py", by decide, rfl⟩, ?_⟩
    simp only [Review.issues_ofResolved, List.mem_mergeSort]
    decide +kernel
  · obtain ⟨-, -, htwo, -⟩ := exit_code_exact.2 setup (request none) p (hplan _) hfiles
    refine htwo.2 ⟨?_, "notes.txt", by decide, _, rfl⟩
    rintro ⟨s, hs, -⟩
    cases hs

end Command

end SourceReview
