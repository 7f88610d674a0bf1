import SourceReview.Proofs.Registry.Alike

/-!
# Reviewing many files is reviewing each of them

An engine reviews many files with options that are laid over its own once, or one at a time with
options that are laid over its own for each file. The two do the same (`reviewEach_eq_reviewFiles`),
and both give the reviews that single calls would have given, each made to the engine as it was
before (`batch_one_by_one`). Nothing that can be asked afterwards shows that the files have been
reviewed, so it does not matter either in which order they are taken up.
-/

namespace SourceReview.Engine

open Registry (Alike Call)

/-! ### Answers of an engine -/

/-- All that an engine and its registry can be asked. -/
structure Answers where
  registry : Registry.Answers
  defaults : Options
  reviewText : String → String → Option String → Options → Except ReviewError Review
  reviewFile : String → Options → Except ReviewError Review
  reviewFileAs : String → String → Options → Except ReviewError Review
  reviewFiles : List String → Options → List Review
  reviewEach : List String → Options → List Review

/-- The answers of an engine, each to a question that is asked first. -/
def answers (e : Engine) : Answers where
  registry := e.registry.answers
  defaults := e.defaults
  reviewText text language path options := (e.reviewText text language path options).1
  reviewFile path options := (e.reviewFile path options).1
  reviewFileAs path language options := (e.reviewFileAs path language options).1
  reviewFiles paths options := (e.reviewFiles paths options).1
  reviewEach paths options := (e.reviewEach paths options).1

/-- Laying the options over those of the engine once or for each file is the same. -/
theorem reviewEach_eq_reviewFiles (e : Engine) (paths : List String) (options : Options) :
    e.reviewEach paths options = e.reviewFiles paths options := by
  induction paths generalizing e with
  | nil => rfl
  | cons path paths ih =>
    rw [reviewEach, reviewFiles, Registry.reviewFiles]
    simp only [ih]
    rfl

theorem reviewFileAs_fst (e : Engine) (path language : String) (options : Options) :
    (e.reviewFileAs path language options).1
      = match e.source path with
        | .error reason => .error (.unreadable path reason)
        | .ok text => (e.reviewText text language (some path) options).1 := by
  unfold reviewFileAs
  cases e.source path <;> rfl

/-- Engines answer alike if their registries are alike and they have the same source and options. -/
theorem answers_eq_of_alike {r r' : Registry} (h : Alike r r') (source : Source)
    (defaults : Options) :
    answers ⟨r', source, defaults⟩ = answers ⟨r, source, defaults⟩ := by
  have htext : ∀ text language path options,
      (reviewText ⟨r', source, defaults⟩ text language path options).1
        = (reviewText ⟨r, source, defaults⟩ text language path options).1 :=
    fun text language path options => h.reviewText_fst_eq text language path _
  have hfile : ∀ path options, (reviewFile ⟨r', source, defaults⟩ path options).1
      = (reviewFile ⟨r, source, defaults⟩ path options).1 :=
    fun path options => h.reviewFile_fst_eq source path _
  have hfiles : ∀ paths options, (reviewFiles ⟨r', source, defaults⟩ paths options).1
      = (reviewFiles ⟨r, source, defaults⟩ paths options).1 :=
    fun paths options => h.reviewFiles_fst_eq source paths _
  simp only [answers, h.answers_eq, reviewFileAs_fst, reviewEach_eq_reviewFiles, htext, hfile,
    hfiles]

/-! ### Batches -/

/-- The engine after its registry has gone through a history of calls. -/
def after (e : Engine) (calls : List Call) : Engine := { e with registry := e.registry.run calls }

/-- A batch of files gives the reviews of the files by themselves, without those that fail, and
whatever happens afterwards, the engine answers as if there had been no batch. -/
structure OneByOne (e : Engine) (paths : List String) (options : Options)
    (batch : List Review × Engine) : Prop where
  reviews : batch.1 = paths.filterMap fun path => (e.reviewFile path options).1.toOption
  unchanged : ∀ calls, (batch.2.after calls).answers = (e.after calls).answers

theorem oneByOne_reviewFiles {e : Engine} (h : e.registry.Consistent) (paths : List String)
    (options : Options) : OneByOne e paths options (e.reviewFiles paths options) where
  reviews := Registry.reviewFiles_fst h e.source paths _
  unchanged calls := by
    have halike : Alike e.registry (e.reviewFiles paths options).2.registry :=
      (Registry.warmed_reviewFiles e.registry e.source paths _).alike h
    exact answers_eq_of_alike (halike.run calls) e.source e.defaults

/-- **Many files are reviewed one by one.** In every registry that has come out of a history, for
all files, with repetitions or not, the engine gives the reviews of those that do not fail, in
order, each as if it had been asked for this file alone. All that can be asked of the engine and its
registry later, after any further calls, is answered as without the batch. This holds for both ways
of reviewing many files. -/
theorem batch_one_by_one (e : Engine) (hr : e.registry.Reachable) (paths : List String)
    (options : Options) :
    OneByOne e paths options (e.reviewFiles paths options) ∧
      OneByOne e paths options (e.reviewEach paths options) := by
  have h := oneByOne_reviewFiles hr.consistent paths options
  refine ⟨h, ?_⟩
  rw [reviewEach_eq_reviewFiles]
  exact h

/-- The statement at the known languages, for files of which one has no language, one cannot be read
and one is listed twice. -/
theorem batch_one_by_one_mixed :
    let source := Source.ofFiles
      [("a.py", "import os\nprint(1)\n"), ("b.txt", "plain text"), ("c.go", "package main\n")]
    let e : Engine := ⟨Registry.builtin, source, {}⟩
    let paths := ["c.go", "a.py", "b.txt", "missing.java", "c.go"]
    e.registry.Reachable ∧
      (e.reviewEach paths {}).1.map (·.filePath) = ["c.go", "a.py", "c.go"] ∧
      (e.reviewEach paths {}).2.answers = e.answers := by
  intro source e paths
  have hreachable : e.registry.Reachable := Registry.reachable_builtin
  obtain ⟨-, hreviews, hunchanged⟩ := batch_one_by_one e hreachable paths {}
  refine ⟨hreachable, ?_, hunchanged []⟩
  rw [hreviews]
  decide +kernel

end SourceReview.Engine
