import Mathlib.Data.List.Induction
import SourceReview.Proofs.Registry.Run

/-!
# The analyzer of a language is decided by its history

A registry keeps the analyzers that were put in use together with those it took from registrations,
in one table. Which of them answers for a language is nevertheless decided by few of the calls made
so far: the last registration of the language, and the calls after it that put an analyzer in use
for it (`analyzer_of_history`).

`standing?` is what a registry answers for a language, and `Call.settle` is what one call makes of
the answer. That the two fit together for every call (`standing?_perform`) is the step. A whole
history is then a fold of `Call.settle`, which looks at no registry any more.
-/

namespace SourceReview.Registry

/-! ### What a call decides -/

/-- The registration, if the call registers the language. -/
def Call.registered? (language : String) : Call → Option Registration
  | .register config => if Text.lowercase config.name = language then some config else none
  | _ => none

/-- The analyzer, if the call puts one in use for the language. -/
def Call.used? (language : String) : Call → Option Analyzer
  | .useAnalyzer name a => if Text.lowercase name = language then some a else none
  | _ => none

/-- Whether a call registers the language or puts an analyzer in use for it. -/
def Call.concerns (language : String) (call : Call) : Bool :=
  (call.registered? language).isSome || (call.used? language).isSome

/-- What a call makes of the analyzer of a language, where nothing is known of a language that is
not registered. -/
def Call.settle (language : String) (standing : Option (Option Analyzer)) (call : Call) :
    Option (Option Analyzer) :=
  match call.registered? language with
  | some config => some config.analyzer
  | none =>
    match call.used? language with
    | some a => standing.map fun _ => some a
    | none => standing

/-- A call that does not register the language keeps the analyzer, unless it puts another in use. -/
theorem Call.settle_of_registered?_eq_none {language : String} {call : Call}
    (h : call.registered? language = none) (standing : Option (Option Analyzer)) :
    call.settle language standing
      = standing.map fun earlier => call.used? language <|> earlier := by
  rw [settle, h]
  cases call.used? language with
  | none => cases standing <;> rfl
  | some a => rfl

theorem Call.settle_of_not_concerns {language : String} {call : Call}
    (h : call.concerns language = false) (standing : Option (Option Analyzer)) :
    call.settle language standing = standing := by
  simp only [concerns, Bool.or_eq_false_iff, Option.isSome_eq_false_iff,
    Option.isNone_iff_eq_none] at h
  rw [settle, h.1, h.2]

/-- A history decides as much as the calls in it that concern the language. -/
theorem foldl_settle_filter (language : String) (calls : List Call)
    (standing : Option (Option Analyzer)) :
    (calls.filter (·.concerns language)).foldl (Call.settle language) standing
      = calls.foldl (Call.settle language) standing := by
  rw [List.foldl_filter]
  congr 1
  funext s call
  by_cases h : call.concerns language = true
  · rw [if_pos h]
  · rw [if_neg h, Call.settle_of_not_concerns (by simpa using h)]

/-! ### What a registry answers -/

/-- The analyzer that a registered language has: the one in use or else the registered one. -/
def standing? (r : Registry) (language : String) : Option (Option Analyzer) :=
  (r.languages.get? language).map fun c => r.analyzers.get? language <|> c.analyzer

theorem standing?_eq_none_iff (r : Registry) (language : String) :
    r.standing? language = none ↔ r.languages.get? language = none := Option.map_eq_none_iff

/-- Asking for the analyzer of a language gives the one that stands. -/
theorem analyzerFor_fst {r : Registry} (h : r.Consistent) (name : String) :
    (r.analyzerFor name).1 = (r.standing? (Text.lowercase name)).getD none := by
  unfold analyzerFor standing?
  simp only
  cases hreg : r.languages.get? (Text.lowercase name) with
  | none => simp [h.analyzers_get?_of_not_registered hreg]
  | some c =>
    cases hused : r.analyzers.get? (Text.lowercase name) with
    | some a => rfl
    | none =>
      cases hanalyzer : c.analyzer <;> simp [hanalyzer]

section Perform

variable {r : Registry} (h : r.Consistent) (language : String)

/-- Putting registered analyzers in use changes no answer. -/
theorem Warmed.standing?_eq {r' : Registry} (h : Warmed r r') :
    r'.standing? language = r.standing? language := by
  unfold standing?
  rw [h.languages]
  cases hreg : r.languages.get? language with
  | none => rfl
  | some c =>
    rcases h.analyzers language with hsame | ⟨hnone, hput⟩
    · rw [hsame]
    · -- What is put in use is what would have been answered without it.
      rw [hreg, Option.bind_some] at hput
      rw [hput, hnone]
      cases hanalyzer : c.analyzer <;> simp [hanalyzer]

include h

/-- A registration takes the place of everything before it. -/
theorem standing?_register (config : Registration) :
    (r.register config).standing? language
      = (Call.register config).settle language (r.standing? language) := by
  have hnormal : (normalForm config).name = Text.lowercase config.name := rfl
  unfold standing? Call.settle Call.registered?
  rw [register_languages_get? h, register_analyzers_get? h, hnormal]
  by_cases hname : language = Text.lowercase config.name
  · simp only [if_pos hname, if_pos hname.symm, Option.map_some]
    rfl
  · simp only [if_neg hname, if_neg (Ne.symm hname), Option.map_map]
    rfl

/-- One more extension changes no answer. -/
theorem standing?_extended (given name : String) :
    (r.extended given name).standing? language = r.standing? language := by
  have hanalyzer : ∀ c : Registration, (c.adding given).analyzer = c.analyzer := by
    intro c
    unfold Registration.adding
    split <;> rfl
  have hused : (r.extended given name).analyzers = r.analyzers := rfl
  unfold standing?
  rw [extended_languages_get? h, hused]
  by_cases hname : language = name
  · simp only [if_pos hname, Option.map_map, Function.comp_def, hanalyzer]
  · simp only [if_neg hname, Option.map_map]
    rfl

omit h in
/-- An analyzer is put in use if the language is registered. -/
theorem standing?_useAnalyzer (name : String) (a : Analyzer) :
    (r.perform (.useAnalyzer name a)).standing? language
      = (Call.useAnalyzer name a).settle language (r.standing? language) := by
  have hsettle : (Call.useAnalyzer name a).settle language (r.standing? language)
      = if Text.lowercase name = language then (r.standing? language).map fun _ => some a
        else r.standing? language := by
    simp only [Call.settle, Call.registered?, Call.used?]
    by_cases hname : Text.lowercase name = language
    · simp only [if_pos hname]
    · simp only [if_neg hname]
  rw [hsettle, perform, useAnalyzer]
  by_cases hreg : r.languages.contains (Text.lowercase name) = true
  · simp only [if_pos hreg, standing?, Table.get?_insert]
    by_cases hname : language = Text.lowercase name
    · simp only [if_pos hname, if_pos hname.symm, Option.map_map]
      rfl
    · simp only [if_neg hname, if_neg (Ne.symm hname)]
  · simp only [if_neg hreg]
    rw [Table.not_contains_iff, ← standing?_eq_none_iff] at hreg
    split
    · rename_i hname
      rw [← hname, hreg, Option.map_none]
    · rfl

/-- What one call makes of the analyzer of a language. -/
theorem standing?_perform (call : Call) :
    (r.perform call).standing? language = call.settle language (r.standing? language) := by
  cases call with
  | register config => exact standing?_register h language config
  | addExtension ext name =>
    rw [perform]
    obtain ⟨e, hfail⟩ | ⟨-, -, hadd⟩ := addExtension_cases r ext name
    · rw [hfail]
      rfl
    · rw [hadd]
      exact standing?_extended h language _ _
  | useAnalyzer name a => exact standing?_useAnalyzer language name a
  | _ => exact (warmed_perform r rfl).standing?_eq language

end Perform

/-- What a history makes of the analyzer of a language. -/
theorem standing?_run {r : Registry} (h : r.Consistent) (language : String) (calls : List Call) :
    (r.run calls).standing? language
      = calls.foldl (Call.settle language) (r.standing? language) := by
  induction calls generalizing r with
  | nil => rfl
  | cons call calls ih =>
    rw [List.foldl_cons, ← standing?_perform h]
    exact ih (perform_consistent h call)

/-! ### The last registration and what came after it -/

/-- The analyzer that was put in use last. -/
def latestUse? (language : String) (calls : List Call) : Option Analyzer :=
  (calls.filterMap (·.used? language)).getLast?

theorem latestUse?_append_singleton (language : String) (calls : List Call) (call : Call) :
    latestUse? language (calls ++ [call])
      = (call.used? language <|> latestUse? language calls) := by
  unfold latestUse?
  rw [List.filterMap_append]
  cases hused : call.used? language with
  | none => simp [hused]
  | some a => simp [hused]

theorem Call.registered?_eq_some_iff {language : String} {call : Call} {config : Registration} :
    call.registered? language = some config ↔
      call = .register config ∧ Text.lowercase config.name = language := by
  cases call with
  | register other =>
    simp only [registered?, Call.register.injEq, Option.ite_none_right_eq_some, Option.some.injEq]
    constructor
    · rintro ⟨hname, rfl⟩
      exact ⟨rfl, hname⟩
    · rintro ⟨rfl, hname⟩
      exact ⟨hname, rfl⟩
  | _ => simp [registered?]

/-- A history that settles the analyzer of a language has a last registration of it, and the
analyzer is the one put in use last after that, or else the one of the registration. -/
theorem exists_last_register {language : String} {calls : List Call} {standing : Option Analyzer}
    (h : calls.foldl (Call.settle language) none = some standing) :
    ∃ before config after, calls = before ++ .register config :: after ∧
      Text.lowercase config.name = language ∧
      (∀ later, .register later ∈ after → Text.lowercase later.name ≠ language) ∧
      standing = (latestUse? language after <|> config.analyzer) := by
  induction calls using List.reverseRecOn generalizing standing with
  | nil => cases h
  | append_singleton calls call ih =>
    rw [List.foldl_append, List.foldl_cons, List.foldl_nil] at h
    cases hregistered : call.registered? language with
    | some config =>
      -- The last call is the registration, and nothing came after it.
      obtain ⟨rfl, hname⟩ := Call.registered?_eq_some_iff.1 hregistered
      rw [Call.settle, hregistered] at h
      exact ⟨calls, config, [], rfl, hname, by simp, (Option.some.inj h).symm⟩
    | none =>
      -- The last call comes after the registration that was the last one before it.
      rw [Call.settle_of_registered?_eq_none hregistered] at h
      obtain ⟨earlier, hearlier, rfl⟩ := Option.map_eq_some_iff.1 h
      obtain ⟨before, config, after, rfl, hname, hafter, rfl⟩ := ih hearlier
      refine ⟨before, config, after ++ [call], by simp, hname, ?_, ?_⟩
      · intro later hlater hlatername
        rcases List.mem_append.1 hlater with hlater | hlater
        · exact hafter later hlater hlatername
        · have hcall : call = .register later := (List.mem_singleton.1 hlater).symm
          rw [Call.registered?_eq_some_iff.2 ⟨hcall, hlatername⟩] at hregistered
          cases hregistered
      · rw [latestUse?_append_singleton]
        cases call.used? language <;> rfl

/-- **The analyzer of a language is decided by its history.** After any history that begins with
nothing, take a registered language in any spelling. The history has a last registration of it. The
analyzer is the one that was put in use last after that registration, or else the registered one if
there is any. Histories with the same calls that register the language or put an analyzer in use for
it give the same analyzer. -/
theorem analyzer_of_history (calls : List Call) (name : String)
    (hreg : (empty.run calls).languages.contains (Text.lowercase name) = true) :
    (∃ before config after, calls = before ++ .register config :: after ∧
      Text.lowercase config.name = Text.lowercase name ∧
      (∀ later, .register later ∈ after → Text.lowercase later.name ≠ Text.lowercase name) ∧
      ((empty.run calls).analyzerFor name).1
        = (latestUse? (Text.lowercase name) after <|> config.analyzer)) ∧
    ∀ others : List Call,
      others.filter (·.concerns (Text.lowercase name))
        = calls.filter (·.concerns (Text.lowercase name)) →
      ((empty.run others).analyzerFor name).1 = ((empty.run calls).analyzerFor name).1 := by
  have hanswer : ∀ calls, ((empty.run calls).analyzerFor name).1
      = (calls.foldl (Call.settle (Text.lowercase name)) none).getD none := by
    intro calls
    rw [analyzerFor_fst (run_consistent consistent_empty calls), standing?_run consistent_empty]
    rfl
  constructor
  · obtain ⟨c, hc⟩ := (Table.contains_iff _ _).1 hreg
    have hstanding : calls.foldl (Call.settle (Text.lowercase name)) none
        = some ((empty.run calls).analyzers.get? (Text.lowercase name) <|> c.analyzer) := by
      have hrun := standing?_run consistent_empty (Text.lowercase name) calls
      rw [standing?, hc] at hrun
      exact hrun.symm
    obtain ⟨before, config, after, hcalls, hname, hafter, hlast⟩ := exists_last_register hstanding
    refine ⟨before, config, after, hcalls, hname, hafter, ?_⟩
    rw [hanswer, hstanding, hlast, Option.getD_some]
  · intro others hsame
    rw [hanswer, hanswer, ← foldl_settle_filter _ others, hsame, foldl_settle_filter]

/-- The statement at a language that is registered twice in different spellings, with calls in
between that decide nothing about it. -/
theorem analyzer_of_history_reregistered :
    let calls : List Call :=
      [.register { name := "Text", analyzer := some Language.go.analyzer },
        .useAnalyzer "TEXT" Language.java.analyzer, .analyzerFor "text",
        .register { name := "text", extensions := ["txt"] }, .resolve "tEXT",
        .useAnalyzer "teXt" Language.php.analyzer,
        .register { name := "Notes", extensions := ["TXT"] }]
    (empty.run calls).languages.contains (Text.lowercase "TEXt") = true ∧
      (∃ before config after, calls = before ++ .register config :: after ∧
        Text.lowercase config.name = Text.lowercase "TEXt" ∧
        (∀ later, .register later ∈ after → Text.lowercase later.name ≠ Text.lowercase "TEXt") ∧
        ((empty.run calls).analyzerFor "TEXt").1
          = (latestUse? (Text.lowercase "TEXt") after <|> config.analyzer)) := by
  intro calls
  have hreg : (empty.run calls).languages.contains (Text.lowercase "TEXt") = true := by
    decide +kernel
  exact ⟨hreg, (analyzer_of_history calls "TEXt" hreg).1⟩

end SourceReview.Registry
