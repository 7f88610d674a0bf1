import SourceReview.Proofs.Registry.Consistent
import SourceReview.Registry.Engine

/-!
# Runs of a registry

A registry goes through a history of calls. Those that change its registrations keep it consistent
by the lemmas of the module before. All others, from asking for an analyzer to reviewing many files,
do one thing to the registry: they put registered analyzers in use. `Registry.Warmed` says so, and
since it is reflexive and transitive, it carries over from the first of these calls to the last.

The main statement is `run_consistent`: whatever a registry is asked to do, it stays consistent.
-/

namespace SourceReview.Registry

/-! ### Calls that put analyzers in use -/

/-- `r'` is `r` after some of its languages have been asked for: an analyzer that was not in use
before is the registered one. -/
structure Warmed (r r' : Registry) : Prop where
  languages : r'.languages = r.languages
  extensions : r'.extensions = r.extensions
  analyzers : ∀ name, r'.analyzers.get? name = r.analyzers.get? name ∨
    (r.analyzers.get? name = none ∧
      r'.analyzers.get? name = (r.languages.get? name).bind (·.analyzer))

namespace Warmed

theorem refl (r : Registry) : Warmed r r := ⟨rfl, rfl, fun _ => Or.inl rfl⟩

theorem trans {r₁ r₂ r₃ : Registry} (h₁ : Warmed r₁ r₂) (h₂ : Warmed r₂ r₃) : Warmed r₁ r₃ := by
  refine ⟨h₂.languages.trans h₁.languages, h₂.extensions.trans h₁.extensions, ?_⟩
  intro name
  rcases h₂.analyzers name with hsame | ⟨hnone, hput⟩
  · rw [hsame]
    exact h₁.analyzers name
  · rw [h₁.languages] at hput
    rcases h₁.analyzers name with hsame | ⟨hnone', -⟩
    · exact Or.inr ⟨hsame.symm.trans hnone, hput⟩
    · exact Or.inr ⟨hnone', hput⟩

/-- Putting registered analyzers in use keeps a registry consistent. -/
theorem consistent {r r' : Registry} (h : Warmed r r') (hr : r.Consistent) : r'.Consistent := by
  constructor
  · intro ext language
    unfold Lists
    rw [h.extensions, h.languages]
    exact hr.mapped_iff ext language
  · rw [h.languages]
    exact hr.nodup
  · rw [h.languages]
    exact hr.nonempty
  · rw [h.languages]
    exact hr.name_eq
  · intro language hused
    rw [h.languages]
    obtain ⟨a, ha⟩ := (Table.contains_iff _ _).1 hused
    rcases h.analyzers language with hsame | ⟨-, hput⟩
    · exact hr.registered language ((Table.contains_iff _ _).2 ⟨a, hsame.symm.trans ha⟩)
    · -- The analyzer comes from the registration of the language.
      rw [ha] at hput
      obtain ⟨c, hc, -⟩ := Option.bind_eq_some_iff.1 hput.symm
      exact (Table.contains_iff _ _).2 ⟨c, hc⟩

end Warmed

theorem warmed_analyzerFor (r : Registry) (language : String) :
    Warmed r (r.analyzerFor language).2 := by
  unfold analyzerFor
  simp only
  cases hused : r.analyzers.get? (Text.lowercase language) with
  | some a => exact Warmed.refl r
  | none =>
    cases hreg : (r.languages.get? (Text.lowercase language)).bind (·.analyzer) with
    | none => exact Warmed.refl r
    | some a =>
      refine ⟨rfl, rfl, ?_⟩
      intro name
      simp only [Table.get?_insert]
      by_cases hname : name = Text.lowercase language
      · rw [if_pos hname, hname]
        exact Or.inr ⟨hused, hreg.symm⟩
      · rw [if_neg hname]
        exact Or.inl rfl

theorem warmed_resolve (r : Registry) (language : String) : Warmed r (r.resolve language).2 := by
  have hasked := warmed_analyzerFor r (Text.lowercase language)
  unfold resolve
  simp only
  cases r.registration? (Text.lowercase language) with
  | none => exact Warmed.refl r
  | some config =>
    cases hfor : r.analyzerFor (Text.lowercase language) with
    | mk found r' =>
      rw [hfor] at hasked
      cases found <;> exact hasked

theorem warmed_reviewText (r : Registry) (text language : String) (path : Option String)
    (options : Options) : Warmed r (r.reviewText text language path options).2 := by
  have hasked := warmed_resolve r language
  unfold reviewText
  cases hres : r.resolve language with
  | mk outcome r' =>
    rw [hres] at hasked
    cases outcome <;> exact hasked

theorem warmed_reviewFile (r : Registry) (source : Source) (path : String) (options : Options) :
    Warmed r (r.reviewFile source path options).2 := by
  unfold reviewFile
  cases r.detect? path with
  | none => exact Warmed.refl r
  | some language =>
    have hasked := warmed_resolve r language
    cases hres : r.resolve language with
    | mk outcome r' =>
      rw [hres] at hasked
      cases outcome with
      | error e => simpa only [hres] using hasked
      | ok b => cases hread : source path <;> simpa only [hres, hread] using hasked

theorem warmed_reviewFiles (r : Registry) (source : Source) (paths : List String)
    (options : Options) : Warmed r (r.reviewFiles source paths options).2 := by
  induction paths generalizing r with
  | nil => exact Warmed.refl r
  | cons path paths ih =>
    have hfirst := warmed_reviewFile r source path options
    rw [reviewFiles]
    exact hfirst.trans (ih _)

/-! ### Histories -/

/-- A call that a registry can be asked to perform. -/
inductive Call where
  | register (config : Registration)
  | addExtension (ext language : String)
  | useAnalyzer (language : String) (a : Analyzer)
  | analyzerFor (language : String)
  | resolve (language : String)
  | reviewText (text language : String) (path : Option String) (options : Options)
  | reviewFile (source : Source) (path : String) (options : Options)
  | reviewFiles (source : Source) (paths : List String) (options : Options)

/-- The registry after a call. -/
def perform (r : Registry) : Call → Registry
  | .register config => r.register config
  | .addExtension ext language => (r.addExtension ext language).2
  | .useAnalyzer language a => (r.useAnalyzer language a).2
  | .analyzerFor language => (r.analyzerFor language).2
  | .resolve language => (r.resolve language).2
  | .reviewText text language path options => (r.reviewText text language path options).2
  | .reviewFile source path options => (r.reviewFile source path options).2
  | .reviewFiles source paths options => (r.reviewFiles source paths options).2

/-- The registry after a history of calls. -/
def run (r : Registry) (calls : List Call) : Registry := calls.foldl perform r

/-- Whether a call only asks for languages and reviews. -/
def Call.asks : Call → Bool
  | .register _ | .addExtension _ _ | .useAnalyzer _ _ => false
  | _ => true

/-- A call that only asks puts registered analyzers in use. -/
theorem warmed_perform (r : Registry) {call : Call} (h : call.asks = true) :
    Warmed r (r.perform call) := by
  cases call with
  | register config => cases h
  | addExtension ext language => cases h
  | useAnalyzer language a => cases h
  | analyzerFor language => exact warmed_analyzerFor r language
  | resolve language => exact warmed_resolve r language
  | reviewText text language path options => exact warmed_reviewText r text language path options
  | reviewFile source path options => exact warmed_reviewFile r source path options
  | reviewFiles source paths options => exact warmed_reviewFiles r source paths options

/-- Putting an analyzer in use either fails and leaves the registry as it is, or puts it in use. -/
theorem useAnalyzer_cases (r : Registry) (language : String) (a : Analyzer) :
    (∃ e, r.useAnalyzer language a = (.error e, r)) ∨
      r.languages.contains (Text.lowercase language) = true ∧
        r.useAnalyzer language a
          = (.ok (), { r with analyzers := r.analyzers.insert (Text.lowercase language) a }) := by
  by_cases hreg : r.languages.contains (Text.lowercase language) = true
  · exact .inr ⟨hreg, if_pos hreg⟩
  · exact .inl ⟨_, if_neg hreg⟩

theorem useAnalyzer_consistent {r : Registry} (h : r.Consistent) (language : String)
    (a : Analyzer) : (r.useAnalyzer language a).2.Consistent := by
  obtain ⟨e, hfail⟩ | ⟨hreg, huse⟩ := useAnalyzer_cases r language a
  · rw [hfail]
    exact h
  · rw [huse]
    refine ⟨h.mapped_iff, h.nodup, h.nonempty, h.name_eq, ?_⟩
    intro name hused
    by_cases hname : name = Text.lowercase language
    · rw [hname]
      exact hreg
    · obtain ⟨b, hb⟩ := (Table.contains_iff _ _).1 hused
      rw [Table.get?_insert, if_neg hname] at hb
      exact h.registered name ((Table.contains_iff _ _).2 ⟨b, hb⟩)

/-- One call keeps a registry consistent. -/
theorem perform_consistent {r : Registry} (h : r.Consistent) (call : Call) :
    (r.perform call).Consistent := by
  cases call with
  | register config => exact register_consistent h config
  | addExtension ext language => exact addExtension_consistent h ext language
  | useAnalyzer language a => exact useAnalyzer_consistent h language a
  | _ => exact (warmed_perform r rfl).consistent h

/-- A history of calls keeps a registry consistent. -/
theorem run_consistent {r : Registry} (h : r.Consistent) (calls : List Call) :
    (r.run calls).Consistent := by
  induction calls generalizing r with
  | nil => exact h
  | cons call calls ih => exact ih (perform_consistent h call)

/-- What a history can begin with: nothing registered, or the known languages. -/
inductive Origin where
  | empty
  | builtin
  deriving DecidableEq, Repr

/-- The registry that a history begins with. -/
def Origin.registry : Origin → Registry
  | .empty => Registry.empty
  | .builtin => Registry.builtin

/-- `r` has come out of a history. -/
def Reachable (r : Registry) : Prop :=
  ∃ (origin : Origin) (calls : List Call), r = origin.registry.run calls

theorem reachable_builtin : builtin.Reachable :=
  ⟨.builtin, [], by rw [run, List.foldl_nil, Origin.registry]⟩

/-- The known languages are registered one after the other. -/
theorem builtin_eq_run : builtin
    = empty.run (Language.known.map fun l => .register (Registration.ofAnalyzer l.analyzer)) := by
  rw [builtin, run, List.foldl_map, List.foldl_map]
  rfl

/-- Every history can be taken to begin with nothing. -/
theorem Reachable.exists_run {r : Registry} (h : r.Reachable) : ∃ calls, r = empty.run calls := by
  obtain ⟨origin, calls, rfl⟩ := h
  cases origin with
  | empty => exact ⟨calls, rfl⟩
  | builtin =>
    rw [Origin.registry, builtin_eq_run, run, run, ← List.foldl_append]
    exact ⟨_, rfl⟩

theorem Reachable.consistent {r : Registry} (h : r.Reachable) : r.Consistent := by
  obtain ⟨calls, rfl⟩ := h.exists_run
  exact run_consistent consistent_empty calls

/-- **The two maps of a registry agree after every history**: an extension is mapped to exactly the
registered language that lists it, so no two languages list the same one; every list is without
repetitions and without the empty extension; every registration is kept under its own name; and
every language with an analyzer in use is registered. -/
theorem run_maps_agree (origin : Origin) (calls : List Call) :
    let r := origin.registry.run calls
    (∀ ext language, r.extensions.get? ext = some language ↔
      ∃ c, r.languages.get? language = some c ∧ ext ∈ c.extensions) ∧
    (∀ language c, r.languages.get? language = some c →
      c.extensions.Nodup ∧ "" ∉ c.extensions ∧ c.name = language) ∧
    (∀ ext first second c d, r.languages.get? first = some c → r.languages.get? second = some d →
      ext ∈ c.extensions → ext ∈ d.extensions → first = second) ∧
    (∀ language, r.analyzers.contains language = true → r.languages.contains language = true) := by
  intro r
  have h : r.Consistent := Reachable.consistent ⟨origin, calls, rfl⟩
  refine ⟨h.mapped_iff, ?_, ?_, h.registered⟩
  · intro language c hc
    exact ⟨h.nodup language c hc, h.nonempty language c hc, h.name_eq language c hc⟩
  · intro ext first second c d hc hd hextc hextd
    exact h.eq_of_lists ⟨c, hc, hextc⟩ ⟨d, hd, hextd⟩

end SourceReview.Registry
