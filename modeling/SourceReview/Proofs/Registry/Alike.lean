import SourceReview.Proofs.Registry.Outcome

/-!
# Registries that answer alike

Asking for a language puts its analyzer in use, so a registry is not the same after a review. Nobody
can tell, though: the analyzer in use is the one that would have been taken anyway. `Registry.Alike`
says that two registries have the same registrations and extensions and the same standing analyzers.
Registries that are alike stay alike whatever both are asked to do (`Alike.run`), and they give the
same answers (`Alike.answers_eq`).
-/

namespace SourceReview.Registry

/-! ### Registrations do not depend on analyzers -/

/-- The same registrations and the same extensions. -/
structure SameMaps (r r' : Registry) : Prop where
  languages : r'.languages = r.languages
  extensions : r'.extensions = r.extensions

namespace SameMaps

variable {r r' : Registry} (h : SameMaps r r')

include h

theorem assign (ext language : String) :
    SameMaps (r.assign ext language) (r'.assign ext language) := by
  unfold Registry.assign
  rw [h.languages, h.extensions]
  exact ⟨rfl, rfl⟩

theorem foldl_assign (exts : List String) (language : String) :
    SameMaps (exts.foldl (Registry.assign · · language) r)
      (exts.foldl (Registry.assign · · language) r') := by
  induction exts generalizing r r' with
  | nil => exact h
  | cons ext exts ih => exact ih (h.assign ext language)

theorem remove (language : String) : SameMaps (r.remove language) (r'.remove language) := by
  unfold Registry.remove
  rw [h.languages]
  split
  · exact ⟨rfl, by rw [h.extensions]⟩
  · exact h

theorem register (config : Registration) : SameMaps (r.register config) (r'.register config) := by
  have hassigned := (h.remove (normalForm config).name).foldl_assign
    (normalForm config).extensions (normalForm config).name
  unfold Registry.register
  refine ⟨?_, hassigned.extensions⟩
  simp only [hassigned.languages]

theorem extended (ext language : String) :
    SameMaps (r.extended ext language) (r'.extended ext language) := by
  have hassigned := h.assign ext language
  unfold Registry.extended
  refine ⟨?_, hassigned.extensions⟩
  simp only [hassigned.languages]

theorem useAnalyzer (language : String) (a : Analyzer) :
    SameMaps (r.perform (.useAnalyzer language a)) (r'.perform (.useAnalyzer language a)) := by
  unfold perform Registry.useAnalyzer
  simp only [h.languages]
  split
  · exact ⟨rfl, h.extensions⟩
  · exact h

theorem of_warmed {s s' : Registry} (hs : Warmed r s) (hs' : Warmed r' s') : SameMaps s s' := by
  constructor
  · rw [hs.languages, hs'.languages, h.languages]
  · rw [hs.extensions, hs'.extensions, h.extensions]

/-- What a call makes of the registrations and extensions does not depend on analyzers. -/
theorem perform (call : Call) : SameMaps (r.perform call) (r'.perform call) := by
  cases call with
  | register config => exact h.register config
  | addExtension ext language =>
    simp only [Registry.perform, addExtension_eq, h.languages]
    split
    · exact h
    · split
      · exact h.extended _ _
      · exact h
  | useAnalyzer language a => exact h.useAnalyzer language a
  | _ => exact h.of_warmed (warmed_perform r rfl) (warmed_perform r' rfl)

end SameMaps

/-! ### Registries that are alike -/

/-- Two consistent registries that differ at most in which of their analyzers are in use already. -/
structure Alike (r r' : Registry) : Prop extends SameMaps r r' where
  left : r.Consistent
  right : r'.Consistent
  standing : ∀ language, r'.standing? language = r.standing? language

theorem Warmed.alike {r r' : Registry} (h : Warmed r r') (hr : r.Consistent) : Alike r r' where
  languages := h.languages
  extensions := h.extensions
  left := hr
  right := h.consistent hr
  standing language := h.standing?_eq language

namespace Alike

variable {r r' : Registry} (h : Alike r r')

include h

/-- Registries that are alike stay alike after a call. -/
theorem perform (call : Call) : Alike (r.perform call) (r'.perform call) where
  toSameMaps := h.toSameMaps.perform call
  left := perform_consistent h.left call
  right := perform_consistent h.right call
  standing language := by
    rw [standing?_perform h.left, standing?_perform h.right, h.standing]

/-- Registries that are alike stay alike after a history of calls. -/
theorem run (calls : List Call) : Alike (r.run calls) (r'.run calls) := by
  induction calls generalizing r r' with
  | nil => exact h
  | cons call calls ih => exact ih (h.perform call)

theorem registration?_eq (language : String) :
    r'.registration? language = r.registration? language := by
  unfold registration?
  rw [h.languages]

theorem detect?_eq (path : String) : r'.detect? path = r.detect? path := by
  unfold detect?
  rw [h.extensions]

theorem analyzerFor_fst_eq (language : String) :
    (r'.analyzerFor language).1 = (r.analyzerFor language).1 := by
  rw [analyzerFor_fst h.left, analyzerFor_fst h.right, h.standing]

theorem resolve_fst_eq (language : String) : (r'.resolve language).1 = (r.resolve language).1 := by
  rw [resolve_fst, resolve_fst, h.registration?_eq, h.analyzerFor_fst_eq]

theorem reviewText_fst_eq (text language : String) (path : Option String) (options : Options) :
    (r'.reviewText text language path options).1 = (r.reviewText text language path options).1 := by
  rw [reviewText_fst, reviewText_fst, h.resolve_fst_eq]

theorem reviewFile_fst_eq (source : Source) (path : String) (options : Options) :
    (r'.reviewFile source path options).1 = (r.reviewFile source path options).1 := by
  simp only [reviewFile_fst, h.detect?_eq, h.resolve_fst_eq]

end Alike

/-! ### Many files -/

theorem alike_reviewFile {r : Registry} (h : r.Consistent) (source : Source) (path : String)
    (options : Options) : Alike r (r.reviewFile source path options).2 :=
  (warmed_reviewFile r source path options).alike h

/-- Many files are reviewed as if each were the first. -/
theorem reviewFiles_fst {r : Registry} (h : r.Consistent) (source : Source) (paths : List String)
    (options : Options) :
    (r.reviewFiles source paths options).1
      = paths.filterMap fun path => (r.reviewFile source path options).1.toOption := by
  induction paths generalizing r with
  | nil => rfl
  | cons path paths ih =>
    have halike := alike_reviewFile h source path options
    -- The files after the first one are reviewed in a registry that is like the initial one.
    have htail : ((r.reviewFile source path options).2.reviewFiles source paths options).1
        = paths.filterMap fun path => (r.reviewFile source path options).1.toOption := by
      rw [ih halike.right]
      simp only [halike.reviewFile_fst_eq]
    rw [reviewFiles]
    show (r.reviewFile source path options).1.toOption.toList ++ _ = _
    rw [htail, List.filterMap_cons]
    cases (r.reviewFile source path options).1.toOption <;> rfl

theorem Alike.reviewFiles_fst_eq {r r' : Registry} (h : Alike r r') (source : Source)
    (paths : List String) (options : Options) :
    (r'.reviewFiles source paths options).1 = (r.reviewFiles source paths options).1 := by
  rw [reviewFiles_fst h.left, reviewFiles_fst h.right]
  simp only [h.reviewFile_fst_eq]

/-! ### Answers -/

/-- All that a registry can be asked. -/
structure Answers where
  languageNames : List String
  extensionPairs : List (String × String)
  registration? : String → Option Registration
  detect? : String → Option String
  analyzerFor : String → Option Analyzer
  resolve : String → Except ReviewError Binding
  reviewText : String → String → Option String → Options → Except ReviewError Review
  reviewFile : Source → String → Options → Except ReviewError Review
  reviewFiles : Source → List String → Options → List Review

/-- The answers of a registry, each to a question that is asked first. -/
def answers (r : Registry) : Answers where
  languageNames := r.languageNames
  extensionPairs := r.extensionPairs
  registration? := r.registration?
  detect? := r.detect?
  analyzerFor language := (r.analyzerFor language).1
  resolve language := (r.resolve language).1
  reviewText text language path options := (r.reviewText text language path options).1
  reviewFile source path options := (r.reviewFile source path options).1
  reviewFiles source paths options := (r.reviewFiles source paths options).1

/-- Registries that are alike give the same answers. -/
theorem Alike.answers_eq {r r' : Registry} (h : Alike r r') : r'.answers = r.answers := by
  have hregistration : r'.registration? = r.registration? := funext h.registration?_eq
  have hdetect : r'.detect? = r.detect? := funext h.detect?_eq
  simp only [answers, languageNames, extensionPairs, h.languages, h.extensions, hregistration,
    hdetect, h.analyzerFor_fst_eq, h.resolve_fst_eq, h.reviewText_fst_eq, h.reviewFile_fst_eq,
    h.reviewFiles_fst_eq]

end SourceReview.Registry
