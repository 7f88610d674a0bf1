import SourceReview.Proofs.Registry.Outcome

/-!
# The ways into a review

A file can be reviewed by its path, by its path in a given language, or by its text in a given
language. The language is looked up, the text read and the options laid over each other in a
different order each time. If the language is the one of the file and the text the one that the
source has for it, the three do the same (`entry_points_agree`): they come out alike, and they leave
the engine alike.
-/

namespace SourceReview

namespace Registry

/-- A language is looked up by its name in lower case. -/
theorem resolve_congr (r : Registry) {language other : String}
    (h : Text.lowercase other = Text.lowercase language) :
    r.resolve other = r.resolve language := by
  unfold resolve
  rw [h]

/-- The language that is detected for a file is spelled in lower case. -/
theorem Reachable.lowercase_of_detect? {r : Registry} (hr : r.Reachable) {path language : String}
    (h : r.detect? path = some language) : Text.lowercase language = language := by
  obtain ⟨c, hc⟩ := (detect?_eq_some_iff hr.consistent).1 h
  exact hr.lowercase_eq hc.1

/-- Reviewing a file that has a language and a text is reviewing the text in the language, with the
path as its label. -/
theorem reviewFile_eq_reviewText {r : Registry} {source : Source} {path language text : String}
    (hdetect : r.detect? path = some language) (hread : source path = .ok text)
    (options : Options) :
    r.reviewFile source path options = r.reviewText text language (some path) options := by
  unfold reviewFile reviewText
  rw [hdetect]
  simp only
  cases r.resolve language with
  | mk resolved r' =>
    cases resolved with
    | error e => rfl
    | ok b =>
      simp only [hread]
      rfl

end Registry

namespace Engine

/-- **The ways into a review agree.** In every registry that has come out of a history, let a file
be of a language by its extension, and let the source have a text for it. Reviewing the file,
reviewing it in the language by any of its spellings, and reviewing the text in the language under
the path of the file have the same outcome, be it a review or a failure, and leave the same engine
behind. -/
theorem entry_points_agree (e : Engine) (hr : e.registry.Reachable) (options : Options)
    (path language spelling text : String) (hdetect : e.registry.detect? path = some language)
    (hspelling : Text.lowercase spelling = language) (hread : e.source path = .ok text) :
    e.reviewFileAs path spelling options = e.reviewFile path options ∧
      e.reviewText text spelling (some path) options = e.reviewFile path options := by
  have hlower : Text.lowercase spelling = Text.lowercase language := by
    rw [hspelling, hr.lowercase_of_detect? hdetect]
  have htext : e.reviewText text spelling (some path) options = e.reviewFile path options := by
    unfold reviewText reviewFile
    rw [Registry.reviewFile_eq_reviewText hdetect hread]
    unfold Registry.reviewText
    rw [e.registry.resolve_congr hlower]
  refine ⟨?_, htext⟩
  unfold reviewFileAs
  rw [hread]
  exact htext

/-- The statement at the known languages, with an extension and a language in other spellings than
the registered ones. -/
theorem entry_points_agree_spelling :
    let e : Engine := ⟨Registry.builtin, fun _ => .ok "eval(x)\n", { rules := some ["eval-usage"] }⟩
    e.registry.detect? "lib/a.PY" = some "python" ∧ Text.lowercase "PyThon" = "python" ∧
      e.source "lib/a.PY" = .ok "eval(x)\n" ∧
      e.reviewFileAs "lib/a.PY" "PyThon" {} = e.reviewFile "lib/a.PY" {} ∧
      e.reviewText "eval(x)\n" "PyThon" (some "lib/a.PY") {} = e.reviewFile "lib/a.PY" {} := by
  intro e
  have hreachable : e.registry.Reachable := Registry.reachable_builtin
  have hdetect : e.registry.detect? "lib/a.PY" = some "python" := by decide +kernel
  have hspelling : Text.lowercase "PyThon" = "python" := by decide +kernel
  have hread : e.source "lib/a.PY" = .ok "eval(x)\n" := rfl
  exact ⟨hdetect, hspelling, hread,
    entry_points_agree e hreachable {} "lib/a.PY" "python" "PyThon" _ hdetect hspelling hread⟩

end Engine

end SourceReview
