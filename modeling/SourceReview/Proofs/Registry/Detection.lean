import SourceReview.Proofs.Registry.Effect
import SourceReview.Proofs.Text.CaseForm
import SourceReview.Proofs.Text.Path

/-!
# Detecting files by an added extension

An extension is added in the form that `normalExtension` gives it, which may hold dots and slashes;
a file is detected by what follows the last dot of its name, which holds neither. Lowering a text
keeps both marks as they are. So an added extension is found in every file name that ends with it,
in whatever case, if it holds neither mark; otherwise adding it changes the detection of no path
(`added_extension_detected`).
-/

namespace SourceReview.Registry

theorem isMark_dot : Text.IsMark '.' := ⟨by decide, by decide⟩

theorem isMark_slash : Text.IsMark '/' := ⟨by decide, by decide⟩

variable {r r' : Registry} {ext language : String}

/-- After an extension is added, the files with it are of its language, and all others are detected
as before. -/
theorem detect?_of_addExtension (h : r.addExtension ext language = (.ok (), r'))
    {path found : String} (hpath : Path.extension? path = some found) :
    r'.detect? path
      = if Text.lowercase found = normalExtension ext then some (Text.lowercase language)
        else r.detect? path := by
  obtain ⟨-, -, rfl⟩ := addExtension_eq_ok_iff.1 h
  rw [detect?_of_extension? _ hpath, detect?_of_extension? _ hpath, extended_extensions_get?]

/-- An added extension with neither a dot nor a slash is detected in every name that consists of a
stem, a dot and the extension in some case. One with a dot or a slash is accepted as well, but
changes the detection of no path. -/
theorem added_extension_detected (h : r.addExtension ext language = (.ok (), r')) :
    ('.' ∉ (normalExtension ext).toList → '/' ∉ (normalExtension ext).toList →
      ∀ stem form : String, stem ≠ "" → '/' ∉ stem.toList →
        Text.lowercase form = normalExtension ext →
          r'.detect? (stem ++ "." ++ form) = some (Text.lowercase language)) ∧
    ('.' ∈ (normalExtension ext).toList ∨ '/' ∈ (normalExtension ext).toList →
      ∀ path, r'.detect? path = r.detect? path) := by
  obtain ⟨hnormal, -, -⟩ := addExtension_eq_ok_iff.1 h
  constructor
  · intro hdot hslash stem form hstem hplain hform
    rw [← hform, isMark_dot.mem_lowercase_iff] at hdot
    rw [← hform, isMark_slash.mem_lowercase_iff] at hslash
    have hne : form ≠ "" := by
      rintro rfl
      exact hnormal (hform.symm.trans rfl)
    rw [detect?_of_addExtension h (Path.extension?_append hstem hne hplain hslash hdot),
      if_pos hform]
  · intro hmark path
    cases hpath : Path.extension? path with
    | none => rw [detect?, detect?, hpath, Option.bind_none, Option.bind_none]
    | some found =>
      obtain ⟨hdot, hslash⟩ := Path.not_mem_of_extension? hpath
      rw [← isMark_dot.mem_lowercase_iff] at hdot
      rw [← isMark_slash.mem_lowercase_iff] at hslash
      -- What is looked up for a path holds neither mark, so it is not what was added.
      have hother : Text.lowercase found ≠ normalExtension ext := by
        intro heq
        rw [heq] at hdot hslash
        exact hmark.elim hdot hslash
      rw [detect?_of_addExtension h hpath, if_neg hother]

theorem addExtension_builtin (ext : String) (h : normalExtension ext ≠ "") :
    builtin.addExtension ext "Python"
      = (.ok (), builtin.extended (normalExtension ext) "python") := by
  have hname : Text.lowercase "Python" = "python" := by decide
  rw [addExtension_eq_ok_iff, hname]
  exact ⟨h, by decide, rfl⟩

/-- The statement at an extension with a leading dot and blanks, which a file has in another case,
and at one of two parts. -/
theorem added_extension_detected_python :
    (∃ r', builtin.addExtension " .PyX " "Python" = (.ok (), r') ∧
      r'.detect? "fast..pYx" = some "python") ∧
    ∃ r', builtin.addExtension "test.js" "Python" = (.ok (), r') ∧
      r'.detect? "a.test.js" = some "javascript" := by
  have hlower : Text.lowercase "Python" = "python" := by decide
  constructor
  · have hadd := addExtension_builtin " .PyX " (by decide)
    refine ⟨_, hadd, ?_⟩
    have hdetect := (added_extension_detected hadd).1 (by decide) (by decide +kernel)
      "fast." "pYx" (by decide) (by decide) (by decide)
    rwa [hlower] at hdetect
  · have hadd := addExtension_builtin "test.js" (by decide)
    refine ⟨_, hadd, ?_⟩
    rw [(added_extension_detected hadd).2 (by decide)]
    decide

/-- An extension of two parts is accepted, and no file is detected by it. -/
theorem added_extension_undetected :
    ∃ r', builtin.addExtension "tar.gz" "Python" = (.ok (), r') ∧ r'.detect? "a.tar.gz" = none := by
  have hadd := addExtension_builtin "tar.gz" (by decide)
  refine ⟨_, hadd, ?_⟩
  have hpath : Path.extension? "a.tar.gz" = some "gz" := by decide
  rw [detect?_of_addExtension hadd hpath, if_neg (by decide)]
  decide

end SourceReview.Registry
