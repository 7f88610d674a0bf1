import SourceReview.Proofs.Registry.Run

/-!
# What a registration changes, and what it leaves alone

Registering a language and giving it one more extension both take extensions over: from now on these
belong to the language, and whoever had them before loses them. `registration_effect` says exactly
which extensions change their language and which do not, and that nothing else of any other language
changes. A call that fails changes nothing at all.

The statements about single extensions are those of consistent registries. A file is detected by the
extension of its path in lower case, so they carry over to files.
-/

namespace SourceReview

/-- Only the members of a list count for what is left without it. -/
theorem Registration.without_congr (c : Registration) {exts others : List String}
    (h : ∀ e, e ∈ exts ↔ e ∈ others) : c.without exts = c.without others := by
  unfold without
  congr 1
  apply List.filter_congr
  intro e _
  rw [Bool.eq_iff_iff]
  simp [h e]

namespace Registry

/-! ### Taking extensions over -/

/-- The extensions that a registration claims, in their normal form. -/
def claimedExtensions (config : Registration) : List String :=
  (config.extensions.map normalExtension).filter (· != "")

theorem mem_normalForm_iff (config : Registration) (ext : String) :
    ext ∈ (normalForm config).extensions ↔ ext ∈ claimedExtensions config :=
  List.mem_eraseDups

/-- How the language of an extension or of a file changes when `name` is registered: it becomes
`name` if the registration claims the extension, is lost if it was `name` before, and otherwise
stays. -/
structure Reassigned (name : String) (claimed : Prop) (before after : Option String) : Prop where
  taken : claimed → after = some name
  released : ¬claimed → before = some name → after = none
  kept : ¬claimed → before ≠ some name → after = before

theorem register_reassigned {r : Registry} (h : r.Consistent) (config : Registration)
    (ext : String) :
    Reassigned (Text.lowercase config.name) (ext ∈ claimedExtensions config)
      (r.extensions.get? ext) ((r.register config).extensions.get? ext) := by
  have hget := register_extensions_get? h config ext
  rw [← mem_normalForm_iff]
  constructor
  · intro hclaimed
    rw [hget, if_pos hclaimed]
    rfl
  · intro hnot hbefore
    rw [hget, if_neg hnot, hbefore]
    exact Option.filter_some_neg (bne_self_eq_false _)
  · intro hnot hbefore
    rw [hget, if_neg hnot]
    exact filter_bne_of_ne hbefore

/-- Every other language loses what the registration claims, and nothing else. -/
theorem register_languages_get?_of_ne {r : Registry} (h : r.Consistent) (config : Registration)
    {other : String} (hother : other ≠ Text.lowercase config.name) :
    (r.register config).languages.get? other
      = (r.languages.get? other).map (·.without (claimedExtensions config)) := by
  have hsame : (fun c : Registration => c.without (normalForm config).extensions)
      = fun c => c.without (claimedExtensions config) := by
    funext c
    exact c.without_congr (mem_normalForm_iff config)
  have hname : ¬ other = (normalForm config).name := hother
  rw [register_languages_get? h, if_neg hname, hsame]

/-! ### Detecting files -/

/-- A file is detected by its extension in lower case. -/
theorem detect?_of_extension? (r : Registry) {path ext : String}
    (h : Path.extension? path = some ext) :
    r.detect? path = r.extensions.get? (Text.lowercase ext) := by
  unfold detect?
  rw [h, Option.bind_some]

theorem detect?_reassigned {r : Registry} (h : r.Consistent) (config : Registration)
    {path ext : String} (hpath : Path.extension? path = some ext) :
    Reassigned (Text.lowercase config.name) (Text.lowercase ext ∈ claimedExtensions config)
      (r.detect? path) ((r.register config).detect? path) := by
  rw [detect?_of_extension? _ hpath, detect?_of_extension? _ hpath]
  exact register_reassigned h config (Text.lowercase ext)

/-! ### Calls that succeed and calls that fail -/

/-- One more extension is added if something is left of it and the language is registered. -/
theorem addExtension_eq_ok_iff {r r' : Registry} {ext language : String} :
    r.addExtension ext language = (.ok (), r') ↔
      normalExtension ext ≠ "" ∧ r.languages.contains (Text.lowercase language) = true ∧
        r' = r.extended (normalExtension ext) (Text.lowercase language) := by
  rw [addExtension_eq]
  by_cases hext : normalExtension ext = ""
  · simp [hext]
  · by_cases hreg : r.languages.contains (Text.lowercase language) = true
    · simp [hext, hreg, eq_comm]
    · simp [hext, hreg]

/-- A call that fails gives back the registry that it was made on. -/
theorem addExtension_of_error {r r' : Registry} {ext language : String} {e : ReviewError}
    (h : r.addExtension ext language = (.error e, r')) : r' = r := by
  obtain ⟨e', hfail⟩ | ⟨-, -, hadd⟩ := addExtension_cases r ext language
  · exact (Prod.mk.inj (h.symm.trans hfail)).2
  · cases h.symm.trans hadd

theorem useAnalyzer_of_error {r r' : Registry} {language : String} {a : Analyzer}
    {e : ReviewError} (h : r.useAnalyzer language a = (.error e, r')) : r' = r := by
  obtain ⟨e', hfail⟩ | ⟨-, huse⟩ := useAnalyzer_cases r language a
  · exact (Prod.mk.inj (h.symm.trans hfail)).2
  · cases h.symm.trans huse

/-- **The effect of a registration, and its frame.** In every registry that has come out of a
history:

* registering a language maps the extensions it claims to its name in lower case, releases all
  others that were mapped to it, and leaves the rest of the map as it is; files are detected
  accordingly;
* adding an extension succeeds if something is left of it and the language is registered, and then
  maps that one extension to the language and nothing else;
* both leave to every other language all of its registration, apart from the extensions that are
  taken from it;
* adding an extension and putting an analyzer in use give the registry back unchanged when they
  fail. -/
theorem registration_effect (r : Registry) (hr : r.Reachable) :
    (∀ config : Registration,
      (∀ ext, Reassigned (Text.lowercase config.name) (ext ∈ claimedExtensions config)
        (r.extensions.get? ext) ((r.register config).extensions.get? ext)) ∧
      (∀ path ext, Path.extension? path = some ext →
        Reassigned (Text.lowercase config.name) (Text.lowercase ext ∈ claimedExtensions config)
          (r.detect? path) ((r.register config).detect? path)) ∧
      ∀ other, other ≠ Text.lowercase config.name → (r.register config).languages.get? other
        = (r.languages.get? other).map (·.without (claimedExtensions config))) ∧
    (∀ ext language,
      ((∃ r', r.addExtension ext language = (.ok (), r')) ↔
        normalExtension ext ≠ "" ∧ r.languages.contains (Text.lowercase language) = true) ∧
      (∀ r', r.addExtension ext language = (.ok (), r') →
        (∀ e, r'.extensions.get? e
          = if e = normalExtension ext then some (Text.lowercase language)
            else r.extensions.get? e) ∧
        ∀ other, other ≠ Text.lowercase language → r'.languages.get? other
          = (r.languages.get? other).map (·.without [normalExtension ext])) ∧
      ∀ e r', r.addExtension ext language = (.error e, r') → r' = r) ∧
    ∀ language a e r', r.useAnalyzer language a = (.error e, r') → r' = r := by
  have h : r.Consistent := hr.consistent
  refine ⟨?_, ?_, fun language a e r' => useAnalyzer_of_error⟩
  · intro config
    exact ⟨register_reassigned h config, fun path ext => detect?_reassigned h config,
      fun other => register_languages_get?_of_ne h config⟩
  · intro ext language
    refine ⟨?_, ?_, fun e r' => addExtension_of_error⟩
    · simp only [addExtension_eq_ok_iff, exists_and_left, exists_eq, and_true]
    · intro r' hadd
      obtain ⟨-, -, rfl⟩ := addExtension_eq_ok_iff.1 hadd
      refine ⟨extended_extensions_get? r _ _, ?_⟩
      intro other hother
      rw [extended_languages_get? h, if_neg hother]

/-- The statement at the known languages, when a new language claims an extension of one of them,
and when an extension of nothing but blanks and a dot is refused. -/
theorem registration_effect_cython :
    let config : Registration := { name := "Cython", extensions := ["pyx", ".PY", " "] }
    (builtin.register config).detect? "lib/a.Py" = some "cython" ∧
      (builtin.register config).detect? "a.pyw" = some "python" ∧
      ((builtin.register config).languages.get? "python").map (·.extensions)
        = some ["pyw", "pyi"] ∧
      (builtin.addExtension " . " "python").1 = .error (.invalidExtension " . ") ∧
      (builtin.addExtension " . " "python").2 = builtin := by
  intro config
  have hreachable : builtin.Reachable :=
    ⟨.builtin, [], by rw [run, List.foldl_nil, Origin.registry]⟩
  obtain ⟨hregister, hadd, -⟩ := registration_effect builtin hreachable
  obtain ⟨-, hdetect, hothers⟩ := hregister config
  have hname : Text.lowercase config.name = "cython" := by decide +kernel
  have hclaimed : claimedExtensions config = ["pyx", "py"] := by decide +kernel
  rw [hname, hclaimed] at hdetect hothers
  refine ⟨?_, ?_, ?_, rfl, ?_⟩
  · have hlower : Text.lowercase "Py" = "py" := by decide +kernel
    exact (hdetect "lib/a.Py" "Py" (by decide +kernel)).taken (by simp [hlower])
  · have hlower : Text.lowercase "pyw" = "pyw" := by decide +kernel
    have hbefore : builtin.detect? "a.pyw" = some "python" := by decide +kernel
    rw [← hbefore]
    exact (hdetect "a.pyw" "pyw" (by decide +kernel)).kept (by simp [hlower]) (by simp [hbefore])
  · have hbefore : (builtin.languages.get? "python").map (·.extensions)
        = some ["py", "pyw", "pyi"] := by decide +kernel
    obtain ⟨c, hc, hexts⟩ := Option.map_eq_some_iff.1 hbefore
    rw [hothers "python" (by decide), hc]
    simp [Registration.without, hexts]
  · exact (hadd " . " "python").2.2 (.invalidExtension " . ") _ rfl

end Registry

end SourceReview
