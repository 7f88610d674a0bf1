import SourceReview.Proofs.Config.Changes
import SourceReview.Proofs.Registry.Alike
import SourceReview.Proofs.Registry.Outcome

/-!
# A configuration that passes the check never fails later

The thresholds of a configuration are checked when it is read, and those of a request before the
review begins. This is enough: no review finds a threshold out of range that has not been found
before (`Config.validated_config_suffices`).

Thresholds that are in range stay so when they are laid over each other
(`Thresholds.validate_layeredOver`). So the changes of a configuration keep the registered
thresholds in range (`thresholdsValid_applyChanges`), as every later call does that registers no
others (`thresholdsValid_run`), and so are the thresholds that count in the end.
-/

namespace SourceReview

/-! ### Thresholds laid over each other -/

theorem forall_mem_orElse {α : Type} {P : α → Prop} {top base : Option α} (htop : ∀ a ∈ top, P a)
    (hbase : ∀ a ∈ base, P a) : ∀ a ∈ (top <|> base), P a := by
  cases top with
  | none => exact hbase
  | some t => exact htop

theorem Thresholds.validate_layeredOver {top base : Thresholds} (htop : top.validate = .ok ())
    (hbase : base.validate = .ok ()) : (top.layeredOver base).validate = .ok () := by
  rw [validate_eq_ok_iff] at *
  exact ⟨forall_mem_orElse htop.1 hbase.1, forall_mem_orElse htop.2.1 hbase.2.1,
    forall_mem_orElse htop.2.2 hbase.2.2⟩

namespace Options

theorem validate_layeredOver {top base : Options} (htop : top.validate = .ok ())
    (hbase : base.validate = .ok ()) : (top.layeredOver base).validate = .ok () := by
  unfold validate layeredOver at *
  cases ht : top.thresholds with
  | none => exact hbase
  | some t =>
    rw [ht] at htop
    cases hb : base.thresholds with
    | none => exact htop
    | some b =>
      rw [hb] at hbase
      exact Thresholds.validate_layeredOver htop hbase

theorem validate_thresholdsOver {options : Options} {defaults : Thresholds}
    (hoptions : options.validate = .ok ()) (hdefaults : defaults.validate = .ok ()) :
    (options.thresholdsOver defaults).validate = .ok () := by
  unfold validate thresholdsOver at *
  cases ht : options.thresholds with
  | none => exact hdefaults
  | some t =>
    rw [ht] at hoptions
    exact Thresholds.validate_layeredOver hoptions hdefaults

end Options

/-- A text is reviewed if the options and the defaults of the language pass the check. -/
theorem Review.exists_ofText_of_validate {b : Binding} {options : Options}
    (hoptions : options.validate = .ok ()) (hdefaults : b.defaultThresholds.validate = .ok ())
    (path text : String) : ∃ review, ofText b path options text = .ok review := by
  apply exists_ofText_eq_ok
  rw [EffectiveOptions.effective, EffectiveOptions.inRange_ofThresholds_iff]
  exact Options.validate_thresholdsOver hoptions hdefaults

/-! ### Registered thresholds -/

namespace Registry

/-- All registered thresholds pass the check. -/
def ThresholdsValid (r : Registry) : Prop :=
  ∀ language c, r.languages.get? language = some c → c.defaultThresholds.validate = .ok ()

theorem thresholdsValid_empty : empty.ThresholdsValid := by
  intro language c hc
  cases hc

variable {r r' : Registry}

theorem thresholdsValid_register (h : r.Consistent) (hvalid : r.ThresholdsValid)
    {config : Registration} (hconfig : config.defaultThresholds.validate = .ok ()) :
    (r.register config).ThresholdsValid := by
  intro language c hc
  rw [register_languages_get? h] at hc
  split at hc
  · cases hc
    exact hconfig
  · obtain ⟨d, hd, rfl⟩ := Option.map_eq_some_iff.1 hc
    exact hvalid language d hd

theorem thresholdsValid_extended (h : r.Consistent) (hvalid : r.ThresholdsValid)
    (ext name : String) : (r.extended ext name).ThresholdsValid := by
  intro language c hc
  rw [extended_languages_get? h] at hc
  split at hc
  · obtain ⟨d, hd, rfl⟩ := Option.map_eq_some_iff.1 hc
    have hsame : (d.adding ext).defaultThresholds = d.defaultThresholds := by
      unfold Registration.adding
      split <;> rfl
    rw [hsame]
    exact hvalid language d hd
  · obtain ⟨d, hd, rfl⟩ := Option.map_eq_some_iff.1 hc
    exact hvalid language d hd

theorem ThresholdsValid.of_languages_eq (hvalid : r.ThresholdsValid)
    (h : r'.languages = r.languages) : r'.ThresholdsValid := by
  unfold ThresholdsValid
  rw [h]
  exact hvalid

/-- A call keeps the registered thresholds in range, unless it registers others. -/
theorem thresholdsValid_perform (h : r.Consistent) (hvalid : r.ThresholdsValid) {call : Call}
    (hcall : ∀ config, call = .register config → config.defaultThresholds.validate = .ok ()) :
    (r.perform call).ThresholdsValid := by
  cases call with
  | register config => exact thresholdsValid_register h hvalid (hcall config rfl)
  | addExtension ext language =>
    rw [perform]
    obtain ⟨e, hfail⟩ | ⟨-, -, hadd⟩ := addExtension_cases r ext language
    · rw [hfail]
      exact hvalid
    · rw [hadd]
      exact thresholdsValid_extended h hvalid _ _
  | useAnalyzer language a =>
    rw [perform]
    obtain ⟨e, hfail⟩ | ⟨-, huse⟩ := useAnalyzer_cases r language a
    · rw [hfail]
      exact hvalid
    · rw [huse]
      exact hvalid
  | _ => exact hvalid.of_languages_eq (warmed_perform r rfl).languages

/-- A history of calls keeps the registered thresholds in range, if it registers no others. -/
theorem thresholdsValid_run (h : r.Consistent) (hvalid : r.ThresholdsValid) {calls : List Call}
    (hcalls : ∀ config, .register config ∈ calls → config.defaultThresholds.validate = .ok ()) :
    (r.run calls).ThresholdsValid := by
  induction calls generalizing r with
  | nil => exact hvalid
  | cons call calls ih =>
    have hfirst : (r.perform call).ThresholdsValid := by
      apply thresholdsValid_perform h hvalid
      rintro config rfl
      exact hcalls config List.mem_cons_self
    exact ih (perform_consistent h call) hfirst fun config hconfig =>
      hcalls config (List.mem_cons_of_mem _ hconfig)

/-- The thresholds of the known languages are in range. -/
theorem validate_known : ∀ l ∈ Language.known, l.analyzer.thresholds.validate = .ok () := by
  have hfault : ∀ l ∈ Language.known, l.thresholds.fault?.isNone = true := by decide
  intro l hl
  rw [Thresholds.validate_eq_ok_iff_fault?]
  exact Option.isNone_iff_eq_none.1 (hfault l hl)

theorem thresholdsValid_builtin : builtin.ThresholdsValid := by
  rw [builtin_eq_run]
  apply thresholdsValid_run consistent_empty thresholdsValid_empty
  intro config hconfig
  obtain ⟨l, hl, heq⟩ := List.mem_map.1 hconfig
  cases heq
  exact validate_known l hl

end Registry

/-! ### Checked configurations -/

theorem eq_ok_of_mapError_eq_ok {ε ε' α : Type} {x : Except ε α} {f : ε → ε'} {a : α}
    (h : x.mapError f = .ok a) : x = .ok a := by
  cases x with
  | error e => cases h
  | ok b => exact congrArg Except.ok (Except.ok.inj h)

/-- What is done for each element of a list succeeds only if it succeeds for every one. -/
theorem forM_eq_ok {ε α : Type} {l : List α} {f : α → Except ε Unit} (h : l.forM f = .ok ()) :
    ∀ a ∈ l, f a = .ok () := by
  induction l with
  | nil => exact fun a ha => absurd ha List.not_mem_nil
  | cons b l ih =>
    have hcons : (f b >>= fun _ => l.forM f) = .ok () := h
    obtain ⟨u, hb, hrest⟩ := exists_of_bind_eq_ok hcons
    intro a ha
    rcases List.mem_cons.1 ha with rfl | ha
    · exact hb
    · exact ih hrest a ha

/-- Changes that pass the check set no threshold out of range and list no extension of nothing but
blanks. -/
theorem RegistrationChange.checks_of_validate {language : String} {o : RegistrationChange}
    (h : o.validate language = .ok ()) :
    (o.thresholds.getD {}).validate = .ok () ∧
      ∀ ext ∈ o.extensions, Text.trim ext.toList ≠ [] := by
  unfold validate at h
  by_cases hunnamed : (Text.trim language.toList).isEmpty = true
  · rw [if_pos hunnamed] at h
    cases h
  · rw [if_neg hunnamed] at h
    obtain ⟨u, hthresholds, hrest⟩ := exists_of_bind_eq_ok h
    refine ⟨eq_ok_of_mapError_eq_ok hthresholds, ?_⟩
    cases hfind : o.extensions.find? fun e => (Text.trim e.toList).isEmpty with
    | some e =>
      rw [hfind] at hrest
      cases hrest
    | none =>
      intro ext hext
      simpa using List.find?_eq_none.1 hfind ext hext

namespace Config

theorem validate_changes {c : Config} (h : c.validate = .ok ()) :
    ∀ change ∈ c.languages.sorted, change.2.validate change.1 = .ok () := by
  obtain ⟨u, -, hrest⟩ := exists_of_bind_eq_ok h
  obtain ⟨v, hchanges, -⟩ := exists_of_bind_eq_ok hrest
  exact forM_eq_ok hchanges

/-- A configuration that passes the check sets no threshold out of range, neither in its options nor
in its changes. -/
theorem validate_thresholds {c : Config} (h : c.validate = .ok ()) :
    c.options.validate = .ok () ∧
      ∀ change ∈ c.languages.sorted, (change.2.thresholds.getD {}).validate = .ok () := by
  obtain ⟨u, hoptions, -⟩ := exists_of_bind_eq_ok h
  refine ⟨eq_ok_of_mapError_eq_ok hoptions, ?_⟩
  intro change hchange
  exact (RegistrationChange.checks_of_validate (validate_changes h change hchange)).1

variable {r r' : Registry}

theorem thresholdsValid_applyChange (h : r.Consistent) (hvalid : r.ThresholdsValid)
    {change : String × RegistrationChange}
    (hchange : (change.2.thresholds.getD {}).validate = .ok ())
    (happly : applyChange r change = .ok r') : r'.ThresholdsValid := by
  obtain ⟨config, hconfig, rfl⟩ := applyChange_eq_ok_iff.1 happly
  exact Registry.thresholdsValid_register h hvalid
    (Thresholds.validate_layeredOver hchange (hvalid _ config hconfig))

/-- Changes that pass the check keep the registered thresholds in range. -/
theorem thresholdsValid_applyChanges (h : r.Consistent) (hvalid : r.ThresholdsValid)
    {changes : List (String × RegistrationChange)}
    (hchanges : ∀ change ∈ changes, (change.2.thresholds.getD {}).validate = .ok ())
    (happly : changes.foldlM applyChange r = .ok r') : r'.Consistent ∧ r'.ThresholdsValid := by
  induction changes generalizing r with
  | nil =>
    cases happly
    exact ⟨h, hvalid⟩
  | cons change changes ih =>
    rw [List.foldlM_cons] at happly
    obtain ⟨next, hfirst, hrest⟩ := exists_of_bind_eq_ok happly
    have hnext := thresholdsValid_applyChange h hvalid (hchanges change List.mem_cons_self) hfirst
    exact ih (applyChange_consistent h hfirst) hnext
      (fun change hchange => hchanges change (List.mem_cons_of_mem _ hchange)) hrest

end Config

/-! ### Reviews -/

namespace Registry

variable {r : Registry}

/-- A language is found with thresholds that pass the check, or not found for another reason. -/
theorem ThresholdsValid.resolve_cases (hvalid : r.ThresholdsValid) (language : String) :
    (∃ b, (r.resolve language).1 = .ok b ∧ b.defaultThresholds.validate = .ok ()) ∨
      ∃ e, (r.resolve language).1 = .error e ∧ ∀ fault, e ≠ .invalidThreshold fault := by
  rw [resolve_fst]
  cases hconfig : r.registration? (Text.lowercase language) with
  | none => exact Or.inr ⟨_, rfl, fun fault h => by cases h⟩
  | some config =>
    cases (r.analyzerFor (Text.lowercase language)).1 with
    | none => exact Or.inr ⟨_, rfl, fun fault h => by cases h⟩
    | some a => exact Or.inl ⟨_, rfl, hvalid _ config hconfig⟩

variable {options : Options} (hvalid : r.ThresholdsValid) (hoptions : options.validate = .ok ())

include hvalid hoptions

theorem reviewText_ne_invalidThreshold (text language : String) (path : Option String)
    (fault : ThresholdError) :
    (r.reviewText text language path options).1 ≠ .error (.invalidThreshold fault) := by
  rw [reviewText_fst]
  rcases hvalid.resolve_cases language with ⟨b, hb, hthresholds⟩ | ⟨e, he, hne⟩
  · obtain ⟨review, hreview⟩ := Review.exists_ofText_of_validate hoptions hthresholds
      (path.getD (inlineLabel b.name)) text
    rw [hb, Except.bind, hreview]
    simp
  · rw [he]
    intro h
    exact hne fault (Except.error.inj h)

theorem reviewFile_ne_invalidThreshold (source : Source) (path : String) (fault : ThresholdError) :
    (r.reviewFile source path options).1 ≠ .error (.invalidThreshold fault) := by
  rw [reviewFile_fst]
  cases r.detect? path with
  | none => simp
  | some language =>
    rcases hvalid.resolve_cases language with ⟨b, hb, hthresholds⟩ | ⟨e, he, hne⟩
    · simp only [hb, Except.bind]
      cases source path with
      | error reason => simp
      | ok text =>
        obtain ⟨review, hreview⟩ := Review.exists_ofText_of_validate hoptions hthresholds path text
        simp [hreview]
    · simp only [he]
      intro h
      exact hne fault (Except.error.inj h)

end Registry

/-- No review of an engine with these options fails for a threshold. -/
structure Engine.NeverOutOfRange (e : Engine) (options : Options) : Prop where
  reviewFile : ∀ path fault, (e.reviewFile path options).1 ≠ .error (.invalidThreshold fault)
  reviewFileAs : ∀ path language fault,
    (e.reviewFileAs path language options).1 ≠ .error (.invalidThreshold fault)
  reviewText : ∀ text language path fault,
    (e.reviewText text language path options).1 ≠ .error (.invalidThreshold fault)

theorem Engine.neverOutOfRange {e : Engine} {options : Options}
    (hvalid : e.registry.ThresholdsValid) (hdefaults : e.defaults.validate = .ok ())
    (hoptions : options.validate = .ok ()) : e.NeverOutOfRange options := by
  have hlayered := Options.validate_layeredOver hoptions hdefaults
  have htext : ∀ text language path fault,
      (e.reviewText text language path options).1 ≠ .error (.invalidThreshold fault) :=
    Registry.reviewText_ne_invalidThreshold hvalid hlayered
  refine ⟨Registry.reviewFile_ne_invalidThreshold hvalid hlayered e.source, ?_, htext⟩
  intro path language fault
  rw [Engine.reviewFileAs]
  cases e.source path with
  | error reason => simp
  | ok text => exact htext text language (some path) fault

namespace Config

/-- **Checking a configuration once is enough.** Take a registry that has come out of a history and
whose thresholds are in range, as are those of the known languages. Apply a configuration to it that
passes the check and names only registered languages.

* Whatever calls follow, if they register no thresholds out of range, an engine over the registry
  and the options of the configuration never finds a threshold out of range for a caller whose
  options pass the check, be it for files or texts, in any language.
* The same languages are registered as before. Their default rules and each of their default
  thresholds are those of the last change in the order of keys that names the language in any
  spelling and sets them, or else the old ones. -/
theorem validated_config_suffices (r : Registry) (hr : r.Reachable) (hvalid : r.ThresholdsValid)
    (c : Config) (hc : c.validate = .ok ()) (r' : Registry) (happly : c.applyTo r = .ok r') :
    (∀ options : Options, options.validate = .ok () → ∀ calls : List Registry.Call,
      (∀ config, .register config ∈ calls → config.defaultThresholds.validate = .ok ()) →
      ∀ source : Source, Engine.NeverOutOfRange ⟨r'.run calls, source, c.options⟩ options) ∧
    (∀ language,
      Option.Rel (c.Settles language) (r.registration? language) (r'.registration? language)) ∧
    Registry.builtin.ThresholdsValid := by
  obtain ⟨hdefaults, hchanges⟩ := validate_thresholds hc
  obtain ⟨hconsistent, hvalid'⟩ :=
    thresholdsValid_applyChanges hr.consistent hvalid hchanges happly
  refine ⟨?_, applyTo_settles hr.consistent happly, Registry.thresholdsValid_builtin⟩
  intro options hoptions calls hcalls source
  exact Engine.neverOutOfRange (Registry.thresholdsValid_run hconsistent hvalid' hcalls) hdefaults
    hoptions

/-- The statement at the known languages, for a configuration that names one of them in two
spellings. -/
theorem validated_config_suffices_python :
    let first : RegistrationChange :=
      { rules := some [], thresholds := some { complexity := some (.single 12) } }
    let second : RegistrationChange := { rules := some ["eval-usage"], extensions := ["pyx"] }
    let c : Config :=
      { options := { thresholds := some { coverage := some (.single 90) } }
        languages := (({} : Table RegistrationChange).insert "python" second).insert "PYTHON" first
        excludedPaths := ["**/generated/**"] }
    c.validate = .ok () ∧ ∃ r', c.applyTo Registry.builtin = .ok r' ∧
      Engine.NeverOutOfRange ⟨r', fun _ => .ok "x = 1\n", c.options⟩ {} ∧
      Option.Rel (c.Settles "Python") (Registry.builtin.registration? "Python")
        (r'.registration? "Python") := by
  intro first second c
  have hsorted : c.languages.sorted = [("PYTHON", first), ("python", second)] :=
    List.mergeSort_of_pairwise (by decide)
  have hchecked : c.validate.isOk = true := by
    unfold validate
    rw [hsorted]
    decide +kernel
  have happlied : (c.applyTo Registry.builtin).isOk = true := by
    unfold applyTo
    rw [hsorted]
    decide +kernel
  cases hvalidate : c.validate with
  | error e =>
    rw [hvalidate] at hchecked
    cases hchecked
  | ok u =>
    cases happly : c.applyTo Registry.builtin with
    | error e =>
      rw [happly] at happlied
      cases happlied
    | ok r' =>
      obtain ⟨hnever, hsettles, -⟩ := validated_config_suffices Registry.builtin
        Registry.reachable_builtin Registry.thresholdsValid_builtin c hvalidate r' happly
      have hengine := hnever {} rfl [] (by simp) fun _ => .ok "x = 1\n"
      exact ⟨rfl, r', rfl, hengine, hsettles "Python"⟩

end Config

end SourceReview
