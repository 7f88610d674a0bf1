import Mathlib.Data.List.Induction
import Mathlib.Tactic.ByContra
import SourceReview.Config.Basic
import SourceReview.Proofs.Registry.Consistent
import SourceReview.Proofs.Text.Lowercase

/-!
# What a configuration changes

A configuration changes the registered defaults of languages one after the other, in the order of
the keys that name them. Keys in different spellings can name the same language, so that it is
registered anew several times. `Config.applyTo_settles` says what is left in the end: each default
is the one that the last change sets, among those that name the language and set this default at
all. Changes that set other defaults or name other languages have no part in it.

A single change is described by `defaults_applyChange`. A whole configuration is then a fold over
its changes (`defaults_applyChanges`), which looks at no registry any more, and of which each
default is looked at by itself (`foldl_overDefaults`).
-/

namespace SourceReview

/-- A sequence of steps succeeds only if each of them does. -/
theorem exists_of_bind_eq_ok {ε α β : Type} {x : Except ε α} {f : α → Except ε β} {b : β}
    (h : (x >>= f) = .ok b) : ∃ a, x = .ok a ∧ f a = .ok b := by
  cases x with
  | error e => cases h
  | ok a => exact ⟨a, rfl, h⟩

/-! ### Defaults and their changes -/

/-- The defaults that a language is registered with. -/
structure Defaults where
  rules : List String
  thresholds : Thresholds

def Registration.defaults (c : Registration) : Defaults := ⟨c.defaultRules, c.defaultThresholds⟩

/-- The defaults after a change. -/
def RegistrationChange.overDefaults (o : RegistrationChange) (d : Defaults) : Defaults :=
  ⟨o.rules.getD d.rules, (o.thresholds.getD {}).layeredOver d.thresholds⟩

theorem RegistrationChange.defaults_apply (o : RegistrationChange) (c : Registration) :
    (o.apply c).defaults = o.overDefaults c.defaults := rfl

/-- Registering a language sets its defaults and no others. -/
theorem Registry.defaults_register {r : Registry} (h : r.Consistent) (config : Registration)
    (language : String) :
    ((r.register config).registration? language).map (·.defaults)
      = if Text.lowercase language = Text.lowercase config.name then some config.defaults
        else (r.registration? language).map (·.defaults) := by
  have hname : (normalForm config).name = Text.lowercase config.name := rfl
  unfold registration?
  rw [register_languages_get? h, hname]
  split
  · rfl
  · rw [Option.map_map]
    rfl

namespace Config

variable {r r' : Registry}

theorem applyChange_eq_ok_iff {change : String × RegistrationChange} :
    applyChange r change = .ok r' ↔
      ∃ config, r.registration? change.1 = some config ∧
        r' = r.register (change.2.apply config) := by
  unfold applyChange
  cases r.registration? change.1 with
  | none => simp
  | some config => simp [eq_comm]

/-- A changed registration has the name that it is looked up by. -/
theorem lowercase_name_apply (h : r.Consistent) {change : String × RegistrationChange}
    {config : Registration} (hconfig : r.registration? change.1 = some config) :
    Text.lowercase (change.2.apply config).name = Text.lowercase change.1 := by
  show Text.lowercase config.name = _
  rw [h.name_eq _ config hconfig, Text.lowercase_lowercase]

/-- A change sets defaults of the language that its key names in any spelling. -/
def overDefaults (language : String) (d : Defaults) (change : String × RegistrationChange) :
    Defaults :=
  if Text.lowercase change.1 = Text.lowercase language then change.2.overDefaults d else d

/-- What one change makes of the defaults of a language. -/
theorem defaults_applyChange (h : r.Consistent) {change : String × RegistrationChange}
    (hchange : applyChange r change = .ok r') (language : String) :
    (r'.registration? language).map (·.defaults)
      = (r.registration? language).map fun c => overDefaults language c.defaults change := by
  obtain ⟨config, hconfig, rfl⟩ := applyChange_eq_ok_iff.1 hchange
  rw [Registry.defaults_register h, lowercase_name_apply h hconfig]
  unfold overDefaults
  by_cases hlanguage : Text.lowercase language = Text.lowercase change.1
  · have hsame : r.registration? language = some config := by
      unfold Registry.registration? at hconfig ⊢
      rw [hlanguage, hconfig]
    rw [if_pos hlanguage, hsame, Option.map_some, if_pos hlanguage.symm,
      RegistrationChange.defaults_apply]
  · simp only [if_neg hlanguage, if_neg (Ne.symm hlanguage)]

theorem applyChange_consistent (h : r.Consistent) {change : String × RegistrationChange}
    (hchange : applyChange r change = .ok r') : r'.Consistent := by
  obtain ⟨config, -, rfl⟩ := applyChange_eq_ok_iff.1 hchange
  exact Registry.register_consistent h _

theorem applyTo_consistent (h : r.Consistent) {c : Config} (happly : c.applyTo r = .ok r') :
    r'.Consistent := by
  unfold applyTo at happly
  generalize c.languages.sorted = changes at happly
  induction changes generalizing r with
  | nil =>
    cases happly
    exact h
  | cons change changes ih =>
    rw [List.foldlM_cons] at happly
    obtain ⟨next, hfirst, hrest⟩ := exists_of_bind_eq_ok happly
    exact ih (applyChange_consistent h hfirst) hrest

/-- What many changes make of the defaults of a language. -/
theorem defaults_applyChanges (h : r.Consistent) {changes : List (String × RegistrationChange)}
    (hchanges : changes.foldlM applyChange r = .ok r') (language : String) :
    (r'.registration? language).map (·.defaults)
      = (r.registration? language).map fun c =>
          changes.foldl (overDefaults language) c.defaults := by
  induction changes generalizing r with
  | nil =>
    cases hchanges
    rfl
  | cons change changes ih =>
    rw [List.foldlM_cons] at hchanges
    obtain ⟨next, hfirst, hrest⟩ := exists_of_bind_eq_ok hchanges
    have hnext := congrArg (Option.map fun d => changes.foldl (overDefaults language) d)
      (defaults_applyChange h hfirst language)
    rw [Option.map_map, Option.map_map] at hnext
    rw [ih (applyChange_consistent h hfirst) hrest]
    exact hnext

/-! ### One default by itself -/

variable {α : Type}

/-- What a change sets for a language, if its key names the language in any spelling. -/
def setting? (language : String) (set : RegistrationChange → Option α)
    (change : String × RegistrationChange) : Option α :=
  if Text.lowercase change.1 = Text.lowercase language then set change.2 else none

/-- A default that each change sets or keeps is the one that was set last. -/
theorem foldl_overDefaults {get : Defaults → Option α} {set : RegistrationChange → Option α}
    (hset : ∀ o d, get (o.overDefaults d) = (set o <|> get d)) (language : String)
    (changes : List (String × RegistrationChange)) (d : Defaults) :
    get (changes.foldl (overDefaults language) d)
      = ((changes.filterMap (setting? language set)).getLast? <|> get d) := by
  -- The last change comes last in both, so the induction takes it off first.
  induction changes using List.reverseRecOn with
  | nil => rfl
  | append_singleton changes change ih =>
    rw [List.foldl_append, List.foldl_cons, List.foldl_nil, List.filterMap_append,
      List.getLast?_append, overDefaults]
    by_cases hnames : Text.lowercase change.1 = Text.lowercase language
    · have hsetting : setting? language set change = set change.2 := if_pos hnames
      rw [if_pos hnames, hset, ih]
      cases hvalue : set change.2 with
      | none => simp [hsetting, hvalue]
      | some v => simp [hsetting, hvalue]
    · have hsetting : setting? language set change = none := if_neg hnames
      rw [if_neg hnames, ih]
      simp [hsetting]

/-- The last value of a list of optional values comes from an element after which there are none. -/
theorem exists_of_getLast?_filterMap {β : Type} {f : β → Option α} {l : List β} {v : α}
    (h : (l.filterMap f).getLast? = some v) :
    ∃ before b after, l = before ++ b :: after ∧ f b = some v ∧ ∀ c ∈ after, f c = none := by
  obtain ⟨values, hvalues⟩ := List.getLast?_eq_some_iff.1 h
  obtain ⟨before, rest, rfl, -, hrest⟩ := List.filterMap_eq_append_iff.1 hvalues
  obtain ⟨skipped, b, after, rfl, -, hb, hafter⟩ := List.filterMap_eq_cons_iff.1 hrest
  exact ⟨before ++ skipped, b, after, by simp, hb, List.filterMap_eq_nil_iff.1 hafter⟩

/-! ### What a configuration settles -/

/-- The configuration has changes under a key that names the language in any spelling. -/
def Changes (c : Config) (language key : String) (change : RegistrationChange) : Prop :=
  c.languages.get? key = some change ∧ Text.lowercase key = Text.lowercase language

/-- `after` is what the last change for a language sets, among those that set anything, or else
`before` if none of them does. -/
def SetsLast (c : Config) (language : String) (set : RegistrationChange → Option α)
    (before after : Option α) : Prop :=
  (∃ key change, c.Changes language key change ∧ (set change).isSome = true ∧ after = set change ∧
    ∀ later other, c.Changes language later other → key < later → set other = none) ∨
  (∀ key change, c.Changes language key change → set change = none) ∧ after = before

theorem setsLast_getLast? (c : Config) (language : String) (set : RegistrationChange → Option α)
    (before : Option α) :
    c.SetsLast language set before
      ((c.languages.sorted.filterMap (setting? language set)).getLast? <|> before) := by
  have hsetting : ∀ key change, c.Changes language key change →
      (key, change) ∈ c.languages.sorted ∧ setting? language set (key, change) = set change :=
    fun key change hchange =>
      ⟨(Table.mem_sorted_iff _ _ _).2 hchange.1, if_pos hchange.2⟩
  cases hlast : (c.languages.sorted.filterMap (setting? language set)).getLast? with
  | none =>
    rw [List.getLast?_eq_none_iff, List.filterMap_eq_nil_iff] at hlast
    refine Or.inr ⟨?_, rfl⟩
    intro key change hchange
    obtain ⟨hmem, heq⟩ := hsetting key change hchange
    rw [← heq]
    exact hlast _ hmem
  | some v =>
    obtain ⟨earlier, ⟨key, change⟩, later, hsorted, hv, hlater⟩ :=
      exists_of_getLast?_filterMap hlast
    have hnames : Text.lowercase key = Text.lowercase language := by
      by_contra hnot
      rw [setting?, if_neg hnot] at hv
      cases hv
    have hvalue : set change = some v := by
      rw [setting?, if_pos hnames] at hv
      exact hv
    have hchange : c.Changes language key change := by
      refine ⟨(Table.mem_sorted_iff _ _ _).1 ?_, hnames⟩
      rw [hsorted]
      simp
    refine Or.inl ⟨key, change, hchange, by rw [hvalue, Option.isSome_some], hvalue.symm, ?_⟩
    intro key' other hother hlt
    obtain ⟨hmem, heq⟩ := hsetting key' other hother
    rw [← heq]
    -- A later key stands after this one, since the keys increase.
    have hordered := Table.pairwise_sorted c.languages
    rw [hsorted, List.pairwise_append, List.pairwise_cons] at hordered
    rw [hsorted, List.mem_append, List.mem_cons] at hmem
    rcases hmem with hmem | hmem | hmem
    · have hgt : key' < key := hordered.2.2 _ hmem _ List.mem_cons_self
      exact absurd (String.lt_trans hlt hgt) (String.lt_irrefl key)
    · obtain ⟨rfl, -⟩ := Prod.mk.inj hmem
      exact absurd hlt (String.lt_irrefl _)
    · exact hlater _ hmem

/-- How a configuration changes the defaults of a language. -/
structure Settles (c : Config) (language : String) (before after : Registration) : Prop where
  rules : c.SetsLast language (·.rules) (some before.defaultRules) (some after.defaultRules)
  complexity : c.SetsLast language (·.thresholds.bind (·.complexity))
    before.defaultThresholds.complexity after.defaultThresholds.complexity
  maintainability : c.SetsLast language (·.thresholds.bind (·.maintainability))
    before.defaultThresholds.maintainability after.defaultThresholds.maintainability
  coverage : c.SetsLast language (·.thresholds.bind (·.coverage))
    before.defaultThresholds.coverage after.defaultThresholds.coverage

/-- A default that each change sets or keeps is settled by the last change. -/
theorem setsLast_of_defaults {c : Config} {language : String} {before after : Registration}
    (hafter : after.defaults
      = c.languages.sorted.foldl (overDefaults language) before.defaults)
    (get : Defaults → Option α) {set : RegistrationChange → Option α}
    (hset : ∀ o d, get (o.overDefaults d) = (set o <|> get d)) :
    c.SetsLast language set (get before.defaults) (get after.defaults) := by
  rw [hafter, foldl_overDefaults hset]
  exact c.setsLast_getLast? language set _

/-- The thresholds of a change lie over those of the defaults, metric by metric. -/
theorem threshold_overDefaults {metric : Thresholds → Option α} (hempty : metric {} = none)
    (hmetric : ∀ t b : Thresholds, metric (t.layeredOver b) = (metric t <|> metric b))
    (o : RegistrationChange) (d : Defaults) :
    metric (o.overDefaults d).thresholds = (o.thresholds.bind metric <|> metric d.thresholds) := by
  unfold RegistrationChange.overDefaults
  rw [hmetric]
  cases o.thresholds with
  | none => rw [Option.getD_none, hempty, Option.bind_none]
  | some t => rfl

/-- The languages that are registered stay the same, and the last changes settle their defaults. -/
theorem applyTo_settles (h : r.Consistent) {c : Config} (happly : c.applyTo r = .ok r')
    (language : String) :
    Option.Rel (c.Settles language) (r.registration? language) (r'.registration? language) := by
  have hdefaults := defaults_applyChanges h happly language
  cases hbefore : r.registration? language with
  | none =>
    rw [hbefore, Option.map_none, Option.map_eq_none_iff] at hdefaults
    rw [hdefaults]
    exact Option.Rel.none
  | some before =>
    rw [hbefore, Option.map_some, Option.map_eq_some_iff] at hdefaults
    obtain ⟨after, hafter, hfold⟩ := hdefaults
    rw [hafter]
    refine Option.Rel.some ⟨?_, ?_, ?_, ?_⟩
    · refine setsLast_of_defaults hfold (fun d => some d.rules) ?_
      intro o d
      unfold RegistrationChange.overDefaults
      cases o.rules <;> rfl
    · exact setsLast_of_defaults hfold (fun d => d.thresholds.complexity)
        (threshold_overDefaults rfl fun _ _ => rfl)
    · exact setsLast_of_defaults hfold (fun d => d.thresholds.maintainability)
        (threshold_overDefaults rfl fun _ _ => rfl)
    · exact setsLast_of_defaults hfold (fun d => d.thresholds.coverage)
        (threshold_overDefaults rfl fun _ _ => rfl)

end Config

end SourceReview
