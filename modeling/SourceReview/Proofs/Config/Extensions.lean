import SourceReview.Proofs.Config.Validation
import SourceReview.Proofs.Registry.Spelling

/-!
# Extensions that a configuration lists

A configuration lists extensions beside the registered ones of a language. They are registered with
the language, one change after the other, and the last change that lists an extension decides whose
it is (`Config.extensions_applyChanges`).

Two things can come between. The check of a configuration passes an extension of nothing but dots,
of which nothing is left to register. And a language that is registered anew has its extensions
spelled anew, which changes those that begin with a blank. Where the latter cannot happen
(`Config.StableSpelling`), `Config.listed_extension_kept_iff` says that the dots are the only loss.
-/

namespace SourceReview

namespace Registry

/-- The empty extension has no language. -/
theorem Consistent.get?_empty_extension {r : Registry} (h : r.Consistent) :
    r.extensions.get? "" = none := by
  rw [Option.eq_none_iff_forall_ne_some]
  intro language hmapped
  obtain ⟨c, hc, hmem⟩ := (h.mapped_iff "" language).1 hmapped
  exact h.nonempty language c hc hmem

/-- The extensions of a language are spelled as they would be if it was registered anew. -/
def Steady (r : Registry) (language : String) : Prop :=
  ∀ ext, r.extensions.get? ext = some language → normalExtension ext = ext

end Registry

namespace Config

open Registry (normalExtension beginsBlank claimedExtensions)

/-- The extensions that a change lists, in their normal form. -/
def listed (change : String × RegistrationChange) : List String :=
  (change.2.extensions.map normalExtension).filter (· != "")

/-! ### One change -/

variable {r r' : Registry}

/-- A language that is registered anew claims what it has and what the change lists. -/
theorem mem_claimedExtensions_apply (h : r.Consistent) {change : String × RegistrationChange}
    {config : Registration} (hconfig : r.registration? change.1 = some config)
    (hsteady : r.Steady (Text.lowercase change.1)) (ext : String) :
    ext ∈ claimedExtensions (change.2.apply config) ↔
      r.extensions.get? ext = some (Text.lowercase change.1) ∨ ext ∈ listed change := by
  have hclaimed : claimedExtensions (change.2.apply config)
      = claimedExtensions config ++ listed change := by
    unfold claimedExtensions listed RegistrationChange.apply
    rw [List.map_append, List.filter_append]
  have hmapped : ∀ e ∈ config.extensions,
      r.extensions.get? e = some (Text.lowercase change.1) :=
    fun e he => (h.mapped_iff e _).2 ⟨config, hconfig, he⟩
  have hown : ext ∈ claimedExtensions config ↔
      r.extensions.get? ext = some (Text.lowercase change.1) := by
    unfold claimedExtensions
    rw [List.mem_filter, List.mem_map]
    constructor
    · rintro ⟨⟨e, he, rfl⟩, -⟩
      rw [hsteady e (hmapped e he)]
      exact hmapped e he
    · intro hext
      obtain ⟨c, hc, hmem⟩ := (h.mapped_iff ext _).1 hext
      cases hconfig.symm.trans hc
      refine ⟨⟨ext, hmem, hsteady ext hext⟩, bne_iff_ne.2 ?_⟩
      rintro rfl
      exact h.nonempty _ config hconfig hmem
  rw [hclaimed, List.mem_append, hown]

/-- A change gives the extensions that it lists to the language of its key, and touches no other. -/
theorem extensions_applyChange (h : r.Consistent) {change : String × RegistrationChange}
    (hsteady : r.Steady (Text.lowercase change.1)) (hchange : applyChange r change = .ok r')
    (ext : String) :
    r'.extensions.get? ext
      = if ext ∈ listed change then some (Text.lowercase change.1) else r.extensions.get? ext := by
  obtain ⟨config, hconfig, rfl⟩ := applyChange_eq_ok_iff.1 hchange
  have heffect := Registry.register_reassigned h (change.2.apply config) ext
  rw [lowercase_name_apply h hconfig, mem_claimedExtensions_apply h hconfig hsteady] at heffect
  split
  · rename_i hlisted
    exact heffect.taken (Or.inr hlisted)
  · rename_i hlisted
    by_cases hbefore : r.extensions.get? ext = some (Text.lowercase change.1)
    · -- The language claims again what it has.
      rw [heffect.taken (Or.inl hbefore), hbefore]
    · exact heffect.kept (not_or.2 ⟨hbefore, hlisted⟩) hbefore

theorem steady_applyChange (h : r.Consistent) {change : String × RegistrationChange}
    (hsteady : r.Steady (Text.lowercase change.1)) (hchange : applyChange r change = .ok r')
    {language : String} (hlanguage : r.Steady language)
    (hlisted : Text.lowercase change.1 = language → ∀ ext ∈ listed change,
      normalExtension ext = ext) : r'.Steady language := by
  intro ext hext
  rw [extensions_applyChange h hsteady hchange] at hext
  split at hext
  · rename_i hmem
    exact hlisted (Option.some.inj hext) ext hmem
  · exact hlanguage ext hext

/-! ### Many changes -/

/-- The language that a change gives an extension to, if it lists the extension. -/
def claimant? (ext : String) (change : String × RegistrationChange) : Option String :=
  if ext ∈ listed change then some (Text.lowercase change.1) else none

/-- An extension belongs to the language of the last change that lists it. -/
theorem extensions_applyChanges (h : r.Consistent) {changes : List (String × RegistrationChange)}
    (hsteady : ∀ change ∈ changes, r.Steady (Text.lowercase change.1))
    (hlisted : changes.Pairwise fun earlier later =>
      Text.lowercase earlier.1 = Text.lowercase later.1 →
        ∀ ext ∈ listed earlier, normalExtension ext = ext)
    (hchanges : changes.foldlM applyChange r = .ok r') (ext : String) :
    r'.extensions.get? ext
      = ((changes.filterMap (claimant? ext)).getLast? <|> r.extensions.get? ext) := by
  induction changes generalizing r with
  | nil =>
    cases hchanges
    rfl
  | cons change changes ih =>
    rw [List.foldlM_cons] at hchanges
    obtain ⟨next, hfirst, hrest⟩ := exists_of_bind_eq_ok hchanges
    rw [List.pairwise_cons] at hlisted
    -- Only the languages that are still to be registered anew have to be steady.
    have hown := hsteady change List.mem_cons_self
    have hnext : ∀ later ∈ changes, next.Steady (Text.lowercase later.1) := fun later hlater =>
      steady_applyChange h hown hfirst (hsteady later (List.mem_cons_of_mem _ hlater))
        (hlisted.1 later hlater)
    rw [ih (applyChange_consistent h hfirst) hnext hlisted.2 hrest,
      extensions_applyChange h hown hfirst, List.filterMap_cons, claimant?]
    split
    · rw [List.getLast?_cons]
      cases (changes.filterMap (claimant? ext)).getLast? <;> rfl
    · rfl

/-! ### A whole configuration -/

/-- When the languages of a configuration are registered anew, no extension is spelled anew: none
begins with a blank, among those that the languages have and among those that one key lists before
another key names the same language. -/
structure StableSpelling (c : Config) (r : Registry) : Prop where
  registered : ∀ key change ext, c.languages.get? key = some change →
    r.extensions.get? ext = some (Text.lowercase key) → beginsBlank ext = false
  listed : ∀ key later change other ext, c.languages.get? key = some change →
    c.languages.get? later = some other → key < later →
    Text.lowercase key = Text.lowercase later → ext ∈ change.extensions →
    beginsBlank (normalExtension ext) = false

/-- In the registry `r'` the extension that is listed under `key` belongs to the language of the
key, or to that of a later key under which it is listed too. -/
def Keeps (c : Config) (r' : Registry) (key ext : String) : Prop :=
  ∃ later change, key ≤ later ∧ c.languages.get? later = some change ∧
    normalExtension ext ∈ change.extensions.map normalExtension ∧
    (normalExtension ext, Text.lowercase later) ∈ r'.extensionPairs

theorem extensions_applyTo (hr : r.Reachable) {c : Config} (hspelling : c.StableSpelling r)
    (happly : c.applyTo r = .ok r') (ext : String) :
    r'.extensions.get? ext
      = ((c.languages.sorted.filterMap (claimant? ext)).getLast? <|> r.extensions.get? ext) := by
  apply extensions_applyChanges hr.consistent ?_ ?_ happly
  · rintro ⟨key, change⟩ hmem e he
    obtain ⟨given, hgiven⟩ := hr.normalForms e _ he
    exact Registry.normalExtension_eq_self hgiven
      (hspelling.registered key change e ((Table.mem_sorted_iff _ _ _).1 hmem) he)
  · apply (Table.pairwise_sorted c.languages).imp_of_mem
    rintro ⟨key, change⟩ ⟨later, other⟩ hkey hlater hlt hsame e he
    obtain ⟨given, hmem, hgiven⟩ := List.mem_map.1 (List.mem_filter.1 he).1
    apply Registry.normalExtension_eq_self hgiven
    rw [← hgiven]
    exact hspelling.listed key later change other given ((Table.mem_sorted_iff _ _ _).1 hkey)
      ((Table.mem_sorted_iff _ _ _).1 hlater) hlt hsame hmem

/-- An extension of which something is left is kept. -/
theorem keeps_of_normalExtension_ne (hr : r.Reachable) {c : Config}
    (hspelling : c.StableSpelling r) (happly : c.applyTo r = .ok r') {key ext : String}
    {change : RegistrationChange} (hchange : c.languages.get? key = some change)
    (hext : ext ∈ change.extensions) (hne : normalExtension ext ≠ "") : c.Keeps r' key ext := by
  have hlisted : normalExtension ext ∈ listed (key, change) :=
    List.mem_filter.2 ⟨List.mem_map_of_mem hext, bne_iff_ne.2 hne⟩
  have hclaims : claimant? (normalExtension ext) (key, change) = some (Text.lowercase key) :=
    if_pos hlisted
  have hmem := (Table.mem_sorted_iff c.languages key change).2 hchange
  have hget := extensions_applyTo hr hspelling happly (normalExtension ext)
  cases hlast : (c.languages.sorted.filterMap (claimant? (normalExtension ext))).getLast? with
  | none =>
    rw [List.getLast?_eq_none_iff, List.filterMap_eq_nil_iff] at hlast
    cases hclaims.symm.trans (hlast _ hmem)
  | some language =>
    obtain ⟨before, ⟨later, other⟩, after, hsorted, hlater, hafter⟩ :=
      exists_of_getLast?_filterMap hlast
    rw [hlast] at hget
    unfold claimant? at hlater
    split at hlater
    · rename_i hother
      cases hlater
      refine ⟨later, other, ?_, ?_, (List.mem_filter.1 hother).1,
        (Table.mem_sorted_iff _ _ _).2 hget⟩
      · -- No change after that of `later` lists the extension, so `key` is not among them.
        have hordered := Table.pairwise_sorted c.languages
        rw [hsorted, List.pairwise_append] at hordered
        rw [hsorted, List.mem_append, List.mem_cons] at hmem
        rcases hmem with hmem | hmem | hmem
        · exact Std.le_of_lt (hordered.2.2 _ hmem _ List.mem_cons_self)
        · cases hmem
          exact String.le_refl key
        · cases hclaims.symm.trans (hafter _ hmem)
      · apply (Table.mem_sorted_iff _ _ _).1
        rw [hsorted]
        simp
    · cases hlater

theorem not_keeps_of_get?_eq_none (c : Config) (key : String) {ext : String}
    (hlost : r'.extensions.get? (normalExtension ext) = none) : ¬ c.Keeps r' key ext := by
  rintro ⟨later, change, -, -, -, hpair⟩
  cases hlost.symm.trans ((Table.mem_sorted_iff _ _ _).1 hpair)

/-- **Which listed extensions take effect.** Take a registry that has come out of a history, and a
configuration that passes the check, names only registered languages, and respells no extension when
they are registered anew. An extension that it lists is kept, for the language of its key or that of
a later key under which it is listed too, exactly if it is something else than dots with blanks
around them. -/
theorem listed_extension_kept_iff (r : Registry) (hr : r.Reachable) (c : Config)
    (hvalid : c.validate = .ok ()) (hspelling : c.StableSpelling r) (r' : Registry)
    (happly : c.applyTo r = .ok r') (key : String) (change : RegistrationChange)
    (hchange : c.languages.get? key = some change) (ext : String) (hext : ext ∈ change.extensions) :
    c.Keeps r' key ext ↔ ¬ ∃ n, Text.trim ext.toList = List.replicate (n + 1) '.' := by
  have hnotblank : Text.trim ext.toList ≠ [] := by
    have hchecked := validate_changes hvalid _ ((Table.mem_sorted_iff _ key change).2 hchange)
    exact (RegistrationChange.checks_of_validate hchecked).2 ext hext
  have hdots : normalExtension ext = "" ↔
      ∃ n, Text.trim ext.toList = List.replicate (n + 1) '.' := by
    rw [Registry.normalExtension_eq_empty_iff]
    constructor
    · rintro ⟨n, hn⟩
      cases n with
      | zero => exact absurd hn hnotblank
      | succ n => exact ⟨n, hn⟩
    · rintro ⟨n, hn⟩
      exact ⟨n + 1, hn⟩
  rw [← hdots]
  constructor
  · intro hkeeps hempty
    have hlost : r'.extensions.get? (normalExtension ext) = none := by
      rw [hempty]
      exact (applyTo_consistent hr.consistent happly).get?_empty_extension
    exact not_keeps_of_get?_eq_none c key hlost hkeeps
  · exact keeps_of_normalExtension_ne hr hspelling happly hchange hext

/-- The statement at the known languages, for a configuration that names one of them in two
spellings and lists an extension for two of them. -/
theorem listed_extension_kept_iff_pyx :
    let vue : RegistrationChange := { extensions := [".vue"] }
    let pyx : RegistrationChange := { extensions := [" .PYX", ".."] }
    let view : RegistrationChange := { extensions := ["Vue"] }
    let c : Config :=
      { languages :=
          ((({} : Table RegistrationChange).insert "python" view).insert "Python" pyx).insert
            "JavaScript" vue }
    c.validate = .ok () ∧ c.StableSpelling Registry.builtin ∧
      ∃ r', c.applyTo Registry.builtin = .ok r' ∧ c.Keeps r' "JavaScript" ".vue" ∧
        c.Keeps r' "Python" " .PYX" ∧ ¬ c.Keeps r' "Python" ".." := by
  intro vue pyx view c
  have hsorted : c.languages.sorted = [("JavaScript", vue), ("Python", pyx), ("python", view)] :=
    List.mergeSort_of_pairwise (by decide)
  have hvalid : c.validate = .ok () := by
    unfold validate
    rw [hsorted]
    rfl
  have happlied : (c.applyTo Registry.builtin).isOk = true := by
    unfold applyTo
    rw [hsorted]
    decide
  have hspelling : c.StableSpelling Registry.builtin := by
    have hknown : Registry.builtin.extensions.entries.all (fun e => !beginsBlank e.1) = true := by
      decide
    have hlisted : c.languages.sorted.all (fun change =>
        change.2.extensions.all fun e => !beginsBlank (normalExtension e)) = true := by
      rw [hsorted]
      decide
    constructor
    · intro key change ext _ hext
      simpa using List.all_eq_true.1 hknown _ ((Table.mem_entries_iff _ _ _).2 hext)
    · intro key later change other ext hkey _ _ _ hext
      have hall := List.all_eq_true.1 hlisted _ ((Table.mem_sorted_iff _ _ _).2 hkey)
      simpa using List.all_eq_true.1 hall ext hext
  cases happly : c.applyTo Registry.builtin with
  | error e =>
    rw [happly] at happlied
    cases happlied
  | ok r' =>
    have hkept := listed_extension_kept_iff Registry.builtin Registry.reachable_builtin c hvalid
      hspelling r' happly
    have hvue := hkept "JavaScript" vue rfl ".vue" (by decide)
    have hpyx := hkept "Python" pyx rfl " .PYX" (by decide)
    have hdots := hkept "Python" pyx rfl ".." (by decide)
    refine ⟨hvalid, hspelling, r', rfl, hvue.2 ?_, hpyx.2 ?_, ?_⟩
    · rintro ⟨n, hn⟩
      exact absurd ((List.eq_replicate_iff.1 hn).2 'v' (by decide)) (by decide)
    · rintro ⟨n, hn⟩
      exact absurd ((List.eq_replicate_iff.1 hn).2 'P' (by decide)) (by decide)
    · rw [hdots, not_not]
      exact ⟨1, by decide⟩

/-- An extension is dropped if the changes leave it without a language. -/
theorem exists_not_keeps {c : Config} {changes : List (String × RegistrationChange)}
    (hsorted : c.languages.sorted = changes) (key : String) {ext : String}
    (hlost : (changes.foldlM applyChange r).toOption.map
      (·.extensions.get? (normalExtension ext)) = some none) :
    ∃ r', c.applyTo r = .ok r' ∧ ¬ c.Keeps r' key ext := by
  rw [← hsorted] at hlost
  cases happly : c.applyTo r with
  | error e =>
    rw [applyTo] at happly
    rw [happly] at hlost
    cases hlost
  | ok r' =>
    rw [applyTo] at happly
    rw [happly] at hlost
    exact ⟨r', rfl, not_keeps_of_get?_eq_none c key (Option.some.inj hlost)⟩

/-- A configuration that passes the check can list extensions to no effect: one of nothing but a
dot, which would be refused if it was added by itself, and one with a blank behind the dot, when
another key names the same language. -/
theorem listed_extension_dropped :
    (let c : Config :=
      { languages := ({} : Table RegistrationChange).insert "python" { extensions := ["."] } }
    c.validate = .ok () ∧
      (∃ r', c.applyTo Registry.builtin = .ok r' ∧ ¬ c.Keeps r' "python" ".") ∧
      (Registry.builtin.addExtension "." "python").1 = .error (.invalidExtension ".")) ∧
    let c : Config :=
      { languages := (({} : Table RegistrationChange).insert "python" {}).insert
          "Python" { extensions := [". x"] } }
    c.validate = .ok () ∧
      ∃ r', c.applyTo Registry.builtin = .ok r' ∧ ¬ c.Keeps r' "Python" ". x" := by
  constructor
  · intro c
    have hsorted : c.languages.sorted = [("python", { extensions := ["."] })] :=
      List.mergeSort_singleton _
    have hvalid : c.validate = .ok () := by
      unfold validate
      rw [hsorted]
      rfl
    exact ⟨hvalid, exists_not_keeps hsorted "python" (by decide), rfl⟩
  · intro c
    have hsorted : c.languages.sorted = [("Python", { extensions := [". x"] }), ("python", {})] :=
      List.mergeSort_of_pairwise (by decide)
    have hvalid : c.validate = .ok () := by
      unfold validate
      rw [hsorted]
      rfl
    exact ⟨hvalid, exists_not_keeps hsorted "Python" (by decide)⟩

end Config

end SourceReview
