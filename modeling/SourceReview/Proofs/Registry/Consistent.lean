import SourceReview.Proofs.Distinct
import SourceReview.Proofs.Registry.Table
import SourceReview.Registry.Basic

/-!
# Consistent registries

A registry keeps the extensions of a language twice: in the registration of the language, and in the
map from extensions to languages. `Registry.Consistent` says that the two agree and that names,
extensions and analyzers are in order.

Each operation is first described by what the registry it returns answers
(`register_extensions_get?`, `register_languages_get?`, `extended_languages_get?`, …). Giving
extensions to a language, all at once or one more, has one effect in both operations: the language
has the listed extensions and no others, and every other language loses them. That this keeps a
registry consistent is `Consistent.of_claim`.
-/

namespace SourceReview

/-- The registration without the extensions `exts`. -/
def Registration.without (c : Registration) (exts : List String) : Registration :=
  { c with extensions := c.extensions.filter fun e => !exts.contains e }

/-- The registration with one more extension, unless it has it already. -/
def Registration.adding (c : Registration) (ext : String) : Registration :=
  if c.extensions.contains ext then c else { c with extensions := c.extensions ++ [ext] }

namespace Registration

theorem mem_without (c : Registration) (exts : List String) (e : String) :
    e ∈ (c.without exts).extensions ↔ e ∈ c.extensions ∧ e ∉ exts := by
  simp [without, List.mem_filter]

theorem without_without (c : Registration) (e : String) (exts : List String) :
    (c.without [e]).without exts = c.without (e :: exts) := by
  unfold without
  simp only [List.filter_filter]
  congr 2
  funext x
  by_cases h : x = e <;> simp [h]

theorem without_of_disjoint (c : Registration) (exts : List String)
    (h : ∀ e ∈ c.extensions, e ∉ exts) : c.without exts = c := by
  have hfilter : (c.extensions.filter fun e => !exts.contains e) = c.extensions := by
    rw [List.filter_eq_self]
    intro e he
    simpa using h e he
  unfold without
  rw [hfilter]

theorem without_nil (c : Registration) : c.without [] = c :=
  c.without_of_disjoint [] fun _ _ => List.not_mem_nil

theorem mem_adding (c : Registration) (ext e : String) :
    e ∈ (c.adding ext).extensions ↔ e ∈ c.extensions ∨ e = ext := by
  unfold adding
  by_cases h : ext ∈ c.extensions
  · have hcontains : c.extensions.contains ext = true := by simpa using h
    rw [if_pos hcontains]
    refine ⟨Or.inl, ?_⟩
    rintro (he | rfl)
    · exact he
    · exact h
  · have hcontains : ¬c.extensions.contains ext = true := by simpa using h
    rw [if_neg hcontains]
    simp

theorem nodup_adding {c : Registration} (h : c.extensions.Nodup) (ext : String) :
    (c.adding ext).extensions.Nodup := by
  unfold adding
  split
  · exact h
  · rename_i hnot
    rw [List.contains_iff_mem] at hnot
    show (c.extensions ++ [ext]).Nodup
    rw [List.nodup_append]
    refine ⟨h, by simp, ?_⟩
    intro a ha b hb hab
    rw [List.mem_singleton] at hb
    exact hnot (hb ▸ hab ▸ ha)

theorem name_adding (c : Registration) (ext : String) : (c.adding ext).name = c.name := by
  unfold adding
  split <;> rfl

/-- A registration that shares nothing with `c` loses only the extension that is added to `c`. -/
theorem without_adding_of_disjoint (d : Registration) {c : Registration} (ext : String)
    (h : ∀ e ∈ d.extensions, e ∉ c.extensions) :
    d.without (c.adding ext).extensions = d.without [ext] := by
  unfold without
  congr 1
  apply List.filter_congr
  intro e he
  have hiff := mem_adding c ext e
  rw [or_iff_right (h e he)] at hiff
  rw [Bool.eq_iff_iff]
  simp [hiff]

end Registration

namespace Registry

theorem filter_bne_of_ne {owner : Option String} {name : String} (h : owner ≠ some name) :
    owner.filter (· != name) = owner := by
  cases owner with
  | none => rfl
  | some other =>
    have hbne : (other != name) = true := by simpa using h
    rw [Option.filter_some, if_pos hbne]

/-! ### The invariant -/

/-- The language is registered and lists the extension. -/
def Lists (r : Registry) (language ext : String) : Prop :=
  ∃ c, r.languages.get? language = some c ∧ ext ∈ c.extensions

/-- The parts of a registry agree with each other. -/
structure Consistent (r : Registry) : Prop where
  /-- An extension is mapped to the language that lists it, and to no other. -/
  mapped_iff : ∀ ext language, r.extensions.get? ext = some language ↔ r.Lists language ext
  /-- A language lists no extension twice. -/
  nodup : ∀ language c, r.languages.get? language = some c → c.extensions.Nodup
  /-- No language lists the empty extension. -/
  nonempty : ∀ language c, r.languages.get? language = some c → "" ∉ c.extensions
  /-- A registration is kept under its own name. -/
  name_eq : ∀ language c, r.languages.get? language = some c → c.name = language
  /-- Only registered languages have analyzers in use. -/
  registered : ∀ language, r.analyzers.contains language = true →
    r.languages.contains language = true

theorem consistent_empty : empty.Consistent where
  mapped_iff ext language := by simp [empty, Lists]
  nodup language c h := by simp [empty] at h
  nonempty language c h := by simp [empty] at h
  name_eq language c h := by simp [empty] at h
  registered language h := h

namespace Consistent

variable {r : Registry}

/-- No extension is listed by two languages. -/
theorem eq_of_lists (h : r.Consistent) {ext first second : String} (hfirst : r.Lists first ext)
    (hsecond : r.Lists second ext) : first = second := by
  have h₁ := (h.mapped_iff ext first).2 hfirst
  have h₂ := (h.mapped_iff ext second).2 hsecond
  exact Option.some.inj (h₁.symm.trans h₂)

theorem get?_ne_some_of_not_registered (h : r.Consistent) {name : String}
    (hname : r.languages.get? name = none) (ext : String) : r.extensions.get? ext ≠ some name := by
  intro hmapped
  obtain ⟨c, hc, -⟩ := (h.mapped_iff ext name).1 hmapped
  rw [hname] at hc
  exact Option.some_ne_none c hc.symm

theorem analyzers_get?_of_not_registered (h : r.Consistent) {name : String}
    (hname : r.languages.get? name = none) : r.analyzers.get? name = none := by
  rw [← Table.not_contains_iff] at hname ⊢
  exact fun hused => hname (h.registered name hused)

/-- Giving a language exactly the extensions of `c`, and taking them from all others, keeps a
registry consistent. -/
theorem of_claim {r' : Registry} {c : Registration} (h : r.Consistent)
    (hext : ∀ ext, r'.extensions.get? ext
      = if ext ∈ c.extensions then some c.name else (r.extensions.get? ext).filter (· != c.name))
    (hlang : ∀ language, r'.languages.get? language
      = if language = c.name then some c
        else (r.languages.get? language).map (·.without c.extensions))
    (hused : ∀ language, r'.analyzers.contains language = true →
      language = c.name ∨ r.analyzers.contains language = true)
    (hnodup : c.extensions.Nodup) (hne : "" ∉ c.extensions) : r'.Consistent := by
  -- A registration of `r'` is `c` itself, or one of `r` without the extensions of `c`.
  have hcases : ∀ language d, r'.languages.get? language = some d →
      (language = c.name ∧ d = c) ∨
      (language ≠ c.name ∧
        ∃ d', r.languages.get? language = some d' ∧ d = d'.without c.extensions) := by
    intro language d hd
    rw [hlang] at hd
    by_cases hl : language = c.name
    · rw [if_pos hl] at hd
      exact Or.inl ⟨hl, (Option.some.inj hd).symm⟩
    · rw [if_neg hl, Option.map_eq_some_iff] at hd
      obtain ⟨d', hd', rfl⟩ := hd
      exact Or.inr ⟨hl, d', hd', rfl⟩
  constructor
  · intro ext language
    rw [hext]
    by_cases hl : language = c.name
    · have hlists : r'.Lists language ext ↔ ext ∈ c.extensions := by
        simp [Lists, hlang, hl]
      rw [hlists, hl]
      by_cases he : ext ∈ c.extensions
      · simp [he]
      · simp [he, Option.filter_eq_some_iff]
    · have hlists : r'.Lists language ext ↔ r.Lists language ext ∧ ext ∉ c.extensions := by
        simp only [Lists, hlang, if_neg hl, Option.map_eq_some_iff]
        constructor
        · rintro ⟨_, ⟨d, hd, rfl⟩, hmem⟩
          rw [Registration.mem_without] at hmem
          exact ⟨⟨d, hd, hmem.1⟩, hmem.2⟩
        · rintro ⟨⟨d, hd, hmem⟩, hnot⟩
          exact ⟨_, ⟨d, hd, rfl⟩, (Registration.mem_without _ _ _).2 ⟨hmem, hnot⟩⟩
      rw [hlists, ← h.mapped_iff]
      by_cases he : ext ∈ c.extensions
      · simp [he, Ne.symm hl]
      · rw [if_neg he, Option.filter_eq_some_iff]
        simp [he, hl]
  · intro language d hd
    rcases hcases language d hd with ⟨-, rfl⟩ | ⟨-, d', hd', rfl⟩
    · exact hnodup
    · exact (h.nodup language d' hd').sublist List.filter_sublist
  · intro language d hd
    rcases hcases language d hd with ⟨-, rfl⟩ | ⟨-, d', hd', rfl⟩
    · exact hne
    · rw [Registration.mem_without]
      exact fun hmem => h.nonempty language d' hd' hmem.1
  · intro language d hd
    rcases hcases language d hd with ⟨rfl, rfl⟩ | ⟨-, d', hd', rfl⟩
    · rfl
    · exact h.name_eq language d' hd'
  · intro language hl
    rw [Table.contains_iff, hlang]
    by_cases heq : language = c.name
    · exact ⟨c, if_pos heq⟩
    · have hreg := h.registered language ((hused language hl).resolve_left heq)
      obtain ⟨d, hd⟩ := (Table.contains_iff _ _).1 hreg
      exact ⟨_, by rw [if_neg heq, hd, Option.map_some]⟩

end Consistent

/-! ### Giving extensions to a language -/

theorem assign_extensions_get? (r : Registry) (given language ext : String) :
    (r.assign given language).extensions.get? ext
      = if ext = given then some language else r.extensions.get? ext :=
  Table.get?_insert _ _ _ _

theorem assign_analyzers (r : Registry) (given language : String) :
    (r.assign given language).analyzers = r.analyzers := rfl

/-- Every language except `name` is the one that its extensions are mapped to. -/
def OthersMapped (r : Registry) (name : String) : Prop :=
  ∀ other c, other ≠ name → r.languages.get? other = some c →
    ∀ ext ∈ c.extensions, r.extensions.get? ext = some other

/-- The language itself is left as it is, and every other language loses the extension. -/
theorem assign_languages_get? {r : Registry} {language : String} (h : r.OthersMapped language)
    (given other : String) :
    (r.assign given language).languages.get? other
      = if other = language then r.languages.get? other
        else (r.languages.get? other).map (·.without [given]) := by
  -- A language that the extension is not mapped to does not list it.
  have hkeep : ∀ other, other ≠ language → r.extensions.get? given ≠ some other →
      (r.languages.get? other).map (·.without [given]) = r.languages.get? other := by
    intro other hother hgiven
    cases hc : r.languages.get? other with
    | none => rfl
    | some c =>
      have hdisjoint : ∀ e ∈ c.extensions, e ∉ [given] := by
        intro e he hmem
        rw [List.mem_singleton] at hmem
        exact hgiven (hmem ▸ h other c hother hc e he)
      rw [Option.map_some, Registration.without_of_disjoint c _ hdisjoint]
  unfold assign
  cases hgiven : r.extensions.get? given with
  | none =>
    by_cases hother : other = language
    · simp [hother]
    · simp only [if_neg hother]
      exact (hkeep other hother (by simp [hgiven])).symm
  | some previous =>
    by_cases hprev : previous = language
    · simp only [if_pos hprev]
      by_cases hother : other = language
      · simp [hother]
      · rw [if_neg hother, hkeep other hother]
        rw [hgiven, hprev]
        exact fun heq => hother (Option.some.inj heq).symm
    · simp only [if_neg hprev]
      rw [Table.get?_modify]
      by_cases hother : other = language
      · have hne : other ≠ previous := fun heq => hprev (heq ▸ hother)
        rw [if_neg hne, if_pos hother]
      · rw [if_neg hother]
        by_cases heq : other = previous
        · rw [if_pos heq]
          congr 1
          funext c
          simp only [Registration.without]
          congr 2
          funext e
          by_cases he : e = given <;> simp [bne, he]
        · rw [if_neg heq, hkeep other hother]
          rw [hgiven]
          exact fun hsome => heq (Option.some.inj hsome).symm

theorem assign_othersMapped {r : Registry} {language : String} (h : r.OthersMapped language)
    (given : String) : (r.assign given language).OthersMapped language := by
  intro other c hother hc ext hext
  rw [assign_languages_get? h, if_neg hother, Option.map_eq_some_iff] at hc
  obtain ⟨d, hd, rfl⟩ := hc
  rw [Registration.mem_without, List.mem_singleton] at hext
  rw [assign_extensions_get?, if_neg hext.2]
  exact h other d hother hd ext hext.1

theorem foldl_assign_extensions_get? (exts : List String) (language ext : String) (r : Registry) :
    (exts.foldl (assign · · language) r).extensions.get? ext
      = if ext ∈ exts then some language else r.extensions.get? ext := by
  induction exts generalizing r with
  | nil => simp
  | cons given exts ih =>
    rw [List.foldl_cons, ih, assign_extensions_get?]
    by_cases hmem : ext ∈ exts
    · simp [hmem]
    · by_cases heq : ext = given <;> simp [hmem, heq]

theorem foldl_assign_languages_get? (exts : List String) {language : String} {r : Registry}
    (h : r.OthersMapped language) (other : String) :
    (exts.foldl (assign · · language) r).languages.get? other
      = if other = language then r.languages.get? other
        else (r.languages.get? other).map (·.without exts) := by
  induction exts generalizing r with
  | nil => simp [Registration.without_nil]
  | cons given exts ih =>
    rw [List.foldl_cons, ih (assign_othersMapped h given), assign_languages_get? h]
    by_cases hother : other = language
    · simp only [if_pos hother]
    · simp only [if_neg hother, Option.map_map]
      congr 1
      funext c
      exact Registration.without_without c given exts

theorem foldl_assign_analyzers (exts : List String) (language : String) (r : Registry) :
    (exts.foldl (assign · · language) r).analyzers = r.analyzers := by
  induction exts generalizing r with
  | nil => rfl
  | cons given exts ih => rw [List.foldl_cons, ih, assign_analyzers]

/-! ### Removing a language -/

section Remove

variable {r : Registry} (h : r.Consistent) (name : String)

theorem remove_languages_get? (r : Registry) (name language : String) :
    (r.remove name).languages.get? language
      = if language = name then none else r.languages.get? language := by
  unfold remove
  split
  · exact Table.get?_erase _ _ _
  · rename_i hname
    rw [Table.not_contains_iff] at hname
    by_cases hl : language = name
    · rw [if_pos hl, hl, hname]
    · rw [if_neg hl]

include h

/-- No extension is mapped to the removed language, also if it was not registered. -/
theorem remove_extensions_get? (ext : String) :
    (r.remove name).extensions.get? ext = (r.extensions.get? ext).filter (· != name) := by
  unfold remove
  split
  · exact Table.get?_filter _ _ _
  · rename_i hname
    rw [Table.not_contains_iff] at hname
    exact (filter_bne_of_ne (h.get?_ne_some_of_not_registered hname ext)).symm

theorem remove_analyzers_get? (language : String) :
    (r.remove name).analyzers.get? language
      = if language = name then none else r.analyzers.get? language := by
  unfold remove
  split
  · exact Table.get?_erase _ _ _
  · rename_i hname
    rw [Table.not_contains_iff] at hname
    by_cases hl : language = name
    · rw [if_pos hl, hl, h.analyzers_get?_of_not_registered hname]
    · rw [if_neg hl]

theorem remove_othersMapped : (r.remove name).OthersMapped name := by
  intro other c hother hc ext hext
  rw [remove_languages_get?, if_neg hother] at hc
  have hmapped := (h.mapped_iff ext other).2 ⟨c, hc, hext⟩
  rw [remove_extensions_get? h, hmapped]
  exact filter_bne_of_ne fun heq => hother (Option.some.inj heq)

end Remove

/-! ### Registering a language -/

section Register

variable {r : Registry} (h : r.Consistent) (config : Registration)

theorem normalForm_nodup (config : Registration) : (normalForm config).extensions.Nodup :=
  nodup_eraseDups _

theorem normalForm_nonempty (config : Registration) : "" ∉ (normalForm config).extensions := by
  unfold normalForm
  rw [List.mem_eraseDups, List.mem_filter]
  simp

include h

/-- The extensions of the registration belong to the language, and no others do. -/
theorem register_extensions_get? (ext : String) :
    (r.register config).extensions.get? ext
      = if ext ∈ (normalForm config).extensions then some (normalForm config).name
        else (r.extensions.get? ext).filter (· != (normalForm config).name) := by
  unfold register
  simp only
  rw [foldl_assign_extensions_get?, remove_extensions_get? h]

/-- The registration takes the place of the one before it, and every other language loses its
extensions. -/
theorem register_languages_get? (language : String) :
    (r.register config).languages.get? language
      = if language = (normalForm config).name then some (normalForm config)
        else (r.languages.get? language).map (·.without (normalForm config).extensions) := by
  unfold register
  simp only
  rw [Table.get?_insert, foldl_assign_languages_get? _ (remove_othersMapped h _),
    remove_languages_get?]
  by_cases hl : language = (normalForm config).name
  · simp only [if_pos hl]
  · simp only [if_neg hl]

/-- The language has no analyzer in use, and every other language keeps its own. -/
theorem register_analyzers_get? (language : String) :
    (r.register config).analyzers.get? language
      = if language = (normalForm config).name then none else r.analyzers.get? language := by
  unfold register
  simp only
  rw [foldl_assign_analyzers, remove_analyzers_get? h]

theorem register_consistent : (r.register config).Consistent := by
  refine h.of_claim (register_extensions_get? h config) (register_languages_get? h config) ?_
    (normalForm_nodup config) (normalForm_nonempty config)
  intro language hused
  obtain ⟨a, ha⟩ := (Table.contains_iff _ _).1 hused
  rw [register_analyzers_get? h] at ha
  by_cases hl : language = (normalForm config).name
  · exact Or.inl hl
  · rw [if_neg hl] at ha
    exact Or.inr ((Table.contains_iff _ _).2 ⟨a, ha⟩)

end Register

/-! ### Adding an extension -/

section AddExtension

/-- The registry in which a registered language has one more extension. -/
def extended (r : Registry) (ext language : String) : Registry :=
  { r.assign ext language with
    languages := (r.assign ext language).languages.modify language (·.adding ext) }

/-- Adding an extension fails on an empty extension and on an unknown language, before anything is
changed. -/
theorem addExtension_eq (r : Registry) (ext language : String) :
    r.addExtension ext language
      = if normalExtension ext = "" then (.error (.invalidExtension ext), r)
        else if r.languages.contains (Text.lowercase language) = true then
          (.ok (), r.extended (normalExtension ext) (Text.lowercase language))
        else (.error (.unsupportedLanguage (Text.lowercase language)), r) := by
  unfold addExtension
  simp only
  split
  · rfl
  · cases r.languages.contains (Text.lowercase language) with
    | false => rfl
    | true => rfl

/-- Adding an extension either fails and leaves the registry as it is, or extends it. -/
theorem addExtension_cases (r : Registry) (ext language : String) :
    (∃ e, r.addExtension ext language = (.error e, r)) ∨
      normalExtension ext ≠ "" ∧ r.languages.contains (Text.lowercase language) = true ∧
        r.addExtension ext language
          = (.ok (), r.extended (normalExtension ext) (Text.lowercase language)) := by
  rw [addExtension_eq]
  by_cases hext : normalExtension ext = ""
  · exact .inl ⟨_, if_pos hext⟩
  · rw [if_neg hext]
    by_cases hreg : r.languages.contains (Text.lowercase language) = true
    · exact .inr ⟨hext, hreg, if_pos hreg⟩
    · exact .inl ⟨_, if_neg hreg⟩

variable {r : Registry} (h : r.Consistent) (given language : String)

theorem extended_extensions_get? (r : Registry) (given language ext : String) :
    (r.extended given language).extensions.get? ext
      = if ext = given then some language else r.extensions.get? ext :=
  assign_extensions_get? r given language ext

include h

/-- The language gets the extension, and every other language loses it. -/
theorem extended_languages_get? (other : String) :
    (r.extended given language).languages.get? other
      = if other = language then (r.languages.get? other).map (·.adding given)
        else (r.languages.get? other).map (·.without [given]) := by
  have hmapped : r.OthersMapped language := fun other c _ hc ext hext =>
    (h.mapped_iff ext other).2 ⟨c, hc, hext⟩
  unfold extended
  simp only
  rw [Table.get?_modify, assign_languages_get? hmapped]
  by_cases hother : other = language
  · simp only [if_pos hother]
  · simp only [if_neg hother]

theorem extended_consistent (hgiven : given ≠ "") (hreg : r.languages.contains language = true) :
    (r.extended given language).Consistent := by
  obtain ⟨c, hc⟩ := (Table.contains_iff _ _).1 hreg
  -- The extensions that the language lists already are its own, so giving it all of them again
  -- changes nothing.
  have hname : (c.adding given).name = language := by
    rw [Registration.name_adding, h.name_eq language c hc]
  refine h.of_claim (c := c.adding given) ?_ ?_ ?_ (Registration.nodup_adding (h.nodup _ c hc) _) ?_
  · intro ext
    rw [extended_extensions_get?, hname]
    by_cases hgiv : ext = given
    · have hmem : ext ∈ (c.adding given).extensions :=
        (Registration.mem_adding c given ext).2 (Or.inr hgiv)
      rw [if_pos hgiv, if_pos hmem]
    · rw [if_neg hgiv]
      by_cases hmem : ext ∈ c.extensions
      · rw [if_pos ((Registration.mem_adding c given ext).2 (Or.inl hmem))]
        exact (h.mapped_iff ext language).2 ⟨c, hc, hmem⟩
      · have hnot : ext ∉ (c.adding given).extensions := by
          rw [Registration.mem_adding]
          exact fun hor => hor.elim hmem hgiv
        have hne : r.extensions.get? ext ≠ some language := by
          intro hmapped
          obtain ⟨d, hd, hlisted⟩ := (h.mapped_iff ext language).1 hmapped
          exact hmem (Option.some.inj (hc.symm.trans hd) ▸ hlisted)
        rw [if_neg hnot, filter_bne_of_ne hne]
  · intro other
    rw [extended_languages_get? h, hname]
    by_cases hother : other = language
    · rw [if_pos hother, if_pos hother, hother, hc, Option.map_some]
    · rw [if_neg hother, if_neg hother]
      cases hd : r.languages.get? other with
      | none => rfl
      | some d =>
        -- An extension of the other language is none of this one.
        have hdisjoint : ∀ e ∈ d.extensions, e ∉ c.extensions := fun e he hmem =>
          hother (h.eq_of_lists ⟨d, hd, he⟩ ⟨c, hc, hmem⟩)
        rw [Option.map_some, Option.map_some, d.without_adding_of_disjoint given hdisjoint]
  · intro other hused
    exact Or.inr hused
  · rw [Registration.mem_adding]
    rintro (hmem | heq)
    · exact h.nonempty language c hc hmem
    · exact hgiven heq.symm

theorem addExtension_consistent (ext language : String) :
    (r.addExtension ext language).2.Consistent := by
  obtain ⟨e, hfail⟩ | ⟨hne, hreg, hadd⟩ := addExtension_cases r ext language
  · rw [hfail]
    exact h
  · rw [hadd]
    exact extended_consistent h _ _ hne hreg

end AddExtension

end Registry

end SourceReview
