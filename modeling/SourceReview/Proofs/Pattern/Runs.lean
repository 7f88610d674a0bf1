import Mathlib.Logic.Relation
import SourceReview.Pattern.Search
import SourceReview.Text.Segment

/-!
# Where patterns match

A match of a pattern lies inside the line, covers at least as many characters as the pattern asks
for, and encloses the parts that it remembers (`Match.fits_of_find?`, `Match.fits_of_mem_scan`). How
many characters a pattern asks for (`Pattern.minLength`) and whether it always remembers something
under a name (`Pattern.remembers`) is read off the pattern, so that it can be computed for each of
the patterns of a language.

All of this is proved of runs, by induction on the pattern. Repetition takes one step after another,
so it is enough to know what one step does (`reachable_of_mem_repeated`).
-/

namespace SourceReview

namespace Pattern

/-! ### What a pattern asks for -/

/-- The least number of characters that a match covers. -/
def minLength : Pattern → Nat
  | .empty => 0
  | .char _ => 1
  | .seq p q => p.minLength + q.minLength
  | .alt p q => min p.minLength q.minLength
  | .many _ => 0
  | .manyLazy _ => 0
  | .part _ p => p.minLength
  | .atStart => 0
  | .atEnd => 0
  | .boundary => 0

/-- Whether every match remembers something under a name. -/
def remembers (which : Part) : Pattern → Bool
  | .seq p q => p.remembers which || q.remembers which
  | .alt p q => p.remembers which && q.remembers which
  | .part w p => w == which || p.remembers which
  | _ => false

/-- Whether nothing that a match remembers under a name is empty. -/
def remembersSolid (which : Part) : Pattern → Bool
  | .seq p q => p.remembersSolid which && q.remembersSolid which
  | .alt p q => p.remembersSolid which && q.remembersSolid which
  | .many p => p.remembersSolid which
  | .manyLazy p => p.remembersSolid which
  | .part w p => (w != which || 0 < p.minLength) && p.remembersSolid which
  | _ => true

/-! ### Repetition -/

/-- Whether one step leads from a run to another. -/
abbrev StepsTo (step : Run → List Run) (r t : Run) : Prop := t ∈ step r

theorem mem_or_exists_of_mem_foldr {f : Run → List Run → List Run} {leads : Run → Run → Prop}
    (hf : ∀ u more t, t ∈ f u more → t ∈ more ∨ leads u t) {steps others : List Run} {t : Run}
    (h : t ∈ steps.foldr f others) : t ∈ others ∨ ∃ u ∈ steps, leads u t := by
  induction steps with
  | nil => exact .inl h
  | cons u steps ih =>
    rcases hf u _ t h with hmore | hu
    · rcases ih hmore with hothers | ⟨v, hv, hleads⟩
      · exact .inl hothers
      · exact .inr ⟨v, List.mem_cons_of_mem _ hv, hleads⟩
    · exact .inr ⟨u, List.mem_cons_self, hu⟩

/-- Repetition leads to runs that are reached step by step. -/
theorem reachable_of_mem_repeated {step : Run → List Run} {budget : List Char} {r t : Run}
    {others : List Run} (h : t ∈ repeated step budget r others) :
    t ∈ others ∨ Relation.ReflTransGen (StepsTo step) r t := by
  induction budget generalizing r t others with
  | nil =>
    rcases List.mem_cons.1 h with rfl | hothers
    · exact .inr .refl
    · exact .inl hothers
  | cons b budget ih =>
    rw [repeated] at h
    have hstep : ∀ u more t,
        t ∈ (if r.pos < u.pos then repeated step budget u more else more) →
          t ∈ more ∨ Relation.ReflTransGen (StepsTo step) u t := by
      intro u more t ht
      split at ht
      · exact ih ht
      · exact .inl ht
    rcases mem_or_exists_of_mem_foldr hstep h with hrest | ⟨u, hu, hreach⟩
    · rcases List.mem_cons.1 hrest with rfl | hothers
      · exact .inr .refl
      · exact .inl hothers
    · exact .inr (.head hu hreach)

/-- The same of repetition that prefers less. -/
theorem reachable_of_mem_repeatedLazy {step : Run → List Run} {budget : List Char} {r t : Run}
    {others : List Run} (h : t ∈ repeatedLazy step budget r others) :
    t ∈ others ∨ Relation.ReflTransGen (StepsTo step) r t := by
  induction budget generalizing r t others with
  | nil =>
    rcases List.mem_cons.1 h with rfl | hothers
    · exact .inr .refl
    · exact .inl hothers
  | cons b budget ih =>
    rw [repeatedLazy] at h
    have hstep : ∀ u more t,
        t ∈ (if r.pos < u.pos then repeatedLazy step budget u more else more) →
          t ∈ more ∨ Relation.ReflTransGen (StepsTo step) u t := by
      intro u more t ht
      split at ht
      · exact ih ht
      · exact .inl ht
    rcases List.mem_cons.1 h with rfl | h
    · exact .inr .refl
    · rcases mem_or_exists_of_mem_foldr hstep h with hothers | ⟨u, hu, hreach⟩
      · exact .inl hothers
      · exact .inr (.head hu hreach)

theorem reachable_of_mem_runs_many {p : Pattern} {r t : Run} (h : t ∈ (many p).runs r) :
    Relation.ReflTransGen (StepsTo p.runs) r t :=
  (reachable_of_mem_repeated h).resolve_left List.not_mem_nil

theorem reachable_of_mem_runs_manyLazy {p : Pattern} {r t : Run} (h : t ∈ (manyLazy p).runs r) :
    Relation.ReflTransGen (StepsTo p.runs) r t :=
  (reachable_of_mem_repeatedLazy h).resolve_left List.not_mem_nil

/-! ### Runs -/

/-- The run `t` goes on from `r` by at least `n` characters of what is left there, and what it
remembers anew lies between the two places. -/
structure Run.Extends (n : Nat) (r t : Run) : Prop where
  pos_le : r.pos + n ≤ t.pos
  length_eq : t.pos + t.rest.length = r.pos + r.rest.length
  parts_suffix : r.parts <:+ t.parts
  mem_parts : ∀ x ∈ t.parts,
    x ∈ r.parts ∨ r.pos ≤ x.2.start ∧ x.2.start ≤ x.2.stop ∧ x.2.stop ≤ t.pos

namespace Run.Extends

theorem refl (r : Run) : r.Extends 0 r :=
  ⟨Nat.le_refl _, rfl, List.suffix_rfl, fun _ hx => .inl hx⟩

theorem trans {m n : Nat} {r s t : Run} (hrs : r.Extends m s) (hst : s.Extends n t) :
    r.Extends (m + n) t := by
  have hpos := hrs.pos_le
  have hpos' := hst.pos_le
  refine ⟨by omega, hst.length_eq.trans hrs.length_eq,
    hrs.parts_suffix.trans hst.parts_suffix, ?_⟩
  intro x hx
  rcases hst.mem_parts x hx with hs | ⟨hstart, hle, hstop⟩
  · rcases hrs.mem_parts x hs with hr | ⟨hstart, hle, hstop⟩
    · exact .inl hr
    · exact .inr ⟨hstart, hle, by omega⟩
  · exact .inr ⟨by omega, hle, hstop⟩

theorem mono {m n : Nat} {r t : Run} (h : r.Extends n t) (hmn : m ≤ n) : r.Extends m t :=
  { h with pos_le := Nat.le_trans (Nat.add_le_add_left hmn _) h.pos_le }

theorem of_reachable {p : Pattern} (hstep : ∀ r t, t ∈ p.runs r → r.Extends p.minLength t)
    {r t : Run} (h : Relation.ReflTransGen (StepsTo p.runs) r t) : r.Extends 0 t := by
  induction h with
  | refl => exact refl r
  | tail _ hlast ih => exact (ih.trans (hstep _ _ hlast)).mono (Nat.zero_le _)

end Run.Extends

/-- Every run of a pattern goes on by what the pattern asks for. -/
theorem extends_of_mem_runs (p : Pattern) (r t : Run) (h : t ∈ p.runs r) :
    r.Extends p.minLength t := by
  induction p generalizing r t with
  | empty =>
    cases List.mem_singleton.1 h
    exact .refl r
  | char ok =>
    rw [runs] at h
    split at h
    · rename_i c cs hrest
      split at h
      · cases List.mem_singleton.1 h
        refine ⟨Nat.le_refl _, ?_, List.suffix_rfl, fun _ hx => .inl hx⟩
        rw [hrest, List.length_cons]
        dsimp only
        omega
      · exact absurd h List.not_mem_nil
    · exact absurd h List.not_mem_nil
  | seq p q ihp ihq =>
    obtain ⟨s, hs, ht⟩ := List.mem_flatMap.1 h
    exact (ihp r s hs).trans (ihq s t ht)
  | alt p q ihp ihq =>
    rcases List.mem_append.1 h with hp | hq
    · exact (ihp r t hp).mono (Nat.min_le_left _ _)
    · exact (ihq r t hq).mono (Nat.min_le_right _ _)
  | many p ih => exact .of_reachable ih (reachable_of_mem_runs_many h)
  | manyLazy p ih => exact .of_reachable ih (reachable_of_mem_runs_manyLazy h)
  | part which p ih =>
    obtain ⟨s, hs, rfl⟩ := List.mem_map.1 h
    have hext := ih r s hs
    have hpos := hext.pos_le
    refine ⟨hpos, hext.length_eq, hext.parts_suffix.trans (List.suffix_cons _ _), ?_⟩
    intro x hx
    rcases List.mem_cons.1 hx with rfl | hx
    · exact .inr ⟨Nat.le_refl _, by dsimp only; omega, Nat.le_refl _⟩
    · exact hext.mem_parts x hx
  | atStart | atEnd | boundary =>
    rw [runs] at h
    split at h
    · cases List.mem_singleton.1 h
      exact .refl r
    · exact absurd h List.not_mem_nil

/-- A pattern that always remembers something under a name does so in every run. -/
theorem exists_part_of_remembers {which : Part} (p : Pattern) (hp : p.remembers which = true)
    (r t : Run) (h : t ∈ p.runs r) : ∃ x ∈ t.parts, x.1 = which := by
  induction p generalizing r t with
  | seq p q ihp ihq =>
    obtain ⟨s, hs, ht⟩ := List.mem_flatMap.1 h
    rcases Bool.or_eq_true_iff.1 hp with hp | hq
    · obtain ⟨x, hx, hname⟩ := ihp hp r s hs
      exact ⟨x, (extends_of_mem_runs q s t ht).parts_suffix.subset hx, hname⟩
    · exact ihq hq s t ht
  | alt p q ihp ihq =>
    have hp := Bool.and_eq_true_iff.1 hp
    rcases List.mem_append.1 h with ht | ht
    · exact ihp hp.1 r t ht
    · exact ihq hp.2 r t ht
  | part w p ih =>
    obtain ⟨s, hs, rfl⟩ := List.mem_map.1 h
    rcases Bool.or_eq_true_iff.1 hp with hw | hp
    · exact ⟨_, List.mem_cons_self, by simpa using hw⟩
    · obtain ⟨x, hx, hname⟩ := ih hp r s hs
      exact ⟨x, List.mem_cons_of_mem _ hx, hname⟩
  | empty | char | many | manyLazy | atStart | atEnd | boundary =>
    exact absurd hp (by simp [remembers])

/-- What a run remembers under a name is not empty. -/
def Run.Solid (which : Part) (r : Run) : Prop := ∀ x ∈ r.parts, x.1 = which → x.2.start < x.2.stop

theorem Run.Solid.of_reachable {which : Part} {p : Pattern}
    (hstep : ∀ r t, r.Solid which → t ∈ p.runs r → t.Solid which) {r t : Run} (hr : r.Solid which)
    (h : Relation.ReflTransGen (StepsTo p.runs) r t) : t.Solid which := by
  induction h with
  | refl => exact hr
  | tail _ hlast ih => exact hstep _ _ ih hlast

theorem solid_of_remembersSolid {which : Part} (p : Pattern) (hp : p.remembersSolid which = true)
    (r t : Run) (hr : r.Solid which) (h : t ∈ p.runs r) : t.Solid which := by
  induction p generalizing r t with
  | empty =>
    cases List.mem_singleton.1 h
    exact hr
  | char ok =>
    rw [runs] at h
    split at h
    · split at h
      · cases List.mem_singleton.1 h
        exact hr
      · exact absurd h List.not_mem_nil
    · exact absurd h List.not_mem_nil
  | seq p q ihp ihq =>
    have hp := Bool.and_eq_true_iff.1 hp
    obtain ⟨s, hs, ht⟩ := List.mem_flatMap.1 h
    exact ihq hp.2 s t (ihp hp.1 r s hr hs) ht
  | alt p q ihp ihq =>
    have hp := Bool.and_eq_true_iff.1 hp
    rcases List.mem_append.1 h with ht | ht
    · exact ihp hp.1 r t hr ht
    · exact ihq hp.2 r t hr ht
  | many p ih => exact hr.of_reachable (ih hp) (reachable_of_mem_runs_many h)
  | manyLazy p ih => exact hr.of_reachable (ih hp) (reachable_of_mem_runs_manyLazy h)
  | part w p ih =>
    have hp := Bool.and_eq_true_iff.1 hp
    obtain ⟨s, hs, rfl⟩ := List.mem_map.1 h
    intro x hx hname
    rcases List.mem_cons.1 hx with rfl | hx
    · have hlength : 0 < p.minLength := by simpa [show w = which from hname] using hp.1
      have hpos := (extends_of_mem_runs p r s hs).pos_le
      show r.pos < s.pos
      omega
    · exact ih hp.2 r s hr hs x hx hname
  | atStart | atEnd | boundary =>
    rw [runs] at h
    split at h
    · cases List.mem_singleton.1 h
      exact hr
    · exact absurd h List.not_mem_nil

/-! ### Texts letter by letter -/

/-- A text that is asked for letter by letter is taken off what is left of the line. -/
theorem runs_chars (cs : List Char) (r : Run) :
    (chars cs).runs r = (Text.after? cs r.rest).toList.map fun rest =>
      ⟨r.pos + cs.length, cs.getLast?.or r.prev, rest, r.parts⟩ := by
  induction cs generalizing r with
  | nil => rfl
  | cons c cs ih =>
    obtain ⟨pos, prev, rest, parts⟩ := r
    have hstep : (chars (c :: cs)).runs ⟨pos, prev, rest, parts⟩
        = ((char (· == c)).runs ⟨pos, prev, rest, parts⟩).flatMap (chars cs).runs := by
      cases cs with
      | nil =>
        show _ = ((char (· == c)).runs _).flatMap fun r => [r]
        rw [List.flatMap_singleton']
        rfl
      | cons d cs => rfl
    rw [hstep]
    cases rest with
    | nil => rfl
    | cons d rest =>
      by_cases hd : d = c
      · subst hd
        have hchar : (char (· == d)).runs ⟨pos, prev, d :: rest, parts⟩
            = [⟨pos + 1, some d, rest, parts⟩] := by
          simp [runs]
        have hlast : cs.getLast?.or (some d) = (d :: cs).getLast?.or prev := by
          rw [List.getLast?_cons]
          cases cs.getLast? <;> rfl
        have hlength : pos + 1 + cs.length = pos + (d :: cs).length := by
          rw [List.length_cons]
          omega
        rw [hchar, List.flatMap_singleton, ih, Text.after?, if_pos rfl, hlast, hlength]
      · have hchar : (char (· == c)).runs ⟨pos, prev, d :: rest, parts⟩ = [] := by
          simp [runs, hd]
        rw [hchar, Text.after?, if_neg (Ne.symm hd)]
        rfl

end Pattern

/-! ### Matches -/

namespace Pattern.Match

/-- The match `m` of the pattern `p` lies in a line of `length` characters. -/
structure Fits (p : Pattern) (length : Nat) (m : Match) : Prop where
  start_le : m.span.start + p.minLength ≤ m.span.stop
  stop_le : m.span.stop ≤ length
  mem_parts : ∀ x ∈ m.parts,
    m.span.start ≤ x.2.start ∧ x.2.start ≤ x.2.stop ∧ x.2.stop ≤ m.span.stop
  exists_part : ∀ which, p.remembers which = true → ∃ x ∈ m.parts, x.1 = which
  solid : ∀ which, p.remembersSolid which = true →
    ∀ x ∈ m.parts, x.1 = which → x.2.start < x.2.stop

variable {p : Pattern} {m : Match}

theorem fits_of_matchAt {pos : Nat} {prev : Option Char} {rest : List Char}
    (h : p.matchAt pos prev rest = some m) : m.Fits p (pos + rest.length) := by
  obtain ⟨t, ht, rfl⟩ := Option.map_eq_some_iff.1 h
  have hmem := List.mem_of_head? ht
  have hext := extends_of_mem_runs p _ t hmem
  have hlength := hext.length_eq
  refine ⟨hext.pos_le, ?_, ?_, ?_, ?_⟩
  · show t.pos ≤ _
    dsimp only at hlength
    omega
  · exact fun x hx => (hext.mem_parts x hx).resolve_left List.not_mem_nil
  · exact fun which hp => exists_part_of_remembers p hp _ t hmem
  · exact fun which hp => solid_of_remembersSolid p hp _ t (by simp [Run.Solid]) hmem

theorem fits_of_findFrom {pos : Nat} {prev : Option Char} {rest : List Char}
    (h : p.findFrom pos prev rest = some m) : m.Fits p (pos + rest.length) := by
  induction rest generalizing pos prev with
  | nil => exact fits_of_matchAt h
  | cons c cs ih =>
    rw [findFrom] at h
    split at h
    · cases h
      exact fits_of_matchAt ‹_›
    · rw [List.length_cons, ← Nat.add_assoc, Nat.add_right_comm]
      exact ih h

/-- The first match in a line lies in the line. -/
theorem fits_of_find? {line : List Char} (h : p.find? line = some m) : m.Fits p line.length := by
  have hfits := fits_of_findFrom h
  rwa [Nat.zero_add] at hfits

theorem fits_of_mem_scanFrom {skip pos : Nat} {prev : Option Char} {rest : List Char}
    (h : m ∈ p.scanFrom skip pos prev rest) : m.Fits p (pos + rest.length) := by
  induction rest generalizing skip pos prev with
  | nil => exact absurd h List.not_mem_nil
  | cons c cs ih =>
    have hlater : ∀ skip, m ∈ p.scanFrom skip (pos + 1) (some c) cs →
        m.Fits p (pos + (c :: cs).length) := by
      intro skip hm
      rw [List.length_cons, ← Nat.add_assoc, Nat.add_right_comm]
      exact ih hm
    rw [scanFrom.eq_def] at h
    split at h
    · contradiction
    · rename_i heq
      cases heq
      split at h
      · exact hlater _ h
      · split at h
        · rename_i found hfound
          split at h
          · rcases List.mem_cons.1 h with rfl | h
            · exact fits_of_matchAt hfound
            · exact hlater _ h
          · exact hlater _ h
        · exact hlater _ h

/-- All matches in a line lie in the line. -/
theorem fits_of_mem_scan {line : List Char} (h : m ∈ p.scan line) : m.Fits p line.length := by
  have hfits := fits_of_mem_scanFrom h
  rwa [Nat.zero_add] at hfits

/-- A match of a pattern that asks for a character begins inside the line. -/
theorem Fits.start_lt {length : Nat} (h : m.Fits p length) (hp : 0 < p.minLength) :
    m.span.start < length := by
  have hstart := h.start_le
  have hstop := h.stop_le
  omega

/-- The stretch of a part, if the match has it, lies in that of the match. -/
theorem Fits.start_part?_lt {length : Nat} (h : m.Fits p length) (hp : 0 < p.minLength)
    {which : Part} (hsolid : p.remembersSolid which = true) :
    ((m.part? which).map (·.start)).getD 0 < length := by
  unfold Match.part?
  rw [Option.map_map]
  cases hfind : m.parts.find? (·.1 == which) with
  | none =>
    have hstart := h.start_lt hp
    simp only [Option.map_none, Option.getD_none]
    omega
  | some x =>
    have hx := List.mem_of_find?_eq_some hfind
    have hname : x.1 = which := by simpa using List.find?_some hfind
    have hlt := h.solid which hsolid x hx hname
    have hstop := (h.mem_parts x hx).2.2
    have hlength := h.stop_le
    show x.2.start < length
    omega

/-- A part that a pattern always remembers, and never empty, has a text. -/
theorem Fits.partText?_ne_nil {line : List Char} (h : m.Fits p line.length) {which : Part}
    (hp : p.remembers which = true) (hsolid : p.remembersSolid which = true) :
    ∃ c cs, m.partText? which line = some (c :: cs) := by
  obtain ⟨x, hx, hname⟩ := h.exists_part which hp
  have hfind : (m.parts.find? (·.1 == which)).isSome = true := by
    rw [List.find?_isSome]
    exact ⟨x, hx, by simpa using hname⟩
  obtain ⟨y, hy⟩ := Option.isSome_iff_exists.1 hfind
  have hmem := List.mem_of_find?_eq_some hy
  have hlt := h.solid which hsolid y hmem (by simpa using List.find?_some hy)
  have hstop := (h.mem_parts y hmem).2.2
  have hlength := h.stop_le
  have htext : m.partText? which line = some (y.2.of line) := by
    unfold Match.partText? Match.part?
    rw [hy]
    rfl
  have hne : y.2.of line ≠ [] := by
    unfold Span.of
    intro hnil
    have := congrArg List.length hnil
    simp only [List.length_take, List.length_drop, List.length_nil] at this
    omega
  obtain ⟨c, cs, hcons⟩ := List.exists_cons_of_ne_nil hne
  exact ⟨c, cs, by rw [htext, hcons]⟩

end Pattern.Match

end SourceReview
