import SourceReview.Outline.Basic

/-!
# Every method is credited once

A function that begins in a class is a method of the innermost such class, unless it is nested in
another function there. `Outline.withMethodCounts` counts the methods of each class.

What it counts is said here without the search that it makes: the class of a function is the first
of the shortest classes that hold it (`Outline.IsFirstShortest`), and there is at most one such
class. So no method is lost and none is counted twice (`Outline.methods_counted_once`), whatever
lines the functions and classes have: they need not be those of a text.
-/

namespace SourceReview

namespace ClassEntry

/-- The number of lines of a class after its first line. -/
def extent (c : ClassEntry) : Nat := c.endLine - c.line

/-- The number of lines of a class after its first line, unless the class ends before it begins. -/
def extent? (c : ClassEntry) : Option Nat :=
  if c.line ≤ c.endLine then some (c.endLine - c.line) else none

/-- The class, credited with `n` methods. -/
def credited (n : Nat) (c : ClassEntry) : ClassEntry := { c with methodCount := n }

/-- A class that holds a function does not end before it begins. -/
theorem extent?_of_holds {c : ClassEntry} {f : FunctionEntry} (h : c.holds f = true) :
    c.extent? = some c.extent := by
  simp only [holds, Bool.and_eq_true, decide_eq_true_eq] at h
  exact if_pos (by omega)

end ClassEntry

namespace Outline

/-! ### The shortest class -/

section Shortest

variable {p : ClassEntry → Bool} {cs : List (ClassEntry × Nat)}

/-- The class `x`, given with its position, satisfies `p`. Of the classes that do, none is shorter,
and none that comes before it is equally short. -/
structure IsFirstShortest (p : ClassEntry → Bool) (cs : List (ClassEntry × Nat))
    (x : ClassEntry × Nat) : Prop where
  mem : x ∈ cs
  holds : p x.1 = true
  shortest : ∀ y ∈ cs, p y.1 = true → x.1.extent ≤ y.1.extent
  first : ∀ y ∈ cs, p y.1 = true → y.2 < x.2 → x.1.extent < y.1.extent

instance (x : ClassEntry × Nat) : Decidable (IsFirstShortest p cs x) :=
  decidable_of_iff
    (x ∈ cs ∧ p x.1 = true ∧ (∀ y ∈ cs, p y.1 = true → x.1.extent ≤ y.1.extent) ∧
      ∀ y ∈ cs, p y.1 = true → y.2 < x.2 → x.1.extent < y.1.extent)
    ⟨fun ⟨hmem, hholds, hshortest, hfirst⟩ => ⟨hmem, hholds, hshortest, hfirst⟩,
      fun h => ⟨h.mem, h.holds, h.shortest, h.first⟩⟩

theorem IsFirstShortest.position_eq {x y : ClassEntry × Nat} (hx : IsFirstShortest p cs x)
    (hy : IsFirstShortest p cs y) : x.2 = y.2 := by
  have hxy := hx.shortest y hy.mem hy.holds
  have hyx := hy.shortest x hx.mem hx.holds
  rcases Nat.lt_trichotomy x.2 y.2 with hlt | heq | hlt
  · have := hy.first x hx.mem hx.holds hlt
    omega
  · exact heq
  · have := hx.first y hy.mem hy.holds hlt
    omega

theorem eq_false_of_shortest?_eq_none (h : shortest? p cs = none) :
    ∀ y ∈ cs, p y.1 = false := by
  induction cs with
  | nil => simp
  | cons x cs ih =>
    rw [shortest?] at h
    split at h
    · rename_i hrest
      split at h
      · cases h
      · rename_i hx
        exact List.forall_mem_cons.2 ⟨by simpa using hx, ih hrest⟩
    · split at h <;> cases h

/-- A class that is before the others, and not longer than any of them that satisfies `p`. -/
theorem isFirstShortest_head {x : ClassEntry × Nat} (hx : p x.1 = true)
    (hbefore : ∀ y ∈ cs, x.2 < y.2) (hle : ∀ y ∈ cs, p y.1 = true → x.1.extent ≤ y.1.extent) :
    IsFirstShortest p (x :: cs) x where
  mem := List.mem_cons_self
  holds := hx
  shortest := by
    intro y hy hpy
    rcases List.mem_cons.1 hy with rfl | hy
    · exact Nat.le_refl _
    · exact hle y hy hpy
  first := by
    intro y hy _ hlt
    rcases List.mem_cons.1 hy with rfl | hy
    · omega
    · have := hbefore y hy
      omega

theorem IsFirstShortest.cons {x y : ClassEntry × Nat} (hx : IsFirstShortest p cs x)
    (hlonger : p y.1 = true → x.1.extent < y.1.extent) : IsFirstShortest p (y :: cs) x where
  mem := List.mem_cons_of_mem _ hx.mem
  holds := hx.holds
  shortest := by
    intro z hz hpz
    rcases List.mem_cons.1 hz with rfl | hz
    · exact Nat.le_of_lt (hlonger hpz)
    · exact hx.shortest z hz hpz
  first := by
    intro z hz hpz hlt
    rcases List.mem_cons.1 hz with rfl | hz
    · exact hlonger hpz
    · exact hx.first z hz hpz hlt

/-- The search finds the first of the shortest classes, if they come in the order of their
positions. -/
theorem isFirstShortest_of_shortest? (hpositions : cs.Pairwise (·.2 < ·.2)) {x : ClassEntry × Nat}
    (h : shortest? p cs = some x) : IsFirstShortest p cs x := by
  induction cs generalizing x with
  | nil => cases h
  | cons head cs ih =>
    obtain ⟨hbefore, hpositions⟩ := List.pairwise_cons.1 hpositions
    rw [shortest?] at h
    split at h
    · rename_i hrest
      have hnone := eq_false_of_shortest?_eq_none hrest
      split at h
      · rename_i hhead
        cases h
        refine isFirstShortest_head hhead hbefore fun y hy hpy => ?_
        simp [hnone y hy] at hpy
      · cases h
    · rename_i d j hrest
      have hd : IsFirstShortest p cs (d, j) := ih hpositions hrest
      split at h
      · rename_i hhead
        cases h
        simp only [Bool.and_eq_true, decide_eq_true_eq] at hhead
        have hle : head.1.extent ≤ d.extent := hhead.2
        exact isFirstShortest_head hhead.1 hbefore
          fun y hy hpy => Nat.le_trans hle (hd.shortest y hy hpy)
      · rename_i hhead
        cases h
        simp only [Bool.and_eq_true, decide_eq_true_eq, not_and, Nat.not_le] at hhead
        exact hd.cons hhead

theorem pairwise_position_zipIdx (cs : List ClassEntry) : cs.zipIdx.Pairwise (·.2 < ·.2) := by
  have hrange : (cs.zipIdx.map Prod.snd).Pairwise (· < ·) := by
    rw [List.zipIdx_map_snd]
    exact List.pairwise_lt_range'
  exact List.pairwise_map.1 hrange

theorem eq_of_mem_zipIdx {cs : List ClassEntry} {x y : ClassEntry × Nat} (hx : x ∈ cs.zipIdx)
    (hy : y ∈ cs.zipIdx) (hposition : x.2 = y.2) : x = y := by
  have hget := List.mem_zipIdx_iff_getElem?.1 hx
  rw [hposition, List.mem_zipIdx_iff_getElem?.1 hy] at hget
  exact Prod.ext (Option.some.inj hget).symm hposition

/-- There is only one first of the shortest classes. -/
theorem IsFirstShortest.eq {cs : List ClassEntry} {x y : ClassEntry × Nat}
    (hx : IsFirstShortest p cs.zipIdx x) (hy : IsFirstShortest p cs.zipIdx y) : x = y :=
  eq_of_mem_zipIdx hx.mem hy.mem (hx.position_eq hy)

theorem shortest?_eq_some_iff {cs : List ClassEntry} {x : ClassEntry × Nat} :
    shortest? p cs.zipIdx = some x ↔ IsFirstShortest p cs.zipIdx x := by
  have hfound : ∀ {y}, shortest? p cs.zipIdx = some y → IsFirstShortest p cs.zipIdx y :=
    isFirstShortest_of_shortest? (pairwise_position_zipIdx cs)
  refine ⟨hfound, fun hx => ?_⟩
  cases h : shortest? p cs.zipIdx with
  | none =>
    have hfalse := eq_false_of_shortest?_eq_none h x hx.mem
    rw [hx.holds] at hfalse
    cases hfalse
  | some y => rw [hx.eq (hfound h)]

/-- The class that is found does not depend on what the classes are credited with. -/
theorem shortest?_map_credited {n : Nat} (hp : ∀ c, p (c.credited n) = p c) :
    shortest? p (cs.map (Prod.map (ClassEntry.credited n) id))
      = (shortest? p cs).map (Prod.map (ClassEntry.credited n) id) := by
  induction cs with
  | nil => rfl
  | cons head cs ih =>
    obtain ⟨c, i⟩ := head
    have hextent : ∀ d : ClassEntry,
        (d.credited n).endLine - (d.credited n).line = d.endLine - d.line := fun _ => rfl
    rw [List.map_cons, Prod.map_apply, shortest?, shortest?, ih, hp]
    cases shortest? p cs with
    | none =>
      dsimp only [Option.map_none]
      split <;> rfl
    | some best =>
      simp only [Option.map_some, Prod.map_fst, Prod.map_snd, hextent]
      split <;> rfl

/-- The search for the shortest class in which every length is checked before it is used. There is
no result if some class ends before it begins. -/
def checkedShortest? (p : ClassEntry → Bool) :
    List (ClassEntry × Nat) → Option (Option (ClassEntry × Nat))
  | [] => some none
  | (c, i) :: rest => do
    let best ← checkedShortest? p rest
    if p c then
      let extent ← c.extent?
      match best with
      | none => some (some (c, i))
      | some (d, j) =>
        let least ← d.extent?
        some (if extent ≤ least then some (c, i) else some (d, j))
    else some best

/-- If the classes that satisfy `p` do not end before they begin, then no check fails. -/
theorem checkedShortest?_eq (hp : ∀ c, p c = true → c.extent? = some c.extent)
    (hpositions : cs.Pairwise (·.2 < ·.2)) :
    checkedShortest? p cs = some (shortest? p cs) := by
  induction cs with
  | nil => rfl
  | cons head cs ih =>
    obtain ⟨c, i⟩ := head
    have hpositions := (List.pairwise_cons.1 hpositions).2
    rw [checkedShortest?, ih hpositions, shortest?, Option.bind_eq_bind, Option.bind_some]
    cases hc : p c with
    | false => cases shortest? p cs <;> rfl
    | true =>
      rw [if_pos rfl, hp c hc, Option.bind_eq_bind, Option.bind_some]
      cases hrest : shortest? p cs with
      | none => rfl
      | some best =>
        -- The best of the other classes satisfies `p` as well.
        have hbest := (isFirstShortest_of_shortest? hpositions hrest).holds
        dsimp only
        rw [hp best.1 hbest, Option.bind_some]
        simp [ClassEntry.extent]

end Shortest

/-! ### Methods -/

/-- A function is a method of a class: the class is the first of the shortest ones that hold the
function, and the function begins inside of no other function of the class. -/
structure IsMethod (o : Outline) (f : FunctionEntry) (x : ClassEntry × Nat) : Prop where
  isOwner : IsFirstShortest (·.holds f) o.classes.zipIdx x
  not_nested : ∀ g ∈ o.functions, ¬ (x.1.line < g.line ∧ g.line < f.line ∧ f.line ≤ g.endLine)

instance (o : Outline) (f : FunctionEntry) (x : ClassEntry × Nat) : Decidable (o.IsMethod f x) :=
  decidable_of_iff
    (IsFirstShortest (·.holds f) o.classes.zipIdx x ∧
      ∀ g ∈ o.functions, ¬ (x.1.line < g.line ∧ g.line < f.line ∧ f.line ≤ g.endLine))
    ⟨fun ⟨howner, hnested⟩ => ⟨howner, hnested⟩, fun h => ⟨h.isOwner, h.not_nested⟩⟩

section Methods

variable {o : Outline} {f : FunctionEntry} {x y : ClassEntry × Nat}

theorem isNested_eq_false_iff {c : ClassEntry} : o.isNested c f = false ↔
    ∀ g ∈ o.functions, ¬ (c.line < g.line ∧ g.line < f.line ∧ f.line ≤ g.endLine) := by
  simp [isNested, and_assoc]

/-- A function is a method of one class only. -/
theorem IsMethod.eq (hx : o.IsMethod f x) (hy : o.IsMethod f y) : x = y :=
  hx.isOwner.eq hy.isOwner

/-- What is counted for a class are its methods. -/
theorem isMethodOf_iff (hmem : x ∈ o.classes.zipIdx) :
    o.isMethodOf x.2 f = true ↔ o.IsMethod f x := by
  unfold isMethodOf
  cases howner : o.owner? f with
  | none =>
    have hnone := eq_false_of_shortest?_eq_none howner x hmem
    refine ⟨fun h => absurd h Bool.false_ne_true, fun h => ?_⟩
    rw [h.isOwner.holds] at hnone
    cases hnone
  | some y =>
    have hy : IsFirstShortest (·.holds f) o.classes.zipIdx y := shortest?_eq_some_iff.1 howner
    dsimp only
    rw [Bool.and_eq_true, beq_iff_eq, Bool.not_eq_true', isNested_eq_false_iff]
    constructor
    · rintro ⟨hposition, hnested⟩
      obtain rfl : x = y := eq_of_mem_zipIdx hmem hy.mem hposition
      exact ⟨hy, hnested⟩
    · intro h
      obtain rfl : x = y := h.isOwner.eq hy
      exact ⟨rfl, h.not_nested⟩

end Methods

/-- Counting methods changes the counts of the classes and nothing else. -/
theorem withMethodCounts_eq (o : Outline) :
    o.withMethodCounts =
      { o with
        classes := o.classes.zipIdx.map fun x =>
          x.1.credited (o.functions.countP fun f => o.IsMethod f x) } := by
  unfold withMethodCounts
  rw [List.mapIdx_eq_zipIdx_map]
  congr 1
  apply List.map_congr_left
  intro x hx
  have hcount : o.functions.countP (o.isMethodOf x.2)
      = o.functions.countP fun f => o.IsMethod f x := by
    apply List.countP_congr
    intro f _
    rw [isMethodOf_iff hx, decide_eq_true_iff]
  rw [← hcount]
  rfl

/-! ### The sum of the counts -/

/-- Functions that satisfy one of two conditions, if none satisfies both. -/
theorem countP_or {fs : List FunctionEntry} {P Q : FunctionEntry → Prop} [DecidablePred P]
    [DecidablePred Q] (hnot : ∀ f, ¬ (P f ∧ Q f)) :
    fs.countP (fun f => P f ∨ Q f) = fs.countP (fun f => P f) + fs.countP fun f => Q f := by
  induction fs with
  | nil => rfl
  | cons f fs ih =>
    simp only [List.countP_cons, decide_eq_true_eq]
    by_cases hP : P f
    · have hQ : ¬ Q f := fun hQ => hnot f ⟨hP, hQ⟩
      rw [if_pos (.inl hP), if_pos hP, if_neg hQ]
      omega
    · simp only [hP, false_or, if_false]
      omega

/-- Functions that are counted for at most one class are counted once in all. -/
theorem total_map_countP {fs : List FunctionEntry} {xs : List (ClassEntry × Nat)}
    {P : FunctionEntry → ClassEntry × Nat → Prop} [∀ f x, Decidable (P f x)]
    (hone : xs.Pairwise fun x y => ∀ f, ¬ (P f x ∧ P f y)) :
    total (xs.map fun x => fs.countP fun f => P f x) = fs.countP fun f => ∃ x ∈ xs, P f x := by
  induction xs with
  | nil => simp
  | cons x xs ih =>
    obtain ⟨hx, hxs⟩ := List.pairwise_cons.1 hone
    have hnot : ∀ f, ¬ (P f x ∧ ∃ y ∈ xs, P f y) := by
      rintro f ⟨hfx, y, hy, hfy⟩
      exact hx y hy f ⟨hfx, hfy⟩
    have hcons : ∀ f, (∃ y ∈ x :: xs, P f y) ↔ P f x ∨ ∃ y ∈ xs, P f y := fun f => by simp
    simp only [List.map_cons, total_cons, ih hxs, hcons]
    exact (countP_or hnot).symm

/-! ### What the counts depend on -/

section Alike

variable {o p : Outline}

/-- The class of a function does not depend on what the classes were credited with before. -/
theorem map_credited_owner? (hclasses : p.classes.map (·.credited 0) = o.classes.map (·.credited 0))
    (f : FunctionEntry) :
    (p.owner? f).map (Prod.map (ClassEntry.credited 0) id)
      = (o.owner? f).map (Prod.map (ClassEntry.credited 0) id) := by
  have hzip : ∀ cs : List ClassEntry, cs.zipIdx.map (Prod.map (ClassEntry.credited 0) id)
      = (cs.map (·.credited 0)).zipIdx := fun cs => (List.zipIdx_map ..).symm
  unfold owner?
  rw [← shortest?_map_credited fun _ => rfl, ← shortest?_map_credited fun _ => rfl, hzip, hzip,
    hclasses]

theorem isMethodOf_congr (hfunctions : p.functions.Perm o.functions)
    (hclasses : p.classes.map (·.credited 0) = o.classes.map (·.credited 0)) (i : Nat)
    (f : FunctionEntry) : p.isMethodOf i f = o.isMethodOf i f := by
  have hnested : ∀ c d : ClassEntry, c.credited 0 = d.credited 0 →
      p.isNested c f = o.isNested d f := by
    intro c d hcd
    have hline : c.line = d.line := (congrArg ClassEntry.line hcd :)
    unfold isNested
    rw [hline]
    exact hfunctions.any_eq
  have howner := map_credited_owner? hclasses f
  unfold isMethodOf
  cases hp : p.owner? f with
  | none =>
    rw [hp, Option.map_none, eq_comm, Option.map_eq_none_iff] at howner
    rw [howner]
  | some x =>
    rw [hp, Option.map_some, eq_comm, Option.map_eq_some_iff] at howner
    obtain ⟨y, ho, hxy⟩ := howner
    have hclass : y.1.credited 0 = x.1.credited 0 := congrArg Prod.fst hxy
    have hposition : y.2 = x.2 := (congrArg Prod.snd hxy :)
    rw [ho]
    dsimp only
    rw [hnested x.1 y.1 hclass.symm, hposition]

/-- The counts depend neither on the order of the functions nor on what the classes were credited
with before. -/
theorem withMethodCounts_congr (hfunctions : p.functions.Perm o.functions)
    (hclasses : p.classes.map (·.credited 0) = o.classes.map (·.credited 0)) :
    p.withMethodCounts.classes = o.withMethodCounts.classes := by
  have hcounts : ∀ i,
      p.functions.countP (p.isMethodOf i) = o.functions.countP (o.isMethodOf i) := by
    intro i
    rw [hfunctions.countP_eq]
    congr 1
    funext f
    exact isMethodOf_congr hfunctions hclasses i f
  have hmap : ∀ q : Outline, q.withMethodCounts.classes = (q.classes.map (·.credited 0)).zipIdx.map
      fun x => x.1.credited (q.functions.countP (q.isMethodOf x.2)) := by
    intro q
    unfold withMethodCounts
    rw [List.mapIdx_eq_zipIdx_map, List.zipIdx_map, List.map_map]
    rfl
  rw [hmap, hmap, hclasses]
  simp only [hcounts]

end Alike

theorem map_credited_withMethodCounts (o : Outline) (n : Nat) :
    o.withMethodCounts.classes.map (·.credited n) = o.classes.map (·.credited n) := by
  unfold withMethodCounts
  rw [List.mapIdx_eq_zipIdx_map, List.map_map]
  conv => rhs; rw [← List.zipIdx_map_fst 0 o.classes, List.map_map]
  rfl

theorem withMethodCounts_withMethodCounts (o : Outline) :
    o.withMethodCounts.withMethodCounts = o.withMethodCounts := by
  have hclasses : o.withMethodCounts.withMethodCounts.classes = o.withMethodCounts.classes :=
    withMethodCounts_congr (List.Perm.refl o.functions) (map_credited_withMethodCounts o 0)
  calc o.withMethodCounts.withMethodCounts
      = { o with classes := o.withMethodCounts.withMethodCounts.classes } := rfl
    _ = { o with classes := o.withMethodCounts.classes } := by rw [hclasses]
    _ = o.withMethodCounts := rfl

/-- **Every method is counted once**, for any lines of the functions and classes. The counts are
those of the methods of each class, and nothing else is changed. A function is a method of one class
at most, so the sum of the counts is the number of functions that are methods. No class whose length
is looked at ends before it begins. The counts do not depend on the order of the functions or on
earlier counts, and counting again gives the same. -/
theorem methods_counted_once (o : Outline) :
    o.withMethodCounts =
      { o with
        classes := o.classes.zipIdx.map fun x =>
          x.1.credited (o.functions.countP fun f => o.IsMethod f x) } ∧
    total (o.withMethodCounts.classes.map (·.methodCount))
      = o.functions.countP (fun f => ∃ x ∈ o.classes.zipIdx, o.IsMethod f x) ∧
    (∀ f x y, o.IsMethod f x → o.IsMethod f y → x = y) ∧
    (∀ f, checkedShortest? (·.holds f) o.classes.zipIdx = some (o.owner? f)) ∧
    (∀ p : Outline, p.functions.Perm o.functions →
      p.classes.map (·.credited 0) = o.classes.map (·.credited 0) →
      p.withMethodCounts.classes = o.withMethodCounts.classes) ∧
    o.withMethodCounts.withMethodCounts = o.withMethodCounts := by
  refine ⟨withMethodCounts_eq o, ?_, fun f x y => IsMethod.eq, ?_, fun p => withMethodCounts_congr,
    withMethodCounts_withMethodCounts o⟩
  · -- Two classes of the list differ in their positions, so they have no method in common.
    have hone : o.classes.zipIdx.Pairwise fun x y => ∀ f, ¬ (o.IsMethod f x ∧ o.IsMethod f y) := by
      refine (pairwise_position_zipIdx o.classes).imp ?_
      rintro x y hlt f ⟨hx, hy⟩
      rw [hx.eq hy] at hlt
      exact Nat.lt_irrefl _ hlt
    rw [← total_map_countP hone, withMethodCounts_eq, List.map_map]
    rfl
  · intro f
    exact checkedShortest?_eq (fun c => ClassEntry.extent?_of_holds)
      (pairwise_position_zipIdx o.classes)

/-- Two equal classes inside a third, a helper inside a method, and a class and a function that end
before they begin. -/
theorem methods_counted_once_nested :
    let first : FunctionEntry := ⟨"first", 3, 5, 0, 1, false⟩
    let inner : ClassEntry := ⟨"Inner", 2, 7, 4⟩
    let o : Outline :=
      { functions := [⟨"outer", 1, 8, 0, 1, false⟩, first, ⟨"helper", 4, 5, 0, 1, false⟩,
          ⟨"second", 6, 7, 0, 1, false⟩, ⟨"late", 9, 8, 0, 1, false⟩]
        classes := [⟨"Outer", 1, 9, 0⟩, inner, ⟨"Twin", 2, 7, 0⟩, ⟨"Torn", 9, 1, 2⟩] }
    let p : Outline :=
      { functions := o.functions.reverse, classes := o.classes.map (·.credited 6) }
    p.functions.Perm o.functions ∧
    p.classes.map (·.credited 0) = o.classes.map (·.credited 0) ∧
    p.withMethodCounts.classes = o.withMethodCounts.classes ∧
    o.withMethodCounts.classes.map (·.methodCount) = [1, 2, 0, 0] ∧
    o.IsMethod first (inner, 1) ∧ (∀ x, o.IsMethod first x → x = (inner, 1)) := by
  intro first inner o p
  have hfunctions : p.functions.Perm o.functions := List.reverse_perm _
  have hclasses : p.classes.map (·.credited 0) = o.classes.map (·.credited 0) := by decide
  have hfirst : o.IsMethod first (inner, 1) := by decide
  obtain ⟨-, -, honly, -, hsame, -⟩ := methods_counted_once o
  exact ⟨hfunctions, hclasses, hsame p hfunctions hclasses, by decide, hfirst,
    fun x hx => honly first x _ hx hfirst⟩

end Outline

end SourceReview
