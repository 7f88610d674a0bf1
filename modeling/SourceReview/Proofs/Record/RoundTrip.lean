import SourceReview.Proofs.Calendar.Timestamp
import SourceReview.Proofs.Decimal.Finite
import SourceReview.Proofs.Json.Proper
import SourceReview.Record.Options
import SourceReview.Record.Review

/-!
# Records are read back

Options and reviews are written as JSON values and read from them. Whatever is written is read back
as it was, if its numbers are finite and its counts have 64 bits: a number that is not finite would be
written as null, and a count that is too large would be refused.

A field that is not set is left out, so that the members that are written are a sublist of the names
of the record (`fields?_obj`), and each field is found under its own name. The fields are then taken
one by one, in the order in which the record is read (`required_bind`, `optionalField_bind`).

Options may also be given in other ways than they are written: as a list of fields, with members that
are not known or null. All numbers in a JSON text are finite, so that options that were read at all
have finite numbers, and writing them loses nothing (`Options.yields`).
-/

namespace SourceReview

namespace Record

/-- What `write` makes of a value does not stand for nothing, and `read` takes the value back. -/
structure ReadsBack {α : Type} (read : Json → Option α) (write : α → Json) (a : α) : Prop where
  read_write : read (write a) = some a
  isNothing_write : isNothing (write a) = false

variable {α : Type} {read : Json → Option α} {write : α → Json}

theorem readsBack_text (s : String) : ReadsBack asText? Json.str s := ⟨rfl, rfl⟩

theorem readsBack_flag (b : Bool) : ReadsBack asFlag? Json.bool b := ⟨rfl, rfl⟩

theorem readsBack_float {x : Float} (hx : x.isFinite = true) : ReadsBack asFloat? Json.ofFloat x := by
  have hwrite : Json.ofFloat x = .float x := if_pos hx
  constructor
  · rw [hwrite]
    rfl
  · rw [hwrite]
    rfl

theorem natBelow_ofNat {bits n : Nat} (hn : n < Decimal.twoTo bits) :
    natBelow bits (Json.ofNat n) = some n := by
  have hbound : (0 ≤ (n : Int) && (n : Int) < Decimal.twoTo bits) = true := by
    simp only [Bool.and_eq_true, decide_eq_true_eq]
    omega
  exact if_pos hbound

theorem readsBack_count {n : Nat} (hn : n < 2 ^ 64) : ReadsBack count Json.ofNat n :=
  ⟨natBelow_ofNat hn, rfl⟩

theorem readsBack_word (n : UInt32) : ReadsBack word (fun n : UInt32 => Json.ofNat n.toNat) n := by
  refine ⟨?_, rfl⟩
  have hread : natBelow 32 (Json.ofNat n.toNat) = some n.toNat := natBelow_ofNat n.toNat_lt
  unfold word
  rw [hread, Option.map_some, UInt32.ofNat_toNat]

theorem readsBack_list {as : List α} (has : ∀ a ∈ as, ReadsBack read write a) :
    ReadsBack (list read) (fun as => Json.arr (as.map write)) as := by
  refine ⟨?_, rfl⟩
  show (as.map write).mapM read = some as
  induction as with
  | nil => rfl
  | cons a as ih =>
    rw [List.forall_mem_cons] at has
    rw [List.map_cons, List.mapM_cons, has.1.read_write, ih has.2]
    rfl

theorem readsBack_texts (ss : List String) : ReadsBack texts Json.ofTexts ss :=
  readsBack_list fun s _ => readsBack_text s

theorem readsBack_choice {choices : List α} {name : α → String} {a : α}
    (ha : choices.find? (name · == name a) = some a) :
    ReadsBack (choice choices name) (fun a => Json.str (name a)) a :=
  ⟨ha, rfl⟩

/-! ### Fields -/

/-- All members of an object are fields of a record, if they are named in the order of the record. -/
theorem fields?_obj {names : List String} (hnames : names.Nodup) {members : List (String × Json)}
    (hmembers : (members.map Prod.fst).Sublist names) :
    fields? names (Json.obj members) = some members := by
  have hknown : members.filter (fun m => names.contains m.1) = members := by
    rw [List.filter_eq_self]
    intro m hm
    have hname : m.1 ∈ names := hmembers.subset (List.mem_map_of_mem hm)
    simpa using hname
  show (if ((members.filter fun m => names.contains m.1).map Prod.fst).Nodup then
    some (members.filter fun m => names.contains m.1) else none) = some members
  rw [hknown, if_pos (hnames.sublist hmembers)]

/-- A field that has to be there is read, and the next step goes on with its value. -/
theorem required_bind {β : Type} {fields : List (String × Json)} {name : String} {a : α}
    (hlookup : fields.lookup name = some (write a)) (h : ReadsBack read write a)
    (next : α → Option β) : (required fields name read >>= next) = next a := by
  apply bind_eq_of_eq_some
  unfold required
  rw [hlookup]
  exact h.read_write

/-- A field that may be left out is read, and the next step goes on with its value. -/
theorem optionalField_bind {β : Type} {fields : List (String × Json)} {name : String}
    (a? : Option α) (hlookup : fields.lookup name = a?.map write)
    (h : ∀ a ∈ a?, ReadsBack read write a) (next : Option α → Option β) :
    (optionalField fields name read >>= next) = next a? := by
  apply bind_eq_of_eq_some
  unfold optionalField withDefault
  rw [hlookup]
  cases a? with
  | none => rfl
  | some a =>
    obtain ⟨hread, hnothing⟩ := h a rfl
    show optional read (write a) = some (some a)
    unfold optional
    rw [hnothing, hread]
    rfl

end Record

namespace Json

/-- Members that may be left out are named in order if the others are. -/
theorem map_fst_optional_append_sublist {names : List String} {rest : List (String × Json)}
    (hrest : (rest.map Prod.fst).Sublist names) (name : String) (value : Option Json) :
    ((optional name value ++ rest).map Prod.fst).Sublist (name :: names) := by
  cases value with
  | none => exact hrest.cons name
  | some v => exact hrest.cons_cons name

theorem map_fst_optional_sublist (name : String) (value : Option Json) :
    ((optional name value).map Prod.fst).Sublist [name] := by
  cases value with
  | none => exact List.nil_sublist _
  | some v => exact List.Sublist.refl _

/-- A member that may be left out has its value, or else that of a later member of the same name. -/
@[simp] theorem lookup_optional_append (name key : String) (value : Option Json)
    (rest : List (String × Json)) :
    (optional key value ++ rest).lookup name
      = if name == key then value.or (rest.lookup name) else rest.lookup name := by
  cases value with
  | none =>
    show rest.lookup name = _
    rw [Option.none_or, ite_self]
  | some v =>
    show ((key, v) :: rest).lookup name = _
    rw [List.lookup_cons]
    cases name == key with
    | false => rfl
    | true => rfl

@[simp] theorem lookup_optional (name key : String) (value : Option Json) :
    (optional key value).lookup name = if name == key then value else none := by
  rw [← List.append_nil (optional key value), lookup_optional_append, List.lookup_nil,
    Option.or_none]

end Json

/-! ### Options -/

open Record

/-- A threshold is read back if its number is finite or its grades are read back, unless the grades
are written as a number. -/
theorem Threshold.readsBack {β : Type} {readGrades : Json → Option β} {writeGrades : β → Json}
    {t : Threshold β} (hsingle : ∀ x, t = .single x → x.isFinite = true)
    (hgraded : ∀ g, t = .graded g →
      asFloat? (writeGrades g) = none ∧ ReadsBack readGrades writeGrades g) :
    ReadsBack (Threshold.read readGrades) (Threshold.toJson writeGrades) t := by
  cases t with
  | single x =>
    obtain ⟨hread, hnothing⟩ := readsBack_float (hsingle x rfl)
    refine ⟨?_, hnothing⟩
    unfold read toJson
    simp only [hread]
  | graded g =>
    obtain ⟨hnumber, hread, hnothing⟩ := hgraded g rfl
    refine ⟨?_, hnothing⟩
    -- Grades are tried only because they are no number.
    unfold read toJson
    simp only [hnumber, hread, Option.map_some]

theorem ComplexityGrades.readsBack {g : ComplexityGrades}
    (hg : ∀ x ∈ ComplexityThreshold.values (.graded g), x.isFinite = true) :
    ReadsBack read toJson g := by
  simp only [ComplexityThreshold.values, List.forall_mem_cons, List.not_mem_nil, false_implies,
    implies_true, and_true] at hg
  obtain ⟨hlow, hmedium, hhigh, hcritical⟩ := hg
  refine ⟨?_, rfl⟩
  have hfields : fields? ["low", "medium", "high", "critical"] g.toJson = some _ :=
    fields?_obj (by decide) (List.Sublist.refl _)
  refine Eq.trans (bind_eq_of_eq_some hfields _) ?_
  refine Eq.trans (required_bind rfl (readsBack_float hlow) _) ?_
  refine Eq.trans (required_bind rfl (readsBack_float hmedium) _) ?_
  refine Eq.trans (required_bind rfl (readsBack_float hhigh) _) ?_
  exact required_bind rfl (readsBack_float hcritical) _

theorem PercentGrades.readsBack {g : PercentGrades}
    (hg : ∀ x ∈ PercentThreshold.values (.graded g), x.isFinite = true) :
    ReadsBack read toJson g := by
  simp only [PercentThreshold.values, List.forall_mem_cons, List.not_mem_nil, false_implies,
    implies_true, and_true] at hg
  obtain ⟨hlow, hmedium, hhigh⟩ := hg
  refine ⟨?_, rfl⟩
  have hfields : fields? ["low", "medium", "high"] g.toJson = some _ :=
    fields?_obj (by decide) (List.Sublist.refl _)
  refine Eq.trans (bind_eq_of_eq_some hfields _) ?_
  refine Eq.trans (required_bind rfl (readsBack_float hlow) _) ?_
  refine Eq.trans (required_bind rfl (readsBack_float hmedium) _) ?_
  exact required_bind rfl (readsBack_float hhigh) _

theorem ComplexityThreshold.readsBack {t : ComplexityThreshold}
    (ht : ∀ x ∈ t.values, x.isFinite = true) :
    ReadsBack (Threshold.read ComplexityGrades.read) (Threshold.toJson ComplexityGrades.toJson) t := by
  apply Threshold.readsBack
  · rintro x rfl
    exact ht x (List.mem_singleton_self x)
  · rintro g rfl
    exact ⟨rfl, ComplexityGrades.readsBack ht⟩

theorem PercentThreshold.readsBack {t : PercentThreshold} (ht : ∀ x ∈ t.values, x.isFinite = true) :
    ReadsBack (Threshold.read PercentGrades.read) (Threshold.toJson PercentGrades.toJson) t := by
  apply Threshold.readsBack
  · rintro x rfl
    exact ht x (List.mem_singleton_self x)
  · rintro g rfl
    exact ⟨rfl, PercentGrades.readsBack ht⟩

/-- All numbers of the thresholds are finite. -/
structure Thresholds.IsFinite (t : Thresholds) : Prop where
  complexity : ∀ c ∈ t.complexity, ∀ x ∈ c.values, x.isFinite = true
  maintainability : ∀ m ∈ t.maintainability, ∀ x ∈ m.values, x.isFinite = true
  coverage : ∀ c ∈ t.coverage, ∀ x ∈ c.values, x.isFinite = true

theorem Thresholds.readsBack {t : Thresholds} (ht : t.IsFinite) : ReadsBack read toJson t := by
  refine ⟨?_, rfl⟩
  have hfields : fields? ["complexity", "maintainability", "coverage"] t.toJson = some _ :=
    fields?_obj (by decide) (by
      rw [List.append_assoc]
      exact Json.map_fst_optional_append_sublist (Json.map_fst_optional_append_sublist
        (Json.map_fst_optional_sublist _ _) _ _) _ _)
  refine Eq.trans (bind_eq_of_eq_some hfields _) ?_
  rw [List.append_assoc]
  refine Eq.trans (optionalField_bind t.complexity (by simp)
    (fun c hc => ComplexityThreshold.readsBack (ht.complexity c hc)) _) ?_
  refine Eq.trans (optionalField_bind t.maintainability (by simp)
    (fun m hm => PercentThreshold.readsBack (ht.maintainability m hm)) _) ?_
  exact optionalField_bind t.coverage (by simp)
    (fun c hc => PercentThreshold.readsBack (ht.coverage c hc)) _

/-- All numbers of the options are finite. -/
def Options.IsFinite (o : Options) : Prop := ∀ t ∈ o.thresholds, t.IsFinite

theorem Options.readsBack {o : Options} (ho : o.IsFinite) : ReadsBack read toJson o := by
  refine ⟨?_, rfl⟩
  have hfields : fields? ["rules", "thresholds", "includeSuggestions", "skipDependencies"] o.toJson
      = some _ :=
    fields?_obj (by decide) (by
      rw [List.append_assoc, List.append_assoc]
      exact Json.map_fst_optional_append_sublist (Json.map_fst_optional_append_sublist
        (Json.map_fst_optional_append_sublist (Json.map_fst_optional_sublist _ _) _ _) _ _) _ _)
  refine Eq.trans (bind_eq_of_eq_some hfields _) ?_
  rw [List.append_assoc, List.append_assoc]
  refine Eq.trans (optionalField_bind o.rules (by simp) (fun rules _ => readsBack_texts rules) _) ?_
  refine Eq.trans (optionalField_bind o.thresholds (by simp)
    (fun t ht => Thresholds.readsBack (ho t ht)) _) ?_
  refine Eq.trans (optionalField_bind o.includeSuggestions (by simp)
    (fun b _ => readsBack_flag b) _) ?_
  exact optionalField_bind o.skipDependencies (by simp) (fun b _ => readsBack_flag b) _

/-! ### Findings -/

theorem IssueKind.readsBack (k : IssueKind) :
    ReadsBack (choice all name) (fun k => .str k.name) k :=
  readsBack_choice (by cases k <;> rfl)

theorem Severity.readsBack (s : Severity) :
    ReadsBack (choice all name) (fun s => .str s.name) s :=
  readsBack_choice (by cases s <;> rfl)

theorem SuggestionKind.readsBack (k : SuggestionKind) :
    ReadsBack (choice all name) (fun k => .str k.name) k :=
  readsBack_choice (by cases k <;> rfl)

theorem Priority.readsBack (p : Priority) :
    ReadsBack (choice all name) (fun p => .str p.name) p :=
  readsBack_choice (by cases p <;> rfl)

theorem Fix.readsBack (f : Fix) : ReadsBack read toJson f := by
  refine ⟨?_, rfl⟩
  have hfields : fields? ["description", "replacement"] f.toJson = some _ :=
    fields?_obj (by decide) (List.Sublist.refl _)
  refine Eq.trans (bind_eq_of_eq_some hfields _) ?_
  refine Eq.trans (required_bind rfl (readsBack_text f.description) _) ?_
  exact required_bind rfl (readsBack_text f.replacement) _

/-- The line and the column of the issue have 64 bits. -/
structure Issue.FitsWords (i : Issue) : Prop where
  line : i.line < 2 ^ 64
  column : ∀ n ∈ i.column, n < 2 ^ 64

theorem Issue.readsBack {i : Issue} (hi : i.FitsWords) : ReadsBack read toJson i := by
  refine ⟨?_, rfl⟩
  have hfields : fields? ["type", "severity", "message", "line", "column", "rule", "fix"] i.toJson
      = some _ :=
    fields?_obj (by decide) (by
      rw [List.append_assoc, List.append_assoc]
      refine .cons_cons _ (.cons_cons _ (.cons_cons _ (.cons_cons _ ?_)))
      refine Json.map_fst_optional_append_sublist ?_ _ _
      exact .cons_cons _ (Json.map_fst_optional_sublist _ _))
  refine Eq.trans (bind_eq_of_eq_some hfields _) ?_
  rw [List.append_assoc, List.append_assoc]
  refine Eq.trans (required_bind rfl i.kind.readsBack _) ?_
  refine Eq.trans (required_bind rfl i.severity.readsBack _) ?_
  refine Eq.trans (required_bind rfl (readsBack_text i.message) _) ?_
  refine Eq.trans (required_bind rfl (readsBack_count hi.line) _) ?_
  refine Eq.trans (optionalField_bind i.column (by simp [List.lookup_cons])
    (fun n hn => readsBack_count (hi.column n hn)) _) ?_
  refine Eq.trans (required_bind (by simp [List.lookup_cons]) (readsBack_text i.rule) _) ?_
  exact optionalField_bind i.fix (by simp [List.lookup_cons]) (fun f _ => f.readsBack) _

/-- The numbers of the estimate are finite. -/
structure Impact.IsFinite (i : Impact) : Prop where
  complexityReduction : ∀ x ∈ i.complexityReduction, x.isFinite = true
  maintainabilityImprovement : ∀ x ∈ i.maintainabilityImprovement, x.isFinite = true

theorem Impact.readsBack {i : Impact} (hi : i.IsFinite) : ReadsBack read toJson i := by
  refine ⟨?_, rfl⟩
  have hfields : fields?
      ["complexityReduction", "maintainabilityImprovement", "performanceImprovement"] i.toJson
        = some _ :=
    fields?_obj (by decide) (by
      rw [List.append_assoc]
      exact Json.map_fst_optional_append_sublist (Json.map_fst_optional_append_sublist
        (Json.map_fst_optional_sublist _ _) _ _) _ _)
  refine Eq.trans (bind_eq_of_eq_some hfields _) ?_
  rw [List.append_assoc]
  refine Eq.trans (optionalField_bind i.complexityReduction (by simp)
    (fun x hx => readsBack_float (hi.complexityReduction x hx)) _) ?_
  refine Eq.trans (optionalField_bind i.maintainabilityImprovement (by simp)
    (fun x hx => readsBack_float (hi.maintainabilityImprovement x hx)) _) ?_
  exact optionalField_bind i.performanceImprovement (by simp) (fun s _ => readsBack_text s) _

theorem Suggestion.readsBack {s : Suggestion} (hline : s.line < 2 ^ 64)
    (himpact : s.impact.IsFinite) : ReadsBack read toJson s := by
  refine ⟨?_, rfl⟩
  have hfields : fields? ["type", "priority", "description", "line", "estimatedImpact"] s.toJson
      = some _ :=
    fields?_obj (by decide) (List.Sublist.refl _)
  refine Eq.trans (bind_eq_of_eq_some hfields _) ?_
  refine Eq.trans (required_bind rfl s.kind.readsBack _) ?_
  refine Eq.trans (required_bind rfl s.priority.readsBack _) ?_
  refine Eq.trans (required_bind rfl (readsBack_text s.description) _) ?_
  refine Eq.trans (required_bind rfl (readsBack_count hline) _) ?_
  exact required_bind rfl (Impact.readsBack himpact) _

/-- The figures of the text are finite. -/
structure Metrics.IsFinite (m : Metrics) : Prop where
  maintainability : m.maintainability.isFinite = true
  commentPercentage : m.commentPercentage.isFinite = true
  meanFunctionLength : m.meanFunctionLength.isFinite = true
  technicalDebt : m.technicalDebt.isFinite = true

/-- The counts of the text have 64 bits. -/
structure Metrics.FitsWords (m : Metrics) : Prop where
  linesOfCode : m.linesOfCode < 2 ^ 64
  commentLines : m.commentLines < 2 ^ 64
  functionCount : m.functionCount < 2 ^ 64

theorem Metrics.readsBack {m : Metrics} (hfinite : m.IsFinite) (hfits : m.FitsWords) :
    ReadsBack read toJson m := by
  refine ⟨?_, rfl⟩
  have hfields : fields? ["complexity", "maintainability", "linesOfCode", "commentLines",
      "commentPercentage", "functionCount", "averageFunctionLength", "dependencies",
      "technicalDebt"] m.toJson = some _ :=
    fields?_obj (by decide) (List.Sublist.refl _)
  refine Eq.trans (bind_eq_of_eq_some hfields _) ?_
  refine Eq.trans (required_bind rfl (readsBack_word m.complexity) _) ?_
  refine Eq.trans (required_bind rfl (readsBack_float hfinite.maintainability) _) ?_
  refine Eq.trans (required_bind rfl (readsBack_count hfits.linesOfCode) _) ?_
  refine Eq.trans (required_bind rfl (readsBack_count hfits.commentLines) _) ?_
  refine Eq.trans (required_bind rfl (readsBack_float hfinite.commentPercentage) _) ?_
  refine Eq.trans (required_bind rfl (readsBack_count hfits.functionCount) _) ?_
  refine Eq.trans (required_bind rfl (readsBack_float hfinite.meanFunctionLength) _) ?_
  refine Eq.trans (required_bind rfl (readsBack_texts m.dependencies) _) ?_
  exact required_bind rfl (readsBack_float hfinite.technicalDebt) _

/-! ### Reviews -/

/-- All numbers of the review are finite. -/
structure Review.IsFinite (r : Review) : Prop where
  metrics : r.metrics.IsFinite
  suggestions : ∀ s ∈ r.suggestions, s.impact.IsFinite

/-- All counts of the review have 64 bits. -/
structure Review.FitsWords (r : Review) : Prop where
  issues : ∀ i ∈ r.issues, i.FitsWords
  metrics : r.metrics.FitsWords
  suggestions : ∀ s ∈ r.suggestions, s.line < 2 ^ 64

theorem Timestamp.readsBack {t : Timestamp} (ht : t.IsMoment) :
    ReadsBack (fun v => (asText? v).bind Timestamp.parse?) (fun t => .str t.text) t := by
  refine ⟨?_, rfl⟩
  have htext : asText? (Json.str t.text) = some t.text := rfl
  simp only [htext, Option.bind_some, parse?_text ht]

theorem DatedReview.readsBack {r : DatedReview} (hfinite : r.IsFinite) (hfits : r.FitsWords)
    (hmoment : r.timestamp.IsMoment) : ReadsBack read toJson r := by
  refine ⟨?_, rfl⟩
  have hfields : fields?
      ["filePath", "language", "issues", "metrics", "suggestions", "timestamp"] r.toJson = some _ :=
    fields?_obj (by decide) (List.Sublist.refl _)
  refine Eq.trans (bind_eq_of_eq_some hfields _) ?_
  refine Eq.trans (required_bind rfl (readsBack_text r.filePath) _) ?_
  refine Eq.trans (required_bind rfl (readsBack_text r.language) _) ?_
  refine Eq.trans (required_bind rfl
    (readsBack_list fun i hi => Issue.readsBack (hfits.issues i hi)) _) ?_
  refine Eq.trans (required_bind rfl (Metrics.readsBack hfinite.metrics hfits.metrics) _) ?_
  refine Eq.trans (required_bind rfl (readsBack_list fun s hs =>
    Suggestion.readsBack (hfits.suggestions s hs) (hfinite.suggestions s hs)) _) ?_
  exact required_bind rfl (Timestamp.readsBack hmoment) _

/-! ### Reading finite numbers -/

namespace Record

/-- What is read from a proper value has a property. -/
def Yields (read : Json → Option α) (P : α → Prop) : Prop :=
  ∀ (v : Json) (a : α), v.IsProper → read v = some a → P a

theorem yields_float : Yields asFloat? fun x => x.isFinite = true := by
  intro v x hv hx
  cases hv with
  | int hlow hhigh =>
    cases hx
    exact Decimal.isFinite_ofInt hlow hhigh
  | float hfinite =>
    cases hx
    exact hfinite
  | null => cases hx
  | bool => cases hx
  | str => cases hx
  | arr => cases hx
  | obj => cases hx

/-- The fields of a proper value are proper, in whichever form the record is given. -/
theorem isProper_of_fields? {names : List String} {v : Json} (hv : v.IsProper)
    {fields : List (String × Json)} (h : fields? names v = some fields) :
    ∀ f ∈ fields, f.2.IsProper := by
  cases hv with
  | obj hmembers =>
    -- Members that are not known are dropped.
    unfold fields? at h
    simp only [asMembers?] at h
    split at h
    · cases h
      exact fun f hf => hmembers f (List.mem_filter.1 hf).1
    · cases h
  | arr hitems =>
    -- The items of a list take the names of the fields in order.
    unfold fields? at h
    simp only [asMembers?, asList?] at h
    split at h
    · cases h
      exact fun f hf => hitems f.2 (List.of_mem_zip hf).2
    · cases h
  | null => cases h
  | bool => cases h
  | int => cases h
  | float => cases h
  | str => cases h

variable {α : Type} {read : Json → Option α} {P : α → Prop} {fields : List (String × Json)}
  (hfields : ∀ f ∈ fields, f.2.IsProper) (hread : Yields read P) {name : String}
include hfields hread

theorem of_lookup {v : Json} (hlookup : fields.lookup name = some v) {a : α} (ha : read v = some a) :
    P a := by
  obtain ⟨before, after, rfl, -⟩ := List.lookup_eq_some_iff.1 hlookup
  exact hread v a (hfields (name, v) (by simp)) ha

theorem of_required {a : α} (h : required fields name read = some a) : P a := by
  obtain ⟨v, hlookup, ha⟩ := Option.bind_eq_some_iff.1 h
  exact of_lookup hfields hread hlookup ha

theorem of_optionalField {a? : Option α} (h : optionalField fields name read = some a?) :
    ∀ a ∈ a?, P a := by
  rintro a rfl
  -- A field that is set was there and not null.
  unfold optionalField withDefault at h
  split at h
  · rename_i v hlookup
    unfold optional at h
    split at h
    · cases h
    · obtain ⟨b, hb, hsome⟩ := Option.map_eq_some_iff.1 h
      cases hsome
      exact of_lookup hfields hread hlookup hb
  · cases h

end Record

/-- A threshold that is read has a finite number, or grades as they are read. -/
theorem Threshold.yields {β : Type} {readGrades : Json → Option β} {P : Threshold β → Prop}
    (hsingle : ∀ x : Float, x.isFinite = true → P (.single x))
    (hgraded : Yields readGrades fun g => P (.graded g)) :
    Yields (Threshold.read readGrades) P := by
  intro v t hv h
  unfold read at h
  split at h
  · rename_i x hx
    cases h
    exact hsingle x (yields_float v x hv hx)
  · obtain ⟨g, hg, rfl⟩ := Option.map_eq_some_iff.1 h
    exact hgraded v g hv hg

theorem ComplexityGrades.yields :
    Yields read fun g => ∀ x ∈ ComplexityThreshold.values (.graded g), x.isFinite = true := by
  intro v g hv h
  obtain ⟨fields, hfields, h⟩ := Option.bind_eq_some_iff.1 h
  obtain ⟨low, hlow, h⟩ := Option.bind_eq_some_iff.1 h
  obtain ⟨medium, hmedium, h⟩ := Option.bind_eq_some_iff.1 h
  obtain ⟨high, hhigh, h⟩ := Option.bind_eq_some_iff.1 h
  obtain ⟨critical, hcritical, ⟨⟩⟩ := Option.bind_eq_some_iff.1 h
  have hproper := isProper_of_fields? hv hfields
  simp only [ComplexityThreshold.values, List.forall_mem_cons, List.not_mem_nil, false_implies,
    implies_true, and_true]
  exact ⟨of_required hproper yields_float hlow, of_required hproper yields_float hmedium,
    of_required hproper yields_float hhigh, of_required hproper yields_float hcritical⟩

theorem PercentGrades.yields :
    Yields read fun g => ∀ x ∈ PercentThreshold.values (.graded g), x.isFinite = true := by
  intro v g hv h
  obtain ⟨fields, hfields, h⟩ := Option.bind_eq_some_iff.1 h
  obtain ⟨low, hlow, h⟩ := Option.bind_eq_some_iff.1 h
  obtain ⟨medium, hmedium, h⟩ := Option.bind_eq_some_iff.1 h
  obtain ⟨high, hhigh, ⟨⟩⟩ := Option.bind_eq_some_iff.1 h
  have hproper := isProper_of_fields? hv hfields
  simp only [PercentThreshold.values, List.forall_mem_cons, List.not_mem_nil, false_implies,
    implies_true, and_true]
  exact ⟨of_required hproper yields_float hlow, of_required hproper yields_float hmedium,
    of_required hproper yields_float hhigh⟩

theorem ComplexityThreshold.yields :
    Yields (Threshold.read ComplexityGrades.read) fun t : ComplexityThreshold =>
      ∀ x ∈ t.values, x.isFinite = true :=
  Threshold.yields (fun _ hx => List.forall_mem_singleton.2 hx) ComplexityGrades.yields

theorem PercentThreshold.yields :
    Yields (Threshold.read PercentGrades.read) fun t : PercentThreshold =>
      ∀ x ∈ t.values, x.isFinite = true :=
  Threshold.yields (fun _ hx => List.forall_mem_singleton.2 hx) PercentGrades.yields

theorem Thresholds.yields : Yields read Thresholds.IsFinite := by
  intro v t hv h
  obtain ⟨fields, hfields, h⟩ := Option.bind_eq_some_iff.1 h
  obtain ⟨complexity, hcomplexity, h⟩ := Option.bind_eq_some_iff.1 h
  obtain ⟨maintainability, hmaintainability, h⟩ := Option.bind_eq_some_iff.1 h
  obtain ⟨coverage, hcoverage, ⟨⟩⟩ := Option.bind_eq_some_iff.1 h
  have hproper := isProper_of_fields? hv hfields
  exact {
    complexity := of_optionalField hproper ComplexityThreshold.yields hcomplexity
    maintainability := of_optionalField hproper PercentThreshold.yields hmaintainability
    coverage := of_optionalField hproper PercentThreshold.yields hcoverage }

/-- Options that are read from a proper value have finite numbers only. -/
theorem Options.yields : Yields read Options.IsFinite := by
  intro v o hv h
  obtain ⟨fields, hfields, h⟩ := Option.bind_eq_some_iff.1 h
  obtain ⟨rules, -, h⟩ := Option.bind_eq_some_iff.1 h
  obtain ⟨thresholds, hthresholds, h⟩ := Option.bind_eq_some_iff.1 h
  obtain ⟨includeSuggestions, -, h⟩ := Option.bind_eq_some_iff.1 h
  obtain ⟨skipDependencies, -, ⟨⟩⟩ := Option.bind_eq_some_iff.1 h
  exact of_optionalField (isProper_of_fields? hv hfields) Thresholds.yields hthresholds

/-! ### The round trip -/

/-- Options and reviews with finite numbers are read back as they were written. Options that were read
from any proper value, such as that of any JSON text, are read again from what is written of them. -/
theorem records_read_back :
    (∀ o : Options, o.IsFinite → Options.read o.toJson = some o) ∧
      (∀ r : DatedReview, r.IsFinite → r.FitsWords → r.timestamp.IsMoment →
        DatedReview.read r.toJson = some r) ∧
      (∀ (v : Json) (o : Options), v.IsProper → Options.read v = some o →
        Options.read o.toJson = some o) ∧
      ∀ (text : String) (v : Json), Json.parse? text = some v → v.IsProper := by
  refine ⟨?_, ?_, ?_, ?_⟩
  · intro o ho
    exact (Options.readsBack ho).read_write
  · intro r hfinite hfits hmoment
    exact (DatedReview.readsBack hfinite hfits hmoment).read_write
  · intro v o hv ho
    exact (Options.readsBack (Options.yields v o hv ho)).read_write
  · intro text v hv
    exact Json.isProper_of_parse? hv

/-- Graded and single thresholds, a review made in a leap second, and options given as a list. -/
theorem records_read_back_leap_second :
    let o : Options :=
      { rules := some ["no-var"]
        thresholds := some
          { complexity := some (.graded ⟨5, 10.5, 20, 40⟩), coverage := some (.single 80) } }
    let r : DatedReview :=
      { filePath := "a.py"
        language := "python"
        issues := [⟨.warning, .low, "Too long", 3, some 80, "long", some ⟨"Break it", ""⟩⟩]
        metrics := { maintainability := 92.5, linesOfCode := 2, dependencies := ["os"] }
        suggestions := [⟨.extract, .high, "Split it", 1, { complexityReduction := some 1.5 }⟩]
        timestamp := ⟨1483228799, 1500000000⟩ }
    let v : Json := .arr [.null, .obj [("coverage", .int 80), ("other", .null)], .bool true]
    let p : Options :=
      { thresholds := some { coverage := some (.single (Decimal.ofInt 80)) }
        includeSuggestions := some true }
    Options.read o.toJson = some o ∧ DatedReview.read r.toJson = some r ∧
      Options.read v = some p ∧ Options.read p.toJson = some p ∧
      ∃ w, Json.parse? "[null,\x7b\"coverage\":80.5\x7d]" = some w ∧ w.IsProper := by
  intro o r v p
  obtain ⟨hoptions, hreview, hagain, hproper⟩ := records_read_back
  refine ⟨hoptions o ?_, hreview r ?_ ?_ (by decide), rfl, hagain v p ?_ rfl, ?_⟩
  · rintro t ⟨⟩
    refine ⟨?_, nofun, ?_⟩
    · rintro c ⟨⟩
      decide
    · rintro c ⟨⟩
      decide
  · refine ⟨⟨by decide, by decide, by decide, by decide⟩, ?_⟩
    rw [List.forall_mem_singleton]
    refine ⟨?_, nofun⟩
    rintro x ⟨⟩
    decide
  · refine ⟨?_, ⟨by decide, by decide, by decide⟩, by decide⟩
    rw [List.forall_mem_singleton]
    exact ⟨by decide, by decide⟩
  · refine .arr ?_
    simp only [List.forall_mem_cons, List.not_mem_nil, false_implies, implies_true, and_true]
    refine ⟨.null, .obj ?_, .bool true⟩
    simp only [List.forall_mem_cons, List.not_mem_nil, false_implies, implies_true, and_true]
    exact ⟨.int (by decide) (by decide), .null⟩
  · obtain ⟨w, hw⟩ := Option.isSome_iff_exists.1
      (show (Json.parse? "[null,\x7b\"coverage\":80.5\x7d]").isSome = true by decide +kernel)
    exact ⟨w, hw, hproper _ w hw⟩

end SourceReview
