import SourceReview.FileTree.Collect
import SourceReview.Proofs.Registry.Table
import SourceReview.Proofs.Text.Segment

/-!
# Which files are collected, and in which order

The walk through a tree is a recursion on the tree: it leaves out directories on the way down, sorts
the entries of each directory, and filters what is left at the end. `collect_exact` says what comes
out of it without a recursion: a file is collected if the names on the way to it, its path and its
language are as wanted, and the files are in the lexicographic order of the names on the way to
them, which is the order of a walk that goes through the sorted entries of each directory and into
each of them where it stands.

The two parts are shown for the walk first, by induction on the tree (`mem_walk_iff`,
`pairwise_walk`).
-/

namespace SourceReview.FileTree

/-- In every directory of the tree, no two entries have the same name, and no name holds a slash. -/
inductive WellFormed : FileTree → Prop where
  | file (bytes : List UInt8) : WellFormed (.file bytes)
  | directory {es : List (String × FileTree)} (distinct : (es.map Prod.fst).Nodup)
      (plain : ∀ e ∈ es, '/' ∉ e.1.toList) (inner : ∀ e ∈ es, WellFormed e.2) :
      WellFormed (.directory es)

/-- The names lead from the root of the tree to a file. -/
inductive HasFile : FileTree → List String → Prop where
  | here (bytes : List UInt8) : HasFile (.file bytes) []
  | inside {es : List (String × FileTree)} {name : String} {tree : FileTree} {names : List String}
      (entry : (name, tree) ∈ es) (rest : HasFile tree names) :
      HasFile (.directory es) (name :: names)

variable {tree : FileTree} {names : List String}

/-- The way to a file is empty just if the tree is a file. -/
theorem HasFile.isDirectory_iff (h : tree.HasFile names) :
    tree.isDirectory = true ↔ names ≠ [] := by
  cases h with
  | here bytes => simp [isDirectory]
  | inside entry rest => simp [isDirectory]

/-! ### The walk -/

theorem walkEntries_eq_map (es : List (String × FileTree)) :
    walkEntries es
      = es.map fun e => (e.1, if e.2.isDirectory && isPassedOver e.1 then [] else walk e.2) := by
  induction es with
  | nil => rfl
  | cons e es ih => rw [walkEntries, ih, List.map_cons]

theorem map_fst_walkEntries (es : List (String × FileTree)) :
    (walkEntries es).map Prod.fst = es.map Prod.fst := by
  rw [walkEntries_eq_map, List.map_map]
  rfl

theorem mem_walk_directory_iff {es : List (String × FileTree)} :
    names ∈ walk (.directory es) ↔
      ∃ e ∈ es, (e.2.isDirectory && isPassedOver e.1) = false ∧
        ∃ rest ∈ walk e.2, names = e.1 :: rest := by
  rw [walk, List.mem_flatMap]
  simp only [List.mem_mergeSort, walkEntries_eq_map, List.mem_map]
  constructor
  · rintro ⟨_, ⟨e, he, rfl⟩, rest, hrest, rfl⟩
    split at hrest
    · exact absurd hrest List.not_mem_nil
    · rename_i hkept
      exact ⟨e, he, Bool.eq_false_iff.2 hkept, rest, hrest, rfl⟩
  · rintro ⟨e, he, hkept, rest, hrest, rfl⟩
    exact ⟨_, ⟨e, he, rfl⟩, rest, by rwa [hkept, if_neg Bool.false_ne_true], rfl⟩

/-- The walk finds the files that no directory on the way to hides. -/
theorem mem_walk_iff (h : tree.WellFormed) :
    names ∈ tree.walk ↔
      tree.HasFile names ∧ ∀ name ∈ names.dropLast, isPassedOver name = false := by
  induction h generalizing names with
  | file bytes =>
    rw [walk, List.mem_singleton]
    constructor
    · rintro rfl
      exact ⟨.here bytes, by simp⟩
    · rintro ⟨hfile, -⟩
      cases hfile
      rfl
  | @directory es distinct plain inner ih =>
    rw [mem_walk_directory_iff]
    constructor
    · rintro ⟨e, he, hkept, rest, hrest, rfl⟩
      obtain ⟨hfile, hrest⟩ := (ih e he).1 hrest
      refine ⟨.inside he hfile, ?_⟩
      by_cases hempty : rest = []
      · simp [hempty]
      · rw [hfile.isDirectory_iff.2 hempty, Bool.true_and] at hkept
        rw [List.dropLast_cons_of_ne_nil hempty, List.forall_mem_cons]
        exact ⟨hkept, hrest⟩
    · rintro ⟨hfile, hnames⟩
      cases hfile with
      | @inside _ name tree rest entry hrest =>
        by_cases hempty : rest = []
        · -- The entry is the file itself, whose name does not count.
          have hdirectory : tree.isDirectory = false := by
            rw [Bool.eq_false_iff]
            exact fun hdir => hrest.isDirectory_iff.1 hdir hempty
          refine ⟨_, entry, by simp [hdirectory], rest, (ih _ entry).2 ⟨hrest, ?_⟩, rfl⟩
          simp [hempty]
        · rw [List.dropLast_cons_of_ne_nil hempty, List.forall_mem_cons] at hnames
          exact ⟨_, entry, by simp [hnames.1], rest, (ih _ entry).2 ⟨hrest, hnames.2⟩, rfl⟩

/-- The walk goes through the files in the order of the names on the way to them. -/
theorem pairwise_walk (h : tree.WellFormed) : tree.walk.Pairwise (· < ·) := by
  induction h with
  | file bytes => exact List.pairwise_singleton _ _
  | @directory es distinct plain inner ih =>
    have hdistinct : ((walkEntries es).map Prod.fst).Nodup := by rwa [map_fst_walkEntries]
    have hsorted := Table.pairwise_sorted ⟨walkEntries es, hdistinct⟩
    rw [walk, List.pairwise_flatMap]
    constructor
    · -- What is found below one entry begins with the same name.
      intro found hfound
      rw [List.mem_mergeSort, walkEntries_eq_map, List.mem_map] at hfound
      obtain ⟨e, he, rfl⟩ := hfound
      rw [List.pairwise_map]
      split
      · exact List.Pairwise.nil
      · exact (ih e he).imp fun hlt => List.cons_lt_cons_iff.2 (.inr ⟨rfl, hlt⟩)
    · -- What is found below two entries is in the order of their names.
      refine List.Pairwise.imp ?_ hsorted
      intro first second hlt names hnames others hothers
      obtain ⟨rest, -, rfl⟩ := List.mem_map.1 hnames
      obtain ⟨rest', -, rfl⟩ := List.mem_map.1 hothers
      exact List.cons_lt_cons_iff.2 (.inl hlt)

/-! ### Paths -/

theorem WellFormed.slash_not_mem (h : tree.WellFormed) (hfile : tree.HasFile names) :
    ∀ name ∈ names, '/' ∉ name.toList := by
  induction hfile with
  | here bytes => simp
  | inside entry rest ih =>
    cases h with
    | directory distinct plain inner =>
      exact List.forall_mem_cons.2 ⟨plain _ entry, ih (inner _ entry)⟩

/-- The names on a path are the pieces between its slashes. -/
theorem splitBy_intercalate (hne : names ≠ []) (h : ∀ name ∈ names, '/' ∉ name.toList) :
    Text.splitBy (· == '/') ("/".intercalate names).toList = names.map String.toList := by
  induction names with
  | nil => exact absurd rfl hne
  | cons name names ih =>
    rw [List.forall_mem_cons] at h
    have hname : ∀ c ∈ name.toList, (c == '/') = false := by
      intro c hc
      rw [beq_eq_false_iff_ne]
      rintro rfl
      exact h.1 hc
    cases names with
    | nil =>
      rw [String.intercalate_singleton, Text.splitBy_eq_singleton hname]
      rfl
    | cons next names =>
      have hpath : ("/".intercalate (name :: next :: names)).toList
          = name.toList ++ '/' :: ("/".intercalate (next :: names)).toList := by
        rw [String.intercalate_cons_cons, String.toList_append, String.toList_append,
          List.append_assoc]
        rfl
      rw [hpath, Text.splitBy_append_cons hname (by decide), ih (by simp) h.2]
      rfl

/-- No two files of a tree have the same path. -/
theorem eq_of_pathBelow_eq (h : tree.WellFormed) {root : String} {others : List String}
    (hfile : tree.HasFile names) (hother : tree.HasFile others)
    (heq : pathBelow root names = pathBelow root others) : names = others := by
  cases tree with
  | file bytes =>
    cases hfile
    cases hother
    rfl
  | directory es =>
    have hnames : names ≠ [] := hfile.isDirectory_iff.1 rfl
    have hothers : others ≠ [] := hother.isDirectory_iff.1 rfl
    have hjoined : "/".intercalate names = "/".intercalate others := by
      have hnames' : ¬names.isEmpty = true := by simpa using hnames
      have hothers' : ¬others.isEmpty = true := by simpa using hothers
      unfold pathBelow at heq
      rw [if_neg hnames', if_neg hothers'] at heq
      split at heq
      · exact (String.append_right_inj _).1 heq
      · exact (String.append_right_inj _).1 heq
    -- The names can be read off the path again, since none of them holds a slash.
    have hpieces := splitBy_intercalate hnames (h.slash_not_mem hfile)
    rw [hjoined, splitBy_intercalate hothers (h.slash_not_mem hother)] at hpieces
    exact (List.map_inj_right fun _ _ => String.toList_inj.1).1 hpieces.symm

/-! ### The files that are wanted -/

theorem isPassedOver_eq_false_iff {name : String} :
    isPassedOver name = false ↔ name.toList.head? ≠ some '.' ∧ name ∉ foreignDirectories := by
  have hhidden : name.startsWith "." = true ↔ name.toList.head? = some '.' := by
    rw [String.startsWith_string_iff]
    show ['.'] <+: name.toList ↔ _
    cases name.toList with
    | nil => simp
    | cons c cs => simp [eq_comm]
  unfold isPassedOver
  rw [Bool.or_eq_false_iff, Bool.eq_false_iff, Ne, hhidden, Bool.eq_false_iff, Ne,
    List.contains_iff_mem]

theorem isWanted_iff {registry : Registry} {isExcluded : String → Bool} {language : Option String}
    {root : String} :
    isWanted registry isExcluded language root names = true ↔
      isExcluded ("/".intercalate names) = false ∧
        ∃ found, registry.detect? (pathBelow root names) = some found ∧
          ∀ wanted, language = some wanted → Text.eqIgnoringAsciiCase wanted found = true := by
  have hcase : ∀ wanted found : String,
      (wanted.map Char.toLower == found.map Char.toLower) = true ↔
        Text.eqIgnoringAsciiCase wanted found = true := by
    intro wanted found
    unfold Text.eqIgnoringAsciiCase
    rw [beq_iff_eq, beq_iff_eq, ← String.toList_inj, String.toList_map, String.toList_map]
  unfold isWanted
  rw [Bool.and_eq_true, Bool.not_eq_true']
  apply and_congr_right'
  cases registry.detect? (pathBelow root names) with
  | none => simp
  | some found => cases language <;> simp [hcase]

/-- **A tree is collected exactly.** The collected files are those to which no hidden or foreign
directory leads, whose path below the root is not excluded, and whose language is known and is the
wanted one, up to the case of ASCII letters, if one is wanted. Each of them is there once, and they
are in the lexicographic order of the names on the way to them. -/
theorem collect_exact (h : tree.WellFormed) (registry : Registry) (isExcluded : String → Bool)
    (language : Option String) (root : String) :
    (tree.collect registry isExcluded language root).Nodup ∧
    ∃ files : List (List String),
      tree.collect registry isExcluded language root = files.map (pathBelow root) ∧
      files.Pairwise (· < ·) ∧
      ∀ names, names ∈ files ↔
        tree.HasFile names ∧
        (∀ name ∈ names.dropLast, name.toList.head? ≠ some '.' ∧ name ∉ foreignDirectories) ∧
        isExcluded ("/".intercalate names) = false ∧
        ∃ found, registry.detect? (pathBelow root names) = some found ∧
          ∀ wanted, language = some wanted → Text.eqIgnoringAsciiCase wanted found = true := by
  have hsorted : (tree.walk.filter (isWanted registry isExcluded language root)).Pairwise (· < ·) :=
    (pairwise_walk h).filter _
  constructor
  · unfold collect
    rw [List.Nodup, List.pairwise_map]
    refine hsorted.imp_of_mem ?_
    intro names others hnames hothers hlt heq
    have hfile := ((mem_walk_iff h).1 (List.mem_filter.1 hnames).1).1
    have hother := ((mem_walk_iff h).1 (List.mem_filter.1 hothers).1).1
    rw [eq_of_pathBelow_eq h hfile hother heq] at hlt
    exact List.lt_irrefl _ hlt
  · refine ⟨_, rfl, hsorted, ?_⟩
    intro names
    rw [List.mem_filter, mem_walk_iff h, isWanted_iff, and_assoc]
    simp only [isPassedOver_eq_false_iff]

/-- The walk begins in a directory of a foreign name, with a hidden file and a hidden directory. -/
theorem collect_exact_vendor :
    let foreign : FileTree := .directory [("m.py", .file [])]
    let inner : FileTree := .directory [("vendor", foreign), ("n.PY", .file [])]
    let tree : FileTree := .directory [("lib", inner), (".git", foreign), (".a.py", .file [])]
    tree.WellFormed ∧
    ∃ files : List (List String),
      tree.collect .builtin (fun _ => false) (some "PYTHON") "vendor"
        = files.map (pathBelow "vendor") ∧
      files.Pairwise (· < ·) ∧ [".a.py"] ∈ files ∧ ["lib", "n.PY"] ∈ files ∧
      [".git", "m.py"] ∉ files ∧ ["lib", "vendor", "m.py"] ∉ files := by
  intro foreign inner tree
  have hforeign : foreign.WellFormed :=
    .directory (by decide) (by decide) (by simpa using WellFormed.file [])
  have hinner : inner.WellFormed := by
    refine .directory (by decide) (by decide) ?_
    simpa using ⟨hforeign, WellFormed.file []⟩
  have htree : tree.WellFormed := by
    refine .directory (by decide) (by decide) ?_
    simpa using ⟨hinner, hforeign, WellFormed.file []⟩
  obtain ⟨-, files, hfiles, hsorted, hmem⟩ :=
    collect_exact htree .builtin (fun _ => false) (some "PYTHON") "vendor"
  refine ⟨htree, files, hfiles, hsorted, ?_, ?_, ?_, ?_⟩
  · have hfile : tree.HasFile [".a.py"] := .inside (by simp) (.here [])
    have hpath : pathBelow "vendor" [".a.py"] = "vendor/.a.py" := by decide +kernel
    refine (hmem _).2 ⟨hfile, by decide, rfl, "python", by rw [hpath]; decide, ?_⟩
    rintro wanted ⟨⟩
    decide
  · have hfile : tree.HasFile ["lib", "n.PY"] := by
      have hlib : inner.HasFile ["n.PY"] := .inside (by simp) (.here [])
      exact .inside (by simp) hlib
    have hpath : pathBelow "vendor" ["lib", "n.PY"] = "vendor/lib/n.PY" := by decide +kernel
    refine (hmem _).2 ⟨hfile, by decide, rfl, "python", by rw [hpath]; decide, ?_⟩
    rintro wanted ⟨⟩
    decide
  · intro hhidden
    exact (((hmem _).1 hhidden).2.1 ".git" (by simp)).1 (by decide)
  · intro hbelow
    exact (((hmem _).1 hbelow).2.1 "vendor" (by simp)).2 (by decide)

end SourceReview.FileTree
