import SourceReview.Proofs.Text.Segment
import SourceReview.Text.Path

/-!
# Extensions of paths

The extension of a path is what follows the last dot of the last name on it. So it holds neither a
dot nor a slash (`not_mem_of_extension?`); and where a name consists of a stem, a dot and a text
that holds neither, that text is its extension (`extension?_append`).
-/

namespace SourceReview.Path

/-! ### File names -/

theorem eq_of_stepOf?_eq_entry {piece name : List Char} (h : stepOf? piece = some (.entry name)) :
    piece = name := by
  unfold stepOf? at h
  split at h
  · cases h
  · split at h
    · cases h
    · cases h
      rfl

/-- Every entry on a path is one of the pieces between its slashes. -/
theorem mem_splitBy_of_entry_mem_steps {path : String} {name : List Char}
    (h : .entry name ∈ steps path) : name ∈ Text.splitBy (· == '/') path.toList := by
  have hrest : ∀ pieces : List (List Char), Step.entry name ∈ pieces.filterMap stepOf? →
      name ∈ pieces := by
    intro pieces h
    obtain ⟨piece, hpiece, hstep⟩ := List.mem_filterMap.1 h
    exact eq_of_stepOf?_eq_entry hstep ▸ hpiece
  unfold steps at h
  cases hsplit : Text.splitBy (· == '/') path.toList with
  | nil => simp [hsplit] at h
  | cons first pieces =>
    simp only [hsplit] at h
    split at h
    · split at h
      · cases h
      · rcases List.mem_cons.1 h with h | h
        · cases h
        · exact List.mem_cons_of_mem _ (hrest pieces h)
    · split at h
      · rcases List.mem_cons.1 h with h | h
        · cases h
        · exact List.mem_cons_of_mem _ (hrest pieces h)
      · rcases List.mem_append.1 h with h | h
        · rw [eq_of_stepOf?_eq_entry (Option.mem_toList.1 h)]
          exact List.mem_cons_self
        · exact List.mem_cons_of_mem _ (hrest pieces h)

/-- A file name holds no slash. -/
theorem slash_not_mem_of_fileName? {path : String} {name : List Char}
    (h : fileName? path = some name) : '/' ∉ name := by
  unfold fileName? at h
  split at h
  · rename_i last hlast
    cases h
    intro hslash
    have hpiece := mem_splitBy_of_entry_mem_steps (List.mem_of_getLast? hlast)
    exact Bool.false_ne_true (Text.eq_false_of_mem_splitBy hpiece hslash).symm
  · cases h

/-- An extension holds neither a dot nor a slash. -/
theorem not_mem_of_extension? {path ext : String} (h : extension? path = some ext) :
    '.' ∉ ext.toList ∧ '/' ∉ ext.toList := by
  obtain ⟨name, hname, h⟩ := Option.bind_eq_some_iff.1 h
  obtain ⟨tail, htail, rfl⟩ := Option.map_eq_some_iff.1 h
  rw [String.toList_ofList]
  unfold nameExtension? at htail
  simp only at htail
  split at htail
  · cases htail
    rw [List.mem_reverse, List.mem_reverse]
    constructor
    · intro hdot
      exact absurd (List.all_eq_true.1 List.all_takeWhile _ hdot) (by decide)
    · intro hslash
      have hmem := List.mem_reverse.1 ((List.takeWhile_subset _) hslash)
      exact slash_not_mem_of_fileName? hname hmem
  · cases htail

/-! ### Names with a stem and an extension -/

/-- The extension of a name is what follows its last dot, if something stands before the dot. -/
theorem nameExtension?_append {stem form : List Char} (hstem : stem ≠ []) (hdot : '.' ∉ form) :
    nameExtension? (stem ++ '.' :: form) = some form := by
  have hform : ∀ c ∈ form.reverse, (c != '.') = true := by
    intro c hc
    rw [bne_iff_ne]
    rintro rfl
    exact hdot (List.mem_reverse.1 hc)
  have htail : (stem ++ '.' :: form).reverse.takeWhile (· != '.') = form.reverse := by
    rw [List.reverse_append, List.reverse_cons, List.append_assoc,
      List.takeWhile_append_of_pos hform]
    simp
  have hlength : 0 < stem.length := List.length_pos_iff.2 hstem
  unfold nameExtension?
  rw [htail]
  simp only [List.length_reverse, List.length_append, List.length_cons, List.reverse_reverse]
  rw [if_pos (by omega)]

/-- A name of three characters or more without a slash is the name of the file it leads to. -/
theorem fileName?_of_slash_not_mem {name : List Char} (hlength : 2 < name.length)
    (hslash : '/' ∉ name) : fileName? (String.ofList name) = some name := by
  have hsplit : Text.splitBy (· == '/') name = [name] := by
    apply Text.splitBy_eq_singleton
    intro c hc
    rw [beq_eq_false_iff_ne]
    rintro rfl
    exact hslash hc
  have hempty : name.isEmpty = false := by
    cases name with
    | nil => cases hlength
    | cons c cs => rfl
  have hone : name ≠ ['.'] := by
    rintro rfl
    exact absurd hlength (by decide)
  have htwo : name ≠ ['.', '.'] := by
    rintro rfl
    exact absurd hlength (by decide)
  have hstep : stepOf? name = some (.entry name) := by
    rw [stepOf?, hempty]
    simp [hone, htwo]
  unfold fileName? steps
  rw [String.toList_ofList, hsplit]
  simp [hempty, hone, hstep]

/-- A file name is a stem, a dot and an extension without dots. -/
theorem extension?_append {stem form : String} (hstem : stem ≠ "") (hform : form ≠ "")
    (hstem' : '/' ∉ stem.toList) (hform' : '/' ∉ form.toList) (hdot : '.' ∉ form.toList) :
    extension? (stem ++ "." ++ form) = some form := by
  have hname : stem ++ "." ++ form = String.ofList (stem.toList ++ '.' :: form.toList) := by
    apply String.toList_inj.1
    rw [String.toList_ofList, String.toList_append, String.toList_append, List.append_assoc]
    rfl
  have hempty : stem.toList ≠ [] := fun h => hstem (String.toList_eq_nil_iff.1 h)
  have hfile : fileName? (stem ++ "." ++ form) = some (stem.toList ++ '.' :: form.toList) := by
    rw [hname]
    apply fileName?_of_slash_not_mem
    · have hleft : 0 < stem.toList.length := List.length_pos_iff.2 hempty
      have hright : 0 < form.toList.length :=
        List.length_pos_iff.2 fun h => hform (String.toList_eq_nil_iff.1 h)
      rw [List.length_append, List.length_cons]
      omega
    · rw [List.mem_append, List.mem_cons]
      rintro (h | h | h)
      · exact hstem' h
      · exact absurd h (by decide)
      · exact hform' h
  rw [extension?, hfile, Option.bind_some, nameExtension?_append hempty hdot, Option.map_some,
    String.ofList_toList]

end SourceReview.Path
