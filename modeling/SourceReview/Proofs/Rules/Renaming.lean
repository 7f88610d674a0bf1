import Mathlib.Data.List.Chain
import SourceReview.Proofs.Rules.Naming

/-!
# What a renaming keeps of a name

A name of ASCII characters that is converted to another spelling is still the same name: apart from
underscores and the case of its letters, nothing is lost, doubled or moved. Each conversion is one
pass over the name, and what it writes for a character has the letters of that character
(`letters_snakeFrom`, `letters_mixedFrom`, `letters_camelFrom`).

More can be said about the underscores that join words of small letters. One step of that pass is
`snakeFrom_cons`: every character is lowered, and some are set off from what is before them. So the
result is the name cut into words, lowered and joined (`exists_words_snakeFrom`), where no word is
empty and two words meet only between characters that are no underscores (`IsCut`): an underscore
that is put in never comes next to another. A name without capitals is its own conversion
(`snakeFrom_of_no_capital`).

The main statement is `renaming_keeps_letters`.
-/

namespace SourceReview.Naming

/-! ### The letters of a name -/

/-- A name apart from its spelling: without its underscores, in small letters. -/
def letters (name : List Char) : List Char := (name.filter (· ≠ '_')).map Char.toLower

theorem letters_append (s t : List Char) : letters (s ++ t) = letters s ++ letters t := by
  unfold letters
  rw [List.filter_append, List.map_append]

theorem letters_cons (c : Char) (cs : List Char) : letters (c :: cs) = letters [c] ++ letters cs :=
  letters_append [c] cs

theorem toLower_of_not_isUpper {c : Char} (h : ¬ c.isUpper = true) : c.toLower = c :=
  dif_neg fun hrange => h (decide_eq_true hrange)

theorem letters_toLower (c : Char) : letters [c.toLower] = letters [c] := by
  by_cases hupper : c.isUpper = true
  · have hascii : c.toNat < 128 := by
      have := (Text.isUpper_iff.1 hupper).2
      omega
    exact Text.of_forall_ascii (p := fun c => letters [c.toLower] = letters [c]) (by decide) hascii
  · rw [toLower_of_not_isUpper hupper]

theorem letters_lowerForm {c : Char} (hc : c.toNat < 128) :
    letters (Text.lowerForm c) = letters [c] := by
  rw [Text.lowerForm, if_pos hc]
  exact letters_toLower c

theorem letters_upperForm {c : Char} (hc : c.toNat < 128) :
    letters (Text.upperForm c) = letters [c] := by
  rw [Text.upperForm, if_pos hc]
  exact Text.of_forall_ascii (p := fun c => letters [c.toUpper] = letters [c]) (by decide) hc

theorem letters_mixedFrom {name : List Char} (hname : ∀ c ∈ name, c.toNat < 128)
    (blank raise : Bool) : letters (mixedFrom blank raise name) = letters name := by
  induction name generalizing blank raise with
  | nil => rfl
  | cons c cs ih =>
    obtain ⟨hc, hcs⟩ := List.forall_mem_cons.1 hname
    rw [mixedFrom]
    split
    · rename_i hunderscore
      rw [ih hcs, hunderscore]
      rfl
    · split
      · rw [letters_append, letters_upperForm hc, ih hcs, ← letters_cons]
      · rw [letters_cons, ih hcs, ← letters_cons]

theorem letters_camelFrom {name : List Char} (hname : ∀ c ∈ name, c.toNat < 128)
    (start blank raise : Bool) : letters (camelFrom start blank raise name) = letters name := by
  induction name generalizing start blank raise with
  | nil => rfl
  | cons c cs ih =>
    obtain ⟨hc, hcs⟩ := List.forall_mem_cons.1 hname
    rw [camelFrom]
    split
    · rename_i hunderscore
      rw [ih hcs, hunderscore]
      rfl
    · split
      · rw [letters_append, letters_upperForm hc, ih hcs, ← letters_cons]
      · split
        · rw [letters_append, letters_lowerForm hc, ih hcs, ← letters_cons]
        · rw [letters_cons, ih hcs, ← letters_cons]

/-! ### One step of the pass to small letters -/

/-- Every character is lowered, and a capital that begins a word is set off by an underscore. -/
theorem snakeFrom_cons (prev : Option Char) (c : Char) (cs : List Char) :
    snakeFrom prev (c :: cs) = (if c.isUpper && beginsWord prev cs.head? then ['_'] else []) ++
      c.toLower :: snakeFrom (some c) cs := by
  rw [snakeFrom]
  by_cases hupper : c.isUpper = true
  · rw [if_pos hupper, hupper, Bool.true_and]
    split <;> rfl
  · rw [if_neg hupper, toLower_of_not_isUpper hupper, Bool.eq_false_iff.2 hupper, Bool.false_and]
    rfl

theorem letters_snakeFrom (prev : Option Char) (name : List Char) :
    letters (snakeFrom prev name) = letters name := by
  induction name generalizing prev with
  | nil => rfl
  | cons c cs ih =>
    have hset : letters (if c.isUpper && beginsWord prev cs.head? then ['_'] else []) = [] := by
      split <;> rfl
    rw [snakeFrom_cons, letters_append, hset, List.nil_append, letters_cons, letters_toLower, ih,
      ← letters_cons]

theorem snakeFrom_of_no_capital {name : List Char} (h : ∀ c ∈ name, c.isUpper = false)
    (prev : Option Char) : snakeFrom prev name = name := by
  induction name generalizing prev with
  | nil => rfl
  | cons c cs ih =>
    obtain ⟨hc, hcs⟩ := List.forall_mem_cons.1 h
    rw [snakeFrom, if_neg (Bool.eq_false_iff.1 hc), ih hcs]

/-! ### Words and the underscores between them -/

/-- The words are what a name is cut into, in their order. None is empty, and where one ends and the
next begins there is an underscore on neither side. -/
structure IsCut (name : List Char) (words : List (List Char)) : Prop where
  flatten_eq : words.flatten = name
  ne_nil : ∀ w ∈ words, w ≠ []
  apart : words.IsChain fun u v => u.getLast? ≠ some '_' ∧ v.head? ≠ some '_'

/-- Words in small letters, with an underscore put in between any two. -/
def joined (words : List (List Char)) : List Char :=
  ['_'].intercalate (words.map (·.map Char.toLower))

theorem joined_begin (c : Char) (w : List Char) (ws : List (List Char)) :
    joined ([c] :: w :: ws) = c.toLower :: '_' :: joined (w :: ws) :=
  List.intercalate_cons_cons

theorem joined_extend (c : Char) (w : List Char) (ws : List (List Char)) :
    joined ((c :: w) :: ws) = c.toLower :: joined (w :: ws) := by
  unfold joined
  rw [List.map_cons, List.map_cons, List.map_cons, List.intercalate_cons_cons_left]

theorem isCut_singleton (c : Char) : IsCut [c] [[c]] where
  flatten_eq := rfl
  ne_nil := by simp
  apart := .singleton [c]

/-- A character is a word of its own before a word that begins with the character after it. -/
theorem IsCut.begin {c d : Char} {ds w : List Char} {ws : List (List Char)}
    (h : IsCut (d :: ds) (w :: ws)) (hc : c ≠ '_') (hd : d ≠ '_') :
    IsCut (c :: d :: ds) ([c] :: w :: ws) where
  flatten_eq := congrArg (c :: ·) h.flatten_eq
  ne_nil := List.forall_mem_cons.2 ⟨List.cons_ne_nil c [], h.ne_nil⟩
  apart := by
    obtain ⟨e, es, rfl⟩ := List.exists_cons_of_ne_nil (h.ne_nil w List.mem_cons_self)
    have hhead : e = d := (List.cons.inj h.flatten_eq).1
    exact .cons_cons ⟨by simpa using hc, by simpa [hhead] using hd⟩ h.apart

/-- A character belongs to the word after it, whose end stays where it is. -/
theorem IsCut.extend {cs w : List Char} {ws : List (List Char)} (h : IsCut cs (w :: ws))
    (c : Char) : IsCut (c :: cs) ((c :: w) :: ws) where
  flatten_eq := congrArg (c :: ·) h.flatten_eq
  ne_nil := List.forall_mem_cons.2 ⟨List.cons_ne_nil c w, (List.forall_mem_cons.1 h.ne_nil).2⟩
  apart := by
    obtain ⟨e, es, rfl⟩ := List.exists_cons_of_ne_nil (h.ne_nil w List.mem_cons_self)
    refine h.apart.imp_head ?_
    intro v hv
    rwa [List.getLast?_cons_cons]

theorem ne_underscore_of_beginsWord {p : Char} {next : Option Char}
    (h : beginsWord (some p) next = true) : p ≠ '_' := by
  rintro rfl
  cases h

theorem ne_underscore_of_isUpper {c : Char} (h : c.isUpper = true) : c ≠ '_' := by
  rintro rfl
  cases h

/-- What is written for a name, apart from an underscore before its first character, is the name cut
into words that are joined. -/
theorem exists_words_snakeFrom (c : Char) (cs : List Char) :
    ∃ w ws, IsCut (c :: cs) (w :: ws) ∧ c.toLower :: snakeFrom (some c) cs = joined (w :: ws) := by
  induction cs generalizing c with
  | nil => exact ⟨[c], [], isCut_singleton c, rfl⟩
  | cons d ds ih =>
    obtain ⟨w, ws, hcut, hjoined⟩ := ih d
    rw [snakeFrom_cons, hjoined]
    -- The next character decides whether the word of `c` ends here.
    split
    · rename_i hbegins
      obtain ⟨hupper, hword⟩ := Bool.and_eq_true_iff.1 hbegins
      refine ⟨[c], w :: ws, ?_, (joined_begin c w ws).symm⟩
      exact hcut.begin (ne_underscore_of_beginsWord hword) (ne_underscore_of_isUpper hupper)
    · exact ⟨c :: w, ws, hcut.extend c, (joined_extend c w ws).symm⟩

theorem exists_words_toSnakeCase (name : List Char) :
    ∃ words, IsCut name words ∧ toSnakeCase name = joined words := by
  cases name with
  | nil => exact ⟨[], ⟨rfl, by simp, .nil⟩, rfl⟩
  | cons c cs =>
    obtain ⟨w, ws, hcut, hjoined⟩ := exists_words_snakeFrom c cs
    refine ⟨w :: ws, hcut, ?_⟩
    -- Nothing is set off at the beginning of a name.
    have hfirst : (c.isUpper && beginsWord none cs.head?) = false := Bool.and_false _
    rw [toSnakeCase, snakeFrom_cons, hfirst, hjoined]
    rfl

/-- **A renaming keeps the letters of a name**, for every name of ASCII characters: each of the
three conversions gives a name with the same letters in the same order, apart from underscores and
case. The conversion to small letters leaves no capital, puts an underscore in only between two
characters of the name that are no underscores themselves, and changes nothing when repeated. -/
theorem renaming_keeps_letters {name : List Char} (hname : ∀ c ∈ name, c.toNat < 128) :
    (letters (toSnakeCase name) = letters name ∧
      letters (toCamelCase name) = letters name ∧
      letters (toMixedCaps name) = letters name) ∧
    (∀ c ∈ toSnakeCase name, c.isUpper = false) ∧
    (∃ words, IsCut name words ∧ toSnakeCase name = joined words) ∧
    toSnakeCase (toSnakeCase name) = toSnakeCase name := by
  have hsmall : ∀ c ∈ toSnakeCase name, c.isUpper = false := fun c => isUpper_of_mem_snakeFrom
  refine ⟨⟨?_, ?_, ?_⟩, hsmall, ?_, ?_⟩
  · exact letters_snakeFrom none name
  · exact letters_camelFrom hname true true false
  · exact letters_mixedFrom hname true false
  · exact exists_words_toSnakeCase name
  · exact snakeFrom_of_no_capital hsmall none

/-- The statement at a name with underscores at the beginning and before a capital, a run of
capitals and a digit. -/
theorem renaming_keeps_letters_capital_run :
    (∀ c ∈ "__parseXML2File_Now".toList, c.toNat < 128) ∧
    toSnakeCase "__parseXML2File_Now".toList = "__parse_xml2_file_now".toList ∧
    toCamelCase "__parseXML2File_Now".toList = "ParseXML2FileNow".toList ∧
    toMixedCaps "__parseXML2File_Now".toList = "parseXML2FileNow".toList ∧
    letters "__parse_xml2_file_now".toList = letters "__parseXML2File_Now".toList ∧
    letters "ParseXML2FileNow".toList = letters "__parseXML2File_Now".toList ∧
    letters "parseXML2FileNow".toList = letters "__parseXML2File_Now".toList ∧
    (∀ c ∈ "__parse_xml2_file_now".toList, c.isUpper = false) ∧
    (∃ words, IsCut "__parseXML2File_Now".toList words ∧
      "__parse_xml2_file_now".toList = joined words) ∧
    toSnakeCase "__parse_xml2_file_now".toList = "__parse_xml2_file_now".toList := by
  have hascii : ∀ c ∈ "__parseXML2File_Now".toList, c.toNat < 128 := by
    have hall : "__parseXML2File_Now".toList.all (fun c => c.toNat < 128) = true := by decide
    intro c hc
    exact of_decide_eq_true (List.all_eq_true.1 hall c hc)
  have hsnake : toSnakeCase "__parseXML2File_Now".toList = "__parse_xml2_file_now".toList := by
    decide
  have hcamel : toCamelCase "__parseXML2File_Now".toList = "ParseXML2FileNow".toList := by decide
  have hmixed : toMixedCaps "__parseXML2File_Now".toList = "parseXML2FileNow".toList := by decide
  obtain ⟨⟨hs, hc, hm⟩, hsmall, hwords, hagain⟩ := renaming_keeps_letters hascii
  rw [hsnake] at hs hsmall hwords hagain
  rw [hcamel] at hc
  rw [hmixed] at hm
  exact ⟨hascii, hsnake, hcamel, hmixed, hs, hc, hm, hsmall, hwords, hagain⟩

end SourceReview.Naming
