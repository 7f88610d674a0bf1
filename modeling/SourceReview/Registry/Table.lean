import SourceReview.Total

/-!
# Tables

A table holds a value for each of finitely many names.
-/

namespace SourceReview

/-- A finite map from names to values. -/
structure Table (α : Type) where
  entries : List (String × α) := []
  /-- No name has two entries. -/
  distinct : (entries.map Prod.fst).Nodup := by simp

namespace Table

variable {α : Type}

/-- The value of a name. -/
def get? (t : Table α) (name : String) : Option α := t.entries.lookup name

/-- Whether a name has a value. -/
def contains (t : Table α) (name : String) : Bool := (t.get? name).isSome

/-- The table restricted to the entries that satisfy `p`. -/
def filter (t : Table α) (p : String → α → Bool) : Table α where
  entries := t.entries.filter fun e => p e.1 e.2
  distinct := t.distinct.sublist (List.filter_sublist.map _)

/-- The table without a name. -/
def erase (t : Table α) (name : String) : Table α := t.filter fun n _ => n != name

/-- The table with a value for a name, in place of the one it had. -/
def insert (t : Table α) (name : String) (value : α) : Table α where
  entries := (name, value) :: (t.erase name).entries
  distinct := by
    refine List.nodup_cons.2 ⟨?_, (t.erase name).distinct⟩
    simp [erase, filter]

/-- The table with the value of a name changed, if it has one. -/
def modify (t : Table α) (name : String) (f : α → α) : Table α where
  entries := t.entries.map fun e => if e.1 = name then (e.1, f e.2) else e
  distinct := by
    have h : ∀ e : String × α, (if e.1 = name then (e.1, f e.2) else e).1 = e.1 := by
      intro e
      split <;> rfl
    simpa [Function.comp_def, h] using t.distinct

/-- The sum of the values. -/
def sum (t : Table Nat) : Nat := total (t.entries.map Prod.snd)

/-- The names, sorted. -/
def names (t : Table α) : List String :=
  (t.entries.map Prod.fst).mergeSort fun a b => !decide (b < a)

/-- The entries, sorted by name. -/
def sorted (t : Table α) : List (String × α) :=
  t.entries.mergeSort fun a b => !decide (b.1 < a.1)

end Table

end SourceReview
