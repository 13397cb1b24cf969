/-!
Objects under names.
A name stands for at most one object; the names are listed in ascending order
wherever their order can be seen.
-/

namespace FramedTransport

structure Table (α : Type) where
  entries : List (String × α) := []
deriving DecidableEq, Repr

namespace Table

variable {α : Type}

def find? (table : Table α) (name : String) : Option α :=
  (table.entries.find? fun entry => entry.1 = name).map Prod.snd

def erase (table : Table α) (name : String) : Table α :=
  { entries := table.entries.filter fun entry => entry.1 ≠ name }

def insert (table : Table α) (name : String) (object : α) : Table α :=
  { entries := (name, object) :: (table.erase name).entries }

def names (table : Table α) : List String :=
  (table.entries.map Prod.fst).mergeSort fun first second => first ≤ second

def size (table : Table α) : Nat := table.entries.length

def change (table : Table α) (name : String) (edit : α → α) : Table α :=
  match table.find? name with
  | some object => table.insert name (edit object)
  | none => table

theorem find?_insert (table : Table α) (name : String) (object : α) :
    (table.insert name object).find? name = some object := by
  simp [insert, find?]

theorem find?_erase (table : Table α) (name : String) : (table.erase name).find? name = none := by
  simp [erase, find?]

theorem find?_erase_of_ne (table : Table α) {name other : String} (differ : other ≠ name) :
    (table.erase name).find? other = table.find? other := by
  unfold find? erase
  rw [List.find?_filter]
  congr 2
  funext entry
  by_cases same : entry.1 = other
  · simp [same, differ]
  · simp [same]

theorem find?_insert_of_ne (table : Table α) {name other : String} (differ : other ≠ name)
    (object : α) : (table.insert name object).find? other = table.find? other := by
  rw [← find?_erase_of_ne table differ]
  simp [insert, find?, Ne.symm differ]

end Table

end FramedTransport
