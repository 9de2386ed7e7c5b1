import Compositor.Toml.Key

namespace Compositor.Toml

inductive Origin where
  /-- The document itself, or a table with a header of its own. -/
  | header
  /-- A table on the way to one with a header; its own header may still come. -/
  | implied
  /-- A table on the way of a dotted key; more dotted keys may follow. -/
  | dotted
  /-- A table between braces, which is complete. -/
  | inline
deriving DecidableEq, Repr

structure Table (α : Type) where
  origin : Origin
  entries : List (String × α) := []
deriving Repr

namespace Table

variable {α : Type}

def get? (table : Table α) (name : String) : Option α := table.entries.lookup name

def isEmpty (table : Table α) : Bool := table.entries.isEmpty

/-- The entries with one of them replaced, or with a new one at their end. -/
def putEntry (name : String) (value : α) : List (String × α) → List (String × α)
  | [] => [(name, value)]
  | (key, old) :: rest =>
    if key = name then (name, value) :: rest else (key, old) :: putEntry name value rest

def put (table : Table α) (name : String) (value : α) : Table α :=
  { table with entries := putEntry name value table.entries }

def add? (table : Table α) (name : String) (value : α) : Option (Table α) :=
  match table.get? name with
  | none => some (table.put name value)
  | some _ => none

theorem lookup_putEntry (name other : String) (value : α) (entries : List (String × α)) :
    (putEntry name value entries).lookup other =
      if other = name then some value else entries.lookup other := by
  induction entries with
  | nil => by_cases h : other = name <;> simp [putEntry, h]
  | cons entry rest ih =>
    obtain ⟨key, old⟩ := entry
    by_cases hk : key = name
    · subst hk
      by_cases h : other = key
      · simp [putEntry, h]
      · simp [putEntry, List.lookup_cons, h, beq_eq_false_iff_ne.2 h]
    · by_cases h : other = key
      · subst h
        simp [putEntry, hk]
      · simp [putEntry, hk, List.lookup_cons, beq_eq_false_iff_ne.2 h, ih]

theorem get?_put (table : Table α) (name other : String) (value : α) :
    (table.put name value).get? other = if other = name then some value else table.get? other :=
  lookup_putEntry name other value table.entries

end Table
end Compositor.Toml
