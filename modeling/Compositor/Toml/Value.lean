import Compositor.Toml.DateTime
import Compositor.Toml.Number
import Compositor.Toml.Table

namespace Compositor.Toml

inductive Value where
  | string (text : String)
  | boolean (b : Bool)
  | integer (n : Int)
  | float (x : Decimal)
  | dateTime (t : DateTime)
  | array (items : List Value)
  | table (t : Table Value)
  /-- The tables of one repeated header, in order. -/
  | tables (elements : List (Table Value))

/-- What leads to an inner table: the path of a header or that of a dotted key. -/
inductive Route where
  | header
  | dotted
deriving DecidableEq, Repr

namespace Route

def made : Route → Origin
  | header => .implied
  | dotted => .dotted

/-- Whether the way may lead through a table that is there already. -/
def enters : Route → Origin → Bool
  | _, .inline => false
  | header, _ => true
  | dotted, origin => origin = .implied || origin = .dotted

end Route

namespace Table

/--
Changes the table at the end of a path. Tables that are missing on the way are made; of repeated
tables the way leads into the last.
-/
def modify? (route : Route) (change : Table Value → Option (Table Value)) :
    List String → Table Value → Option (Table Value)
  | [], table => change table
  | name :: path, table =>
    match table.get? name with
    | none => do
      let inner ← modify? route change path ⟨route.made, []⟩
      return table.put name (.table inner)
    | some (.table inner) =>
      if route.enters inner.origin then do
        return table.put name (.table (← modify? route change path inner))
      else none
    | some (.tables elements) => do
      let last ← elements.getLast?
      return table.put name (.tables (elements.dropLast ++ [← modify? route change path last]))
    | some _ => none

/-- Adds an entry; its dotted parents are tables that only dotted keys have filled. -/
def insert? (table : Table Value) (key : Key) (value : Value) : Option (Table Value) :=
  table.modify? .dotted
    (fun inner =>
      if key.parents = [] ∨ inner.origin = .dotted then inner.add? key.name value else none)
    key.parents

/-- Opens the table of a header, which must be new or have been implied so far. -/
def openTable? (root : Table Value) (key : Key) : Option (Table Value) :=
  root.modify? .header
    (fun parent =>
      match parent.get? key.name with
      | none => some (parent.put key.name (.table ⟨.header, []⟩))
      | some (.table inner) =>
        if inner.origin = .implied then
          some (parent.put key.name (.table { inner with origin := .header }))
        else none
      | some _ => none)
    key.parents

def openElement? (root : Table Value) (key : Key) : Option (Table Value) :=
  root.modify? .header
    (fun parent =>
      match parent.get? key.name with
      | none => some (parent.put key.name (.tables [⟨.header, []⟩]))
      | some (.tables elements) =>
        some (parent.put key.name (.tables (elements ++ [⟨.header, []⟩])))
      | some _ => none)
    key.parents

/-- The table between braces that holds the given entries. -/
def ofEntries? (entries : List (Key × Value)) : Option (Table Value) :=
  entries.foldlM (fun table (key, value) => table.insert? key value) ⟨.inline, []⟩

end Table
end Compositor.Toml
