import Compositor.Toml.Document

namespace Compositor.Toml

/-- What is done to a table under a name in it, or further below. -/
inductive Change where
  | openTable (name : String)
  | openElement (name : String)
  | add (name : String) (value : Value)
  | within (route : Route) (name : String) (change : Change)

/-- What becomes of a value when the table behind it is changed. -/
def Route.through? (route : Route) (change : Table Value → Option (Table Value)) :
    Option Value → Option Value
  | none => (change ⟨route.made, []⟩).map .table
  | some (.table inner) =>
    if route.enters inner.origin then (change inner).map .table else none
  | some (.tables elements) => do
    let last ← elements.getLast?
    return .tables (elements.dropLast ++ [← change last])
  | some _ => none

def Table.alter? (table : Table Value) (name : String) (value? : Option Value → Option Value) :
    Option (Table Value) :=
  (value? (table.get? name)).map (table.put name)

namespace Change

def name : Change → String
  | openTable name | openElement name | add name _ | within _ name _ => name

/-- Entries with dotted keys go into tables that only such keys have filled. -/
def admits (route : Route) : Change → Origin → Bool
  | add _ _, origin => route = .header || origin = .dotted
  | _, _ => true

/-- What becomes of the value under the name. -/
def value? : Change → Option Value → Option Value
  | openTable _ => fun
    | none => some (.table ⟨.header, []⟩)
    | some (.table inner) =>
      if inner.origin = .implied then some (.table { inner with origin := .header }) else none
    | some _ => none
  | openElement _ => fun
    | none => some (.tables [⟨.header, []⟩])
    | some (.tables elements) => some (.tables (elements ++ [⟨.header, []⟩]))
    | some _ => none
  | add _ value => fun
    | none => some value
    | some _ => none
  | within route _ change => route.through? fun inner =>
    if change.admits route inner.origin then inner.alter? change.name change.value? else none

def run? (change : Change) (table : Table Value) : Option (Table Value) :=
  table.alter? change.name change.value?

/-- The change of a table that is on the way somewhere. -/
def inside? (change : Change) (route : Route) (table : Table Value) : Option (Table Value) :=
  if change.admits route table.origin then change.run? table else none

/-- A change at the end of a path. -/
def along (route : Route) (path : List String) (change : Change) : Change :=
  path.foldr (within route) change

end Change

variable {route : Route} {table changed : Table Value}

theorem Table.modify?_cons (f : Table Value → Option (Table Value)) (name : String)
    (path : List String) :
    table.modify? route f (name :: path) =
      table.alter? name (route.through? (Table.modify? route f path)) := by
  unfold Table.modify? Table.alter?
  cases table.get? name with
  | none => simp only [Route.through?]; cases Table.modify? route f path ⟨route.made, []⟩ <;> rfl
  | some value =>
    cases value with
    | table inner =>
      simp only [Route.through?]
      split
      · cases Table.modify? route f path inner <;> rfl
      · rfl
    | tables elements =>
      simp only [Route.through?]
      cases elements.getLast? with
      | none => rfl
      | some last =>
        simp only [Option.bind_eq_bind, Option.bind_some]
        cases Table.modify? route f path last <;> rfl
    | _ => rfl

theorem Change.inside?_header (change : Change) : change.inside? .header = change.run? := by
  funext table
  cases change <;> simp [Change.inside?, Change.admits]

theorem modify?_inside (route : Route) (change : Change) (path : List String) :
    Table.modify? route (change.inside? route) path = (change.along route path).inside? route := by
  -- Only the change at the end may ask where the table comes from; on the way all are admitted.
  induction path with
  | nil => rfl
  | cons name path ih =>
    funext table
    rw [Table.modify?_cons, ih]
    rfl

theorem modify?_header (change : Change) {f : Table Value → Option (Table Value)}
    (hf : ∀ table, f table = change.run? table) (root : Table Value) (path : List String) :
    root.modify? .header f path = (change.along .header path).run? root := by
  obtain rfl : f = change.run? := funext hf
  rw [← Change.inside?_header, modify?_inside, Change.inside?_header]

theorem insert?_eq_run? (table : Table Value) (key : Key) (value : Value) :
    table.insert? key value =
      ((Change.add key.name value).along .dotted key.parents).run? table := by
  have hadd (inner : Table Value) :
      inner.add? key.name value = (Change.add key.name value).run? inner := by
    unfold Table.add? Change.run? Table.alter?
    change _ = ((Change.add key.name value).value? (inner.get? key.name)).map (inner.put key.name)
    cases inner.get? key.name <;> rfl
  obtain ⟨parents, name⟩ := key
  cases parents with
  | nil => exact hadd table
  | cons parent parents =>
    have hinside : (fun inner : Table Value =>
        if parent :: parents = [] ∨ inner.origin = .dotted then inner.add? name value else none) =
        (Change.add name value).inside? .dotted := by
      funext inner
      simp [Change.inside?, Change.admits, hadd]
    unfold Table.insert?
    rw [hinside, modify?_inside]
    rfl

theorem openTable?_eq_run? (root : Table Value) (key : Key) :
    root.openTable? key =
      ((Change.openTable key.name).along .header key.parents).run? root := by
  refine modify?_header _ (fun parent => ?_) root key.parents
  change _ = ((Change.openTable key.name).value? (parent.get? key.name)).map (parent.put key.name)
  cases parent.get? key.name with
  | none => rfl
  | some value =>
    cases value with
    | table inner =>
      simp only [Change.value?]
      split <;> rfl
    | _ => rfl

theorem openElement?_eq_run? (root : Table Value) (key : Key) :
    root.openElement? key =
      ((Change.openElement key.name).along .header key.parents).run? root := by
  refine modify?_header _ (fun parent => ?_) root key.parents
  change _ = ((Change.openElement key.name).value? (parent.get? key.name)).map (parent.put key.name)
  cases parent.get? key.name with
  | none => rfl
  | some value => cases value <;> rfl

namespace Statement

/-- What a statement does to the root; entries stand below the header before them. -/
def change (current : List String) : Statement → Change
  | .table key => (Change.openTable key.name).along .header key.parents
  | .element key => (Change.openElement key.name).along .header key.parents
  | .entry key value =>
    ((Change.add key.name value).along .dotted key.parents).along .header current

/-- The path of the header that stands before the next statement. -/
def next (current : List String) : Statement → List String
  | .table key | .element key => key.path
  | .entry _ _ => current

/-- The path from the root to what a statement is about. -/
def path (current : List String) : Statement → List String
  | .table key | .element key => key.path
  | .entry key _ => current ++ key.path

end Statement

theorem Draft.add?_eq (draft : Draft) (statement : Statement) :
    draft.add? statement = ((statement.change draft.current).run? draft.root).map fun root =>
      ⟨root, statement.next draft.current⟩ := by
  cases statement with
  | table key =>
    simp only [Draft.add?, openTable?_eq_run?, Statement.change]
    cases Change.run? _ draft.root <;> rfl
  | element key =>
    simp only [Draft.add?, openElement?_eq_run?, Statement.change]
    cases Change.run? _ draft.root <;> rfl
  | entry key value =>
    have hmodify := modify?_header _ (fun table => insert?_eq_run? table key value) draft.root
      draft.current
    simp only [Draft.add?, hmodify, Statement.change]
    cases Change.run? _ draft.root <;> rfl

namespace Change

/-- What there is under a name before and after it is changed. -/
inductive Makes : Change → Option Value → Value → Prop
  | opened {name : String} : Makes (.openTable name) none (.table ⟨.header, []⟩)
  | marked {name : String} {t : Table Value} (himplied : t.origin = .implied) :
    Makes (.openTable name) (some (.table t)) (.table { t with origin := .header })
  | first {name : String} : Makes (.openElement name) none (.tables [⟨.header, []⟩])
  | another {name : String} {elements : List (Table Value)} :
    Makes (.openElement name) (some (.tables elements)) (.tables (elements ++ [⟨.header, []⟩]))
  | added {name : String} {value : Value} : Makes (.add name value) none value
  | made {route : Route} {name : String} {inner : Change} {t : Table Value}
    (hinside : inner.inside? route ⟨route.made, []⟩ = some t) :
    Makes (.within route name inner) none (.table t)
  | entered {route : Route} {name : String} {inner : Change} {t before : Table Value}
    (henters : route.enters before.origin = true)
    (hinside : inner.inside? route before = some t) :
    Makes (.within route name inner) (some (.table before)) (.table t)
  | last {route : Route} {name : String} {inner : Change} {t before : Table Value}
    {elements : List (Table Value)} (hlast : elements.getLast? = some before)
    (hinside : inner.inside? route before = some t) :
    Makes (.within route name inner) (some (.tables elements))
      (.tables (elements.dropLast ++ [t]))

variable {change : Change} {old : Option Value}

theorem run?_eq_some_iff : change.run? table = some changed ↔
    ∃ value, change.value? (table.get? change.name) = some value ∧
      table.put change.name value = changed := by
  simp [run?, Table.alter?]

theorem inside?_eq_some_iff : change.inside? route table = some changed ↔
    change.admits route table.origin = true ∧
      ∃ value, change.value? (table.get? change.name) = some value ∧
        table.put change.name value = changed := by
  simp [inside?, run?_eq_some_iff]

theorem value?_eq_some_iff {value : Value} :
    change.value? old = some value ↔ change.Makes old value := by
  constructor
  · intro h
    cases change with
    | openTable name =>
      cases old with
      | none =>
        cases h
        exact .opened
      | some before =>
        cases before with
        | table t =>
          simp only [value?] at h
          split at h
          · next himplied =>
            cases h
            exact .marked himplied
          · cases h
        | _ => cases h
    | openElement name =>
      cases old with
      | none =>
        cases h
        exact .first
      | some before =>
        cases before with
        | tables elements =>
          cases h
          exact .another
        | _ => cases h
    | add name added =>
      cases old with
      | none =>
        cases h
        exact .added
      | some _ => cases h
    | within route name inner =>
      cases old with
      | none =>
        obtain ⟨t, hinside, rfl⟩ := Option.map_eq_some_iff.1 h
        exact .made hinside
      | some before =>
        cases before with
        | table t =>
          simp only [value?, Route.through?] at h
          split at h
          · next henters =>
            obtain ⟨t, hinside, rfl⟩ := Option.map_eq_some_iff.1 h
            exact .entered henters hinside
          · cases h
        | tables elements =>
          obtain ⟨before, hlast, h⟩ := Option.bind_eq_some_iff.1 h
          obtain ⟨t, hinside, h⟩ := Option.bind_eq_some_iff.1 h
          cases h
          exact .last hlast hinside
        | _ => cases h
  · intro h
    cases h with
    | opened | first | another | added => rfl
    | marked himplied => simp [value?, himplied]
    | made hinside => exact Option.map_eq_some_iff.2 ⟨_, hinside, rfl⟩
    | entered henters hinside =>
      simp only [value?, Route.through?, henters, if_true]
      exact Option.map_eq_some_iff.2 ⟨_, hinside, rfl⟩
    | last hlast hinside =>
      exact Option.bind_eq_some_iff.2 ⟨_, hlast, Option.bind_eq_some_iff.2 ⟨_, hinside, rfl⟩⟩

end Change
end Compositor.Toml
