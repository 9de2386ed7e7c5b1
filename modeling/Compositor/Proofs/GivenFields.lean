import Compositor.Proofs.DistinctNames
import Compositor.Proofs.Fields

namespace Compositor

namespace Toml

/-- A value as it is, unless it is a list or a table. -/
def Value.plain? : Value → Option Value
  | .array _ | .table _ | .tables _ => none
  | value => some value

theorem Value.plain?_eq_some {value plain : Value} (h : value.plain? = some plain) :
    value = plain := by
  cases value <;> cases h <;> rfl

/-- The value that a statement gives. -/
def Statement.content? : Statement → Option Value
  | .entry _ value => some value
  | _ => none

namespace Change

def path : Change → List String
  | openTable name | openElement name | add name _ => [name]
  | within _ name change => name :: change.path

def content? : Change → Option Value
  | add _ value => some value
  | within _ _ change => change.content?
  | _ => none

@[simp] theorem path_along (route : Route) (path : List String) (change : Change) :
    (change.along route path).path = path ++ change.path := by
  induction path with
  | nil => rfl
  | cons name path ih => exact congrArg (name :: ·) ih

@[simp] theorem content?_along (route : Route) (path : List String) (change : Change) :
    (change.along route path).content? = change.content? := by
  induction path with
  | nil => rfl
  | cons name path ih => exact ih

end Change

theorem Statement.path_change (current : List String) (statement : Statement) :
    (statement.change current).path = statement.path current := by
  cases statement <;> simp [Statement.change, Statement.path, Change.path, Key.path]

theorem Statement.content?_change (current : List String) (statement : Statement) :
    (statement.change current).content? = statement.content? := by
  cases statement <;> simp [Statement.change, Statement.content?, Change.content?]

end Toml

namespace Settings

open Toml (Value Table Change Route Statement Draft)

/-- A section, the name of a field in it and what is given for the field, unless it is a list or a
table. -/
abbrev Field := String × String × Option Value

/-- The fields that are given by what stands at a path. -/
def fieldsAt : List String → Option Value → List Field
  | [heading], some (.table t) =>
    (t.entries.filter (·.1 ∈ fieldNames heading)).map fun entry =>
      (heading, entry.1, entry.2.plain?)
  | [heading, name], some value =>
    if name ∈ fieldNames heading then [(heading, name, value.plain?)] else []
  | heading :: name :: _, _ => if name ∈ fieldNames heading then [(heading, name, none)] else []
  | _, _ => []

/-- The fields that statements give below a header. -/
def fieldsFrom : (current : List String) → List Statement → List Field
  | _, [] => []
  | current, statement :: rest =>
    fieldsAt (statement.path current) statement.content? ++ fieldsFrom (statement.next current) rest

/-- The fields that the statements of a document give. -/
def fields (statements : List Statement) : List Field := fieldsFrom [] statements

def Gives (root : Table Value) (field : Field) : Prop :=
  (given? root field.1 field.2.1).map Value.plain? = some field.2.2

theorem mem_headings {heading name : String} (h : name ∈ fieldNames heading) :
    heading ∈ headings := by
  unfold fieldNames at h
  split at h
  · decide
  · decide
  · cases h

/-- What a change gives at its end, which is nothing plain if it goes further down. -/
def plainOf : Change → Option Value
  | .add _ value => value.plain?
  | _ => none

theorem fieldsAt_within (route : Route) (heading : String) (inner : Change) :
    fieldsAt (Change.within route heading inner).path (Change.within route heading inner).content? =
      if inner.name ∈ fieldNames heading then [(heading, inner.name, plainOf inner)] else [] := by
  cases inner with
  | within _ _ inner => cases inner <;> rfl
  | _ => rfl

/-- A value that is changed is no plain one, neither before nor after. -/
theorem plain?_of_makes {change : Change} {old : Option Value} {value : Value}
    (h : change.Makes old value) :
    value.plain? = plainOf change ∧ ∀ before ∈ old, before.plain? = plainOf change := by
  cases h with
  | opened | first | added | made => exact ⟨rfl, nofun⟩
  | marked | another | entered | last => exact ⟨rfl, by rintro _ ⟨⟩; rfl⟩

variable {change inner : Change} {route : Route} {heading name : String} {plain : Option Value}
  {t before : Table Value}

theorem plain_of_inside? (h : inner.inside? route before = some t) :
    (t.get? name).map Value.plain? = some plain ↔
      (before.get? name).map Value.plain? = some plain ∨
        name = inner.name ∧ plain = plainOf inner := by
  obtain ⟨-, value, hvalue, rfl⟩ := Change.inside?_eq_some_iff.1 h
  obtain ⟨hafter, hbefore⟩ := plain?_of_makes (Change.value?_eq_some_iff.1 hvalue)
  rw [Table.get?_put]
  split
  · next hname =>
    subst hname
    have hold : (before.get? inner.name).map Value.plain? = some plain → plain = plainOf inner := by
      intro hplain
      obtain ⟨old, hold, rfl⟩ := Option.map_eq_some_iff.1 hplain
      exact hbefore old hold
    simp only [Option.map_some, hafter, Option.some.injEq, true_and]
    constructor
    · intro hplain
      exact .inr hplain.symm
    · rintro (hplain | rfl)
      · exact (hold hplain).symm
      · rfl
  · next hname => simp [hname]

theorem mem_fieldsAt_within (h : name ∈ fieldNames heading) :
    (heading, name, plain) ∈ fieldsAt (Change.within route heading inner).path
        (Change.within route heading inner).content? ↔
      name = inner.name ∧ plain = plainOf inner := by
  rw [fieldsAt_within]
  split
  · simp
  · next hnot =>
    constructor
    · nofun
    · rintro ⟨rfl, -⟩
      exact absurd h hnot

theorem eq_name_of_mem_fieldsAt
    (h : (heading, name, plain) ∈ fieldsAt change.path change.content?) :
    heading = change.name := by
  cases change with
  | add other value =>
    cases value with
    | table t =>
      obtain ⟨_, -, hfield⟩ := List.mem_map.1 h
      cases hfield
      rfl
    | _ => cases h
  | within route other inner =>
    rw [fieldsAt_within] at h
    split at h
    · cases List.mem_singleton.1 h
      rfl
    · cases h
  | _ => cases h

/-- A section has the fields that it had and those that the change gives. -/
theorem plain_of_makes {old : Option Value} (h : change.Makes old (.table t))
    (hdistinct : ∀ value, change.content? = some value → value.Distinct)
    (hname : name ∈ fieldNames change.name) :
    (t.get? name).map Value.plain? = some plain ↔
      (field? old name).map Value.plain? = some plain ∨
        (change.name, name, plain) ∈ fieldsAt change.path change.content? := by
  cases h with
  | opened => simp [fieldsAt, Change.path, Change.content?, field?, Table.get?]
  | marked => simp [fieldsAt, Change.path, Change.content?, field?, Table.get?]
  | @added heading t =>
    have ht : t.Distinct := hdistinct (.table t) rfl t rfl
    simp only [field?, Option.map_none, reduceCtorEq, false_or]
    change _ ↔ (heading, name, plain) ∈ fieldsAt [heading] (some (.table t))
    simp only [fieldsAt, List.mem_map, List.mem_filter, Option.map_eq_some_iff]
    constructor
    · rintro ⟨value, hvalue, rfl⟩
      exact ⟨(name, value), ⟨ht.mem_entries_iff.2 hvalue, decide_eq_true hname⟩, rfl⟩
    · rintro ⟨⟨_, value⟩, ⟨hmem, -⟩, hfield⟩
      cases hfield
      exact ⟨value, ht.mem_entries_iff.1 hmem, rfl⟩
  | made hinside =>
    exact (plain_of_inside? hinside).trans (or_congr .rfl (mem_fieldsAt_within hname).symm)
  | entered henters hinside =>
    exact (plain_of_inside? hinside).trans (or_congr .rfl (mem_fieldsAt_within hname).symm)

/-- A statement gives the fields that stand at its path, and changes no other. -/
theorem gives_of_run? {root after : Table Value} (h : change.run? root = some after)
    (hsections : HasSections after)
    (hdistinct : ∀ value, change.content? = some value → value.Distinct)
    {field : Field} (hfield : field.2.1 ∈ fieldNames field.1) :
    Gives after field ↔ Gives root field ∨ field ∈ fieldsAt change.path change.content? := by
  obtain ⟨heading, name, plain⟩ := field
  obtain ⟨value, hvalue, rfl⟩ := Change.run?_eq_some_iff.1 h
  unfold Gives given?
  dsimp only at hfield ⊢
  by_cases hheading : heading = change.name
  · subst hheading
    have hnew : (root.put change.name value).get? change.name = some value := by
      rw [Table.get?_put, if_pos rfl]
    obtain ⟨t, rfl⟩ := hsections _ (mem_headings hfield) value hnew
    rw [hnew]
    exact plain_of_makes (Change.value?_eq_some_iff.1 hvalue) hdistinct hfield
  · have hold : (root.put change.name value).get? heading = root.get? heading := by
      rw [Table.get?_put, if_neg hheading]
    have hnot : (heading, name, plain) ∉ fieldsAt change.path change.content? := fun hmem =>
      hheading (eq_name_of_mem_fieldsAt hmem)
    rw [hold]
    simp [hnot]

theorem hasSections_of_run? {root after : Table Value} (h : change.run? root = some after)
    (hsections : HasSections after) : HasSections root := by
  intro heading hheading old hold
  obtain ⟨value, hvalue, rfl⟩ := Change.run?_eq_some_iff.1 h
  by_cases hname : heading = change.name
  · subst hname
    obtain ⟨t, rfl⟩ := hsections _ hheading value (by rw [Table.get?_put, if_pos rfl])
    rw [hold, Change.value?_eq_some_iff] at hvalue
    cases hvalue with
    | marked => exact ⟨_, rfl⟩
    | entered => exact ⟨_, rfl⟩
  · exact hsections heading hheading old (by rw [Table.get?_put, if_neg hname, hold])

theorem hasSections_of_foldlM {statements : List Statement} {draft after : Draft}
    (h : statements.foldlM Draft.add? draft = some after) (hsections : HasSections after.root) :
    HasSections draft.root := by
  induction statements generalizing draft with
  | nil =>
    cases h
    exact hsections
  | cons statement rest ih =>
    obtain ⟨next, hnext, hrest⟩ := Option.bind_eq_some_iff.1 h
    rw [Draft.add?_eq, Option.map_eq_some_iff] at hnext
    obtain ⟨root, hroot, rfl⟩ := hnext
    exact hasSections_of_run? hroot (ih hrest)

/-- What statements add to a document are the fields that they give. -/
theorem gives_of_foldlM {statements : List Statement} {draft after : Draft}
    (h : statements.foldlM Draft.add? draft = some after) (hsections : HasSections after.root)
    (hdistinct : ∀ statement ∈ statements, statement.Distinct) {field : Field}
    (hfield : field.2.1 ∈ fieldNames field.1) :
    Gives after.root field ↔
      Gives draft.root field ∨ field ∈ fieldsFrom draft.current statements := by
  -- From the front, since the header that is open decides where the next statement stands.
  induction statements generalizing draft with
  | nil =>
    cases h
    simp [fieldsFrom]
  | cons statement rest ih =>
    obtain ⟨next, hnext, hrest⟩ := Option.bind_eq_some_iff.1 h
    rw [Draft.add?_eq, Option.map_eq_some_iff] at hnext
    obtain ⟨root, hroot, rfl⟩ := hnext
    obtain ⟨hstatement, hdistinct⟩ := List.forall_mem_cons.1 hdistinct
    have hcontent (value : Value)
        (hvalue : (statement.change draft.current).content? = some value) : value.Distinct := by
      rw [Statement.content?_change] at hvalue
      cases statement with
      | entry key value =>
        cases hvalue
        exact hstatement key value rfl
      | _ => cases hvalue
    have hstep := gives_of_run? hroot (hasSections_of_foldlM hrest hsections) hcontent hfield
    rw [ih hrest hdistinct, hstep, Statement.path_change, Statement.content?_change, fieldsFrom,
      List.mem_append, or_assoc]

/-- Documents give the same fields, whatever else they have. -/
def Agree (root other : Table Value) : Prop :=
  ∀ field : Field, field.2.1 ∈ fieldNames field.1 → (Gives root field ↔ Gives other field)

theorem Agree.symm {root other : Table Value} (h : Agree root other) : Agree other root :=
  fun field hfield => (h field hfield).symm

theorem Agree.holds {root other : Table Value} (h : Agree root other)
    (hname : name ∈ fieldNames heading) {form : α → Value} {default a : α}
    (hform : (form a).plain? = some (form a))
    (hholds : Holds form default (given? root heading name) a) :
    Holds form default (given? other heading name) a := by
  obtain ⟨hnone, rfl⟩ | hsome := hholds
  · refine .inl ⟨?_, rfl⟩
    cases hvalue : given? other heading name with
    | none => rfl
    | some value =>
      have hgives : Gives root (heading, name, value.plain?) :=
        (h (heading, name, value.plain?) hname).2 (by simp [Gives, hvalue])
      simp [Gives, hnone] at hgives
  · have hgives : Gives other (heading, name, some (form a)) :=
      (h (heading, name, some (form a)) hname).1 (by simp [Gives, hsome, hform])
    obtain ⟨value, hvalue, hplain⟩ := Option.map_eq_some_iff.1 hgives
    exact .inr (Value.plain?_eq_some hplain ▸ hvalue)

theorem Agree.reads {root other : Table Value} (h : Agree root other) {settings : Settings}
    (hreads : Reads root settings) : Reads other settings where
  noStencil := h.holds (by decide) rfl hreads.noStencil
  swapMethod := h.holds (by decide) rfl hreads.swapMethod
  maxBufferAge := h.holds (by decide) rfl hreads.maxBufferAge
  debugContext := h.holds (by decide) rfl hreads.debugContext
  debug := h.holds (by decide) rfl hreads.debug
  useOverlay := h.holds (by decide) rfl hreads.useOverlay

theorem Agree.ofTable?_eq {root other : Table Value} (h : Agree root other) (hroot : Sectioned root)
    (hother : Sectioned other) : ofTable? root = ofTable? other := by
  ext settings
  rw [ofTable?_eq_some_iff hroot, ofTable?_eq_some_iff hother]
  exact ⟨h.reads, h.symm.reads⟩

/-- A text with the statements that it is read as and the table that they build. -/
structure IsDocument (text : String) (statements : List Statement) (root : Table Value) :
    Prop where
  read : Parser.all Toml.statements text.toList = some statements
  built : Table.ofStatements? statements = some root
  sectioned : Sectioned root

theorem IsDocument.parse? {text : String} {statements : List Statement} {root : Table Value}
    (h : IsDocument text statements root) : Toml.parse? text = some root := by
  rw [Toml.parse?, h.read]
  exact h.built

theorem IsDocument.gives_iff {text : String} {statements : List Statement} {root : Table Value}
    (h : IsDocument text statements root) {field : Field}
    (hfield : field.2.1 ∈ fieldNames field.1) : Gives root field ↔ field ∈ fields statements := by
  obtain ⟨after, hafter, rfl⟩ := Option.map_eq_some_iff.1 h.built
  rw [gives_of_foldlM hafter h.sectioned.sections (Toml.distinct_of_all_statements h.read) hfield]
  simp [Gives, given?, field?, Table.get?, fields]

theorem ofTable?_eq_of_fields {text other : String} {statements others : List Statement}
    {root otherRoot : Table Value} (h : IsDocument text statements root)
    (hother : IsDocument other others otherRoot)
    (hfields : ∀ field, field ∈ fields others ↔ field ∈ fields statements) :
    ofTable? otherRoot = ofTable? root := by
  refine Agree.ofTable?_eq ?_ hother.sectioned h.sectioned
  intro field hfield
  rw [hother.gives_iff hfield, h.gives_iff hfield, hfields]

end Settings
end Compositor
