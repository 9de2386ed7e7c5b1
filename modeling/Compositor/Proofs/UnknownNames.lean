import Compositor.Proofs.GivenFields

namespace Compositor.Settings

open Host (ReadError)
open Toml (Key Value Table Origin Change Route Statement Draft)

/-- Whether a path leads to a section, to a field of one or to something below a field. -/
def isKnown : List String → Bool
  | [] => true
  | [heading] => heading ∈ headings
  | heading :: name :: _ => name ∈ fieldNames heading

/-- The table of a section with its fields only. -/
def trimTable (heading : String) (t : Table Value) : Table Value :=
  { t with entries := t.entries.filter (·.1 ∈ fieldNames heading) }

/-- A section between braces with its fields only; other values stay as they are. -/
def trimValue : List String → Value → Value
  | [heading], .table t => .table (trimTable heading t)
  | _, value => value

def trim (current : List String) : Statement → Statement
  | .entry key value => .entry key (trimValue (current ++ key.path) value)
  | statement => statement

/-- Statements below a header without the names that are not known. -/
def knownFrom : (current : List String) → List Statement → List Statement
  | _, [] => []
  | current, statement :: rest =>
    if isKnown (statement.path current) then
      trim current statement :: knownFrom (statement.next current) rest
    else knownFrom (statement.next current) rest

/-- The statements of a document without the names that are not known. -/
def known (statements : List Statement) : List Statement := knownFrom [] statements

/-- How a section has come about in a document and without the unknown names in it: as before,
unless a dotted key made it that is gone, so that it is merely implied by a header after it. -/
def Follows (atStart : Prop) (origin rest : Origin) : Prop :=
  rest = origin ∨ origin = .dotted ∧ rest = .implied ∧ ¬ atStart

/--
A section of a document and of the same document without unknown names. A header for such a name may
have implied the section, or a dotted key may have made it; before the first header there are only
dotted keys.
-/
inductive Trimmed (names : List String) (atStart : Prop) : Option Value → Option Value → Prop
  | missing : Trimmed names atStart none none
  | dropped {t : Table Value} (horigin : t.origin = .dotted ∨ t.origin = .implied ∧ ¬ atStart)
    (hnone : ∀ name ∈ names, t.get? name = none) : Trimmed names atStart (some (.table t)) none
  | kept {t rest : Table Value} (horigin : Follows atStart t.origin rest.origin)
    (hsame : ∀ name ∈ names, rest.get? name = t.get? name) :
    Trimmed names atStart (some (.table t)) (some (.table rest))

variable {names : List String} {atStart after : Prop} {old left : Option Value} {t : Table Value}
  {heading : String} {route : Route} {inner : Change} {origin rest : Origin}

theorem Follows.mono (h : Follows atStart origin rest) (hafter : after → atStart) :
    Follows after origin rest :=
  h.imp_right fun h => ⟨h.1, h.2.1, fun ha => h.2.2 (hafter ha)⟩

theorem Follows.enters (h : Follows atStart origin rest) (henters : route.enters origin = true) :
    route.enters rest = true := by
  obtain rfl | ⟨-, rfl, -⟩ := h
  · exact henters
  · cases route <;> rfl

theorem Follows.admits (h : Follows atStart origin rest) (hroute : route = .dotted → atStart)
    (hadmits : inner.admits route origin = true) : inner.admits route rest = true := by
  obtain rfl | ⟨-, rfl, hnot⟩ := h
  · exact hadmits
  · cases route with
    | header => cases inner <;> rfl
    | dotted => exact absurd (hroute rfl) hnot

/-- A section that was dropped is made again on the way to a known name. -/
theorem follows_made (hroute : route = .dotted ↔ after) (hafter : after → atStart)
    (horigin : origin = .dotted ∨ origin = .implied ∧ ¬ atStart) :
    Follows after origin route.made := by
  cases route with
  | header =>
    obtain hdotted | ⟨himplied, -⟩ := horigin
    · exact .inr ⟨hdotted, rfl, fun ha => nomatch hroute.2 ha⟩
    · exact .inl himplied.symm
  | dotted =>
    obtain hdotted | ⟨-, hnot⟩ := horigin
    · exact .inl hdotted.symm
    · exact absurd (hafter (hroute.1 rfl)) hnot

theorem Trimmed.mono (h : Trimmed names atStart old left) (hafter : after → atStart) :
    Trimmed names after old left := by
  cases h with
  | missing => exact .missing
  | dropped horigin hnone =>
    exact .dropped (horigin.imp_right fun h => ⟨h.1, fun ha => h.2 (hafter ha)⟩) hnone
  | kept horigin hsame => exact .kept (horigin.mono hafter) hsame

theorem Trimmed.field?_eq (h : Trimmed names atStart old left) {name : String}
    (hname : name ∈ names) : field? left name = field? old name := by
  cases h with
  | missing => rfl
  | dropped horigin hnone => exact (hnone name hname).symm
  | kept horigin hsame => exact hsame name hname

theorem Trimmed.eq_table {value : Value} (h : Trimmed names atStart old left)
    (hleft : left = some value) : ∃ t, value = .table t := by
  cases h with
  | kept =>
    cases hleft
    exact ⟨_, rfl⟩
  | _ => cases hleft

theorem Trimmed.opened (h : (Change.openTable heading).Makes old (.table t))
    (htrimmed : Trimmed names atStart old left) :
    ∃ rest, (Change.openTable heading).Makes left (.table rest) ∧
      Trimmed names after (some (.table t)) (some (.table rest)) := by
  cases h with
  | opened =>
    cases htrimmed
    exact ⟨_, .opened, .kept (.inl rfl) fun _ _ => rfl⟩
  | @marked _ before himplied =>
    cases htrimmed with
    | dropped horigin hnone =>
      exact ⟨_, .opened, .kept (.inl rfl) fun name hname => (hnone name hname).symm⟩
    | @kept _ rest horigin hsame =>
      have hrest : rest.origin = .implied := by
        obtain hsame | ⟨hdotted, -⟩ := horigin
        · rw [hsame, himplied]
        · rw [himplied] at hdotted
          cases hdotted
      exact ⟨_, .marked hrest, .kept (.inl rfl) hsame⟩

theorem get?_trimTable {name : String} (hname : name ∈ fieldNames heading) :
    (trimTable heading t).get? name = t.get? name := by
  obtain ⟨origin, entries⟩ := t
  simp only [trimTable, Table.get?]
  induction entries with
  | nil => rfl
  | cons entry rest ih =>
    obtain ⟨key, value⟩ := entry
    by_cases hkey : key ∈ fieldNames heading
    · simp [hkey, List.lookup_cons, ih]
    · have hne : name ≠ key := by
        rintro rfl
        exact hkey hname
      simp [hkey, List.lookup_cons, beq_eq_false_iff_ne.2 hne, ih]

theorem admits_made (inner : Change) (route : Route) : inner.admits route route.made = true := by
  cases inner <;> cases route <;> rfl

/-- What a known field becomes does not depend on the unknown names beside it. -/
theorem Trimmed.within (h : (Change.within route heading inner).Makes old (.table t))
    (htrimmed : Trimmed names atStart old left) (hroute : route = .dotted ↔ after)
    (hafter : after → atStart) (hname : inner.name ∈ names) :
    ∃ rest, (Change.within route heading inner).Makes left (.table rest) ∧
      Trimmed names after (some (.table t)) (some (.table rest)) := by
  cases h with
  | made hinside =>
    cases htrimmed
    exact ⟨t, .made hinside, .kept (.inl rfl) fun _ _ => rfl⟩
  | @entered _ _ _ _ before henters hinside =>
    obtain ⟨hadmits, value, hvalue, rfl⟩ := Change.inside?_eq_some_iff.1 hinside
    cases htrimmed with
    | dropped horigin hnone =>
      -- Only unknown names had led to the section; now it is made on the way to a known one.
      have hmade : inner.inside? route ⟨route.made, []⟩ =
          some ((⟨route.made, []⟩ : Table Value).put inner.name value) := by
        rw [hnone inner.name hname] at hvalue
        exact Change.inside?_eq_some_iff.2 ⟨admits_made inner route, value, hvalue, rfl⟩
      refine ⟨_, .made hmade, .kept (follows_made hroute hafter horigin) ?_⟩
      intro name hmem
      rw [Table.get?_put, Table.get?_put, hnone name hmem]
      rfl
    | @kept _ rest horigin hsame =>
      have hinside' : inner.inside? route rest = some (rest.put inner.name value) := by
        rw [← hsame inner.name hname] at hvalue
        have hadmits' := horigin.admits (fun hdotted => hafter (hroute.1 hdotted)) hadmits
        exact Change.inside?_eq_some_iff.2 ⟨hadmits', value, hvalue, rfl⟩
      refine ⟨_, .entered (horigin.enters henters) hinside', .kept (horigin.mono hafter) ?_⟩
      intro name hmem
      rw [Table.get?_put, Table.get?_put, hsame name hmem]

/-- Without a name that is not known, a section is as it was before that name came in. -/
theorem Trimmed.unknown (h : (Change.within route heading inner).Makes old (.table t))
    (htrimmed : Trimmed names atStart old left) (hroute : route = .dotted ↔ after)
    (hafter : after → atStart) (hname : inner.name ∉ names) :
    Trimmed names after (some (.table t)) left := by
  have hother {name : String} (hmem : name ∈ names) : name ≠ inner.name := by
    rintro rfl
    exact hname hmem
  cases h with
  | made hinside =>
    cases htrimmed
    obtain ⟨-, value, -, rfl⟩ := Change.inside?_eq_some_iff.1 hinside
    refine .dropped ?_ ?_
    · cases route with
      | header => exact .inr ⟨rfl, fun ha => nomatch hroute.2 ha⟩
      | dotted => exact .inl rfl
    · intro name hmem
      rw [Table.get?_put, if_neg (hother hmem)]
      rfl
  | @entered _ _ _ _ before henters hinside =>
    obtain ⟨-, value, -, rfl⟩ := Change.inside?_eq_some_iff.1 hinside
    have hbefore {name : String} (hmem : name ∈ names) :
        (before.put inner.name value).get? name = before.get? name := by
      rw [Table.get?_put, if_neg (hother hmem)]
    cases htrimmed.mono hafter with
    | dropped horigin hnone =>
      exact .dropped horigin fun name hmem => (hbefore hmem).trans (hnone name hmem)
    | kept horigin hsame =>
      exact .kept horigin fun name hmem => (hsame name hmem).trans (hbefore hmem).symm

/-- What the trimmed statement does in the place of the statement. -/
def trimChange : Change → Change
  | .add heading (.table t) => .add heading (.table (trimTable heading t))
  | change => change

theorem trimValue_of_longer (first second : String) (rest : List String) (value : Value) :
    trimValue (first :: second :: rest) value = value := by
  cases value <;> rfl

theorem change_trim (current : List String) (statement : Statement) :
    (trim current statement).change current = trimChange (statement.change current) := by
  cases statement with
  | table key =>
    obtain ⟨parents, name⟩ := key
    cases parents <;> rfl
  | element key =>
    obtain ⟨parents, name⟩ := key
    cases parents <;> rfl
  | entry key value =>
    obtain ⟨parents, name⟩ := key
    cases current with
    | nil =>
      cases parents with
      | nil => cases value <;> rfl
      | cons parent parents =>
        have hvalue : trimValue ([] ++ (parent :: parents ++ [name])) value = value := by
          cases parents <;> exact trimValue_of_longer ..
        simp only [trim, Key.path, hvalue]
        rfl
    | cons first current =>
      have hvalue : trimValue (first :: current ++ (parents ++ [name])) value = value := by
        cases current with
        | nil => cases parents <;> exact trimValue_of_longer ..
        | cons => exact trimValue_of_longer ..
      simp only [trim, Key.path, hvalue]
      rfl

theorem next_trim (current other : List String) (statement : Statement) :
    (trim current statement).next other = statement.next other := by
  cases statement <;> rfl

theorem eq_nil_of_next {current : List String} {statement : Statement}
    (h : statement.next current = []) : current = [] := by
  cases statement with
  | entry key value => exact h
  | _ => simp [Statement.next, Key.path] at h

/-- The way to what a statement is about begins with a dotted key before the first header only. -/
theorem route_eq_dotted_iff {current : List String} {statement : Statement}
    (h : statement.change current = .within route heading inner) :
    route = .dotted ↔ statement.next current = [] := by
  cases statement with
  | table key =>
    obtain ⟨parents, name⟩ := key
    cases parents with
    | nil => cases h
    | cons =>
      cases h
      simp [Statement.next, Key.path]
  | element key =>
    obtain ⟨parents, name⟩ := key
    cases parents with
    | nil => cases h
    | cons =>
      cases h
      simp [Statement.next, Key.path]
  | entry key value =>
    obtain ⟨parents, name⟩ := key
    cases current with
    | nil =>
      cases parents with
      | nil => cases h
      | cons =>
        cases h
        simp [Statement.next]
    | cons =>
      cases h
      simp [Statement.next]

theorem isKnown_within (route : Route) (heading : String) (inner : Change) :
    isKnown (Change.within route heading inner).path =
      decide (inner.name ∈ fieldNames heading) := by
  cases inner <;> rfl

theorem mem_headings_of_isKnown {change : Change} (h : isKnown change.path = true) :
    change.name ∈ headings := by
  cases change with
  | within route heading inner =>
    rw [isKnown_within, decide_eq_true_eq] at h
    exact mem_headings h
  | _ => exact of_decide_eq_true h

theorem isKnown_of_append {path rest : List String} (hrest : rest ≠ [])
    (h : isKnown (path ++ rest) = true) : isKnown path = true := by
  match path, rest with
  | [], _ => rfl
  | [heading], name :: rest => exact decide_eq_true (mem_headings (of_decide_eq_true h))
  | heading :: name :: path, _ => exact h

theorem Trimmed.step {change : Change} (h : change.Makes old (.table t))
    (htrimmed : Trimmed (fieldNames change.name) atStart old left)
    (hroute : ∀ route heading inner, change = .within route heading inner →
      (route = .dotted ↔ after))
    (hafter : after → atStart) (hknown : isKnown change.path = true) :
    ∃ rest, (trimChange change).Makes left (.table rest) ∧
      Trimmed (fieldNames change.name) after (some (.table t)) (some (.table rest)) := by
  cases change with
  | openTable heading => exact htrimmed.opened h
  | openElement heading => cases h
  | add heading value =>
    cases h
    cases htrimmed
    exact ⟨_, .added, .kept (.inl rfl) fun _ => get?_trimTable⟩
  | within route heading inner =>
    rw [isKnown_within, decide_eq_true_eq] at hknown
    exact htrimmed.within h (hroute route heading inner rfl) hafter hknown

theorem Trimmed.skip {change : Change} (h : change.Makes old (.table t))
    (htrimmed : Trimmed (fieldNames change.name) atStart old left)
    (hroute : ∀ route heading inner, change = .within route heading inner →
      (route = .dotted ↔ after))
    (hafter : after → atStart) (hheading : change.name ∈ headings)
    (hunknown : isKnown change.path = false) :
    Trimmed (fieldNames change.name) after (some (.table t)) left := by
  cases change with
  | within route heading inner =>
    rw [isKnown_within, decide_eq_false_iff_not] at hunknown
    exact htrimmed.unknown h (hroute route heading inner rfl) hafter hunknown
  | _ => exact absurd hheading (of_decide_eq_false hunknown)

/-- Two drafts of a document, one of them without unknown names. -/
structure Trims (draft left : Draft) : Prop where
  sections : ∀ heading ∈ headings, Trimmed (fieldNames heading) (draft.current = [])
    (draft.root.get? heading) (left.root.get? heading)
  current : isKnown draft.current = true → left.current = draft.current

theorem Trims.change_eq {draft left : Draft} (h : Trims draft left) {statement : Statement}
    (hknown : isKnown (statement.path draft.current) = true) :
    statement.change left.current = statement.change draft.current := by
  cases statement with
  | entry key value =>
    rw [h.current (isKnown_of_append (by simp [Key.path]) hknown)]
  | _ => rfl

theorem Trims.next {draft left : Draft} (h : Trims draft left) (statement : Statement)
    (hknown : isKnown (statement.next draft.current) = true) :
    statement.next left.current = statement.next draft.current := by
  cases statement with
  | entry key value => exact h.current hknown
  | _ => rfl

theorem name_trimChange (change : Change) : (trimChange change).name = change.name := by
  cases change with
  | add heading value => cases value <;> rfl
  | _ => rfl

theorem Trims.add?_trim {draft left : Draft} (h : Trims draft left) {statement : Statement}
    (hknown : isKnown (statement.path draft.current) = true) :
    left.add? (trim draft.current statement) =
      ((trimChange (statement.change draft.current)).run? left.root).map fun root =>
        ⟨root, statement.next left.current⟩ := by
  have hpath : (trim draft.current statement).path draft.current =
      statement.path draft.current := by
    cases statement <;> rfl
  rw [Draft.add?_eq, h.change_eq (by rw [hpath, hknown]), change_trim, next_trim]

/-- A statement about known names is made in the document without the others as well. -/
theorem Trims.keep {draft left after : Draft} (h : Trims draft left) {statement : Statement}
    (hadd : draft.add? statement = some after) (hsections : HasSections after.root)
    (hknown : isKnown (statement.path draft.current) = true) :
    ∃ rest, left.add? (trim draft.current statement) = some rest ∧ Trims after rest := by
  rw [Draft.add?_eq, Option.map_eq_some_iff] at hadd
  obtain ⟨root, happly, rfl⟩ := hadd
  obtain ⟨value, hvalue, rfl⟩ := Change.run?_eq_some_iff.1 happly
  have hknownChange : isKnown (statement.change draft.current).path = true := by
    rw [Statement.path_change, hknown]
  have hname := mem_headings_of_isKnown hknownChange
  obtain ⟨t, rfl⟩ := hsections _ hname value (by rw [Table.get?_put, if_pos rfl])
  obtain ⟨rest, hrest, htrimmed⟩ := (h.sections _ hname).step
    (Change.value?_eq_some_iff.1 hvalue) (fun _ _ _ => route_eq_dotted_iff) eq_nil_of_next
    hknownChange
  have hleft : (trimChange (statement.change draft.current)).run? left.root =
      some (left.root.put (statement.change draft.current).name (.table rest)) := by
    refine Change.run?_eq_some_iff.2 ⟨.table rest, ?_, ?_⟩
    · rw [name_trimChange]
      exact Change.value?_eq_some_iff.2 hrest
    · rw [name_trimChange]
  rw [h.add?_trim hknown, hleft]
  refine ⟨_, rfl, ?_, h.next statement⟩
  intro heading hheading
  dsimp only
  rw [Table.get?_put, Table.get?_put]
  split
  · next heq =>
    subst heq
    exact htrimmed
  · exact (h.sections heading hheading).mono eq_nil_of_next

theorem Trims.drop {draft left after : Draft} (h : Trims draft left) {statement : Statement}
    (hadd : draft.add? statement = some after) (hsections : HasSections after.root)
    (hunknown : isKnown (statement.path draft.current) = false) : Trims after left := by
  rw [Draft.add?_eq, Option.map_eq_some_iff] at hadd
  obtain ⟨root, happly, rfl⟩ := hadd
  obtain ⟨value, hvalue, rfl⟩ := Change.run?_eq_some_iff.1 happly
  refine ⟨?_, ?_⟩
  · intro heading hheading
    dsimp only
    rw [Table.get?_put]
    split
    · next heq =>
      obtain ⟨t, rfl⟩ := hsections heading hheading value (by rw [Table.get?_put, if_pos heq])
      rw [heq] at hheading ⊢
      exact (h.sections _ hheading).skip (Change.value?_eq_some_iff.1 hvalue)
        (fun _ _ _ => route_eq_dotted_iff) eq_nil_of_next hheading
        (by rw [Statement.path_change, hunknown])
    · exact (h.sections heading hheading).mono eq_nil_of_next
  · intro hnext
    cases statement with
    | entry key value => exact h.current hnext
    | _ => exact absurd hnext (by simpa [Statement.next, Statement.path] using hunknown)

theorem Trims.foldlM {statements : List Statement} {draft left after : Draft} (h : Trims draft left)
    (hadd : statements.foldlM Draft.add? draft = some after) (hsections : HasSections after.root) :
    ∃ rest, (knownFrom draft.current statements).foldlM Draft.add? left = some rest ∧
      Trims after rest := by
  -- A step that is kept moves both drafts, one that is dropped moves the first alone.
  induction statements generalizing draft left with
  | nil =>
    cases hadd
    exact ⟨left, rfl, h⟩
  | cons statement statements ih =>
    obtain ⟨next, hnext, hadd⟩ := Option.bind_eq_some_iff.1 hadd
    have hthere := hasSections_of_foldlM hadd hsections
    have hcurrent : next.current = statement.next draft.current := by
      rw [Draft.add?_eq, Option.map_eq_some_iff] at hnext
      obtain ⟨root, -, rfl⟩ := hnext
      rfl
    rw [knownFrom, ← hcurrent]
    cases hknown : isKnown (statement.path draft.current) with
    | true =>
      obtain ⟨middle, hmiddle, htrims⟩ := h.keep hnext hthere hknown
      obtain ⟨rest, hrest, hafter⟩ := ih htrims hadd
      refine ⟨rest, ?_, hafter⟩
      rw [if_pos rfl, List.foldlM_cons, hmiddle]
      exact hrest
    | false => exact ih (h.drop hnext hthere hknown) hadd

/-- Without the unknown names a document is a document still, and gives the same settings. -/
theorem IsDocument.known {text other : String} {statements : List Statement} {root : Table Value}
    (h : IsDocument text statements root)
    (hother : Parser.all Toml.statements other.toList = some (known statements)) :
    ∃ rest, IsDocument other (known statements) rest ∧ ofTable? rest = ofTable? root := by
  obtain ⟨after, hafter, rfl⟩ := Option.map_eq_some_iff.1 h.built
  have hstart : Trims {} {} := ⟨fun _ _ => .missing, fun _ => rfl⟩
  obtain ⟨rest, hrest, htrims⟩ := hstart.foldlM hafter h.sectioned.sections
  have hsame {heading name : String} (hname : name ∈ fieldNames heading) :
      given? rest.root heading name = given? after.root heading name :=
    (htrims.sections heading (mem_headings hname)).field?_eq hname
  have hsectioned : Sectioned rest.root := by
    refine ⟨?_, ?_⟩
    · intro heading hheading value hvalue
      exact (htrims.sections heading hheading).eq_table hvalue
    · intro t
      rw [hsame (by decide)]
      exact h.sectioned.swapMethod t
  have hagree : Agree rest.root after.root := by
    rintro ⟨heading, name, plain⟩ hname
    unfold Gives
    rw [hsame hname]
  refine ⟨rest.root, ⟨hother, ?_, hsectioned⟩, hagree.ofTable?_eq hsectioned h.sectioned⟩
  exact Option.map_eq_some_iff.2 ⟨rest, hrest, rfl⟩

end Compositor.Settings
