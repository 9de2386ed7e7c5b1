import Mathlib.Data.List.Nodup
import Compositor.Proofs.Parsing
import Compositor.Proofs.TableChanges

namespace Compositor.Toml

open Compositor.Parser

namespace Table

variable {table : Table α} {name : String} {value : α}

/-- No name stands in a table twice. -/
def Distinct (table : Table α) : Prop := (table.entries.map Prod.fst).Nodup

theorem map_fst_putEntry (name : String) (value : α) (entries : List (String × α)) :
    (putEntry name value entries).map Prod.fst =
      if name ∈ entries.map Prod.fst then entries.map Prod.fst
      else entries.map Prod.fst ++ [name] := by
  induction entries with
  | nil => rfl
  | cons entry rest ih =>
    obtain ⟨key, old⟩ := entry
    by_cases hkey : key = name
    · simp [putEntry, hkey]
    · simp only [putEntry, hkey, if_false, List.map_cons, ih, List.mem_cons, Ne.symm hkey, false_or]
      split <;> rfl

theorem Distinct.put (h : table.Distinct) (name : String) (value : α) :
    (table.put name value).Distinct := by
  unfold Distinct Table.put
  rw [map_fst_putEntry]
  split
  · exact h
  · next hnew =>
    rw [List.nodup_append]
    refine ⟨h, List.nodup_singleton name, ?_⟩
    rintro other hother _ hname rfl
    rw [List.mem_singleton] at hname
    exact hnew (hname ▸ hother)

theorem Distinct.mem_entries_iff (h : table.Distinct) :
    (name, value) ∈ table.entries ↔ table.get? name = some value := by
  obtain ⟨origin, entries⟩ := table
  simp only [Distinct, Table.get?] at h ⊢
  induction entries with
  | nil => simp
  | cons entry rest ih =>
    obtain ⟨key, old⟩ := entry
    rw [List.map_cons, List.nodup_cons] at h
    by_cases hname : name = key
    · subst hname
      have hnot : (name, value) ∉ rest := fun hmem => h.1 (List.mem_map.2 ⟨_, hmem, rfl⟩)
      simp [hnot, eq_comm]
    · simp [hname, List.lookup_cons, beq_eq_false_iff_ne.2 hname, ih h.2]

theorem Distinct.of_run? {table changed : Table Value} {change : Change} (h : table.Distinct)
    (happly : change.run? table = some changed) : changed.Distinct := by
  obtain ⟨value, -, rfl⟩ := Change.run?_eq_some_iff.1 happly
  exact h.put _ value

theorem distinct_of_ofEntries? {entries : List (Key × Value)} {table : Table Value}
    (h : Table.ofEntries? entries = some table) : table.Distinct := by
  have hstart : (⟨.inline, []⟩ : Table Value).Distinct := List.nodup_nil
  unfold Table.ofEntries? at h
  generalize (⟨.inline, []⟩ : Table Value) = start at h hstart
  induction entries generalizing start with
  | nil =>
    cases h
    exact hstart
  | cons entry entries ih =>
    obtain ⟨next, hnext, hrest⟩ := Option.bind_eq_some_iff.1 h
    dsimp only at hnext
    rw [insert?_eq_run?] at hnext
    exact ih next hrest (hstart.of_run? hnext)

end Table

/-- A table between braces has every name once; other values are no such tables. -/
def Value.Distinct (value : Value) : Prop := ∀ t, value = .table t → t.Distinct

def Statement.Distinct (statement : Statement) : Prop :=
  ∀ key value, statement = .entry key value → value.Distinct

theorem yields_scalar : Yields scalar Value.Distinct :=
  .orElse (.map (.of_forall fun _ => nofun)) <|
    .orElse (.seqRight (.pure nofun)) <|
    .orElse (.seqRight (.pure nofun)) <|
    .orElse (.map (.of_forall fun _ => nofun)) <|
    .orElse (.map (.of_forall fun _ => nofun)) (.map (.of_forall fun _ => nofun))

theorem yields_inlineTable (p : Parser Value) : Yields (inlineTable p) Table.Distinct := by
  refine .after fun _ => .after fun entries => .after fun _ => ?_
  intro s table rest h
  obtain ⟨t, ht, hpair⟩ := Option.bind_eq_some_iff.1 h
  cases hpair
  exact Table.distinct_of_ofEntries? ht

theorem yields_value (depth : Nat) : Yields (value depth) Value.Distinct := by
  cases depth with
  | zero => exact yields_scalar
  | succ depth =>
    refine .orElse yields_scalar (.orElse (.map (.of_forall fun _ => nofun)) (.map ?_))
    intro s table rest h t ht
    cases ht
    exact yields_inlineTable _ s table rest h

theorem yields_entry : Yields (entry (value maxNesting)) fun entry => entry.2.Distinct :=
  .after fun _ => .bind (yields_value maxNesting) fun _ h => .pure h

theorem yields_statement : Yields Statement.parser Statement.Distinct := by
  refine .orElse (.orElse (.after fun _ => .after fun _ => .pure nofun)
    (.after fun _ => .after fun _ => .pure nofun)) (.map ?_)
  rintro s ⟨key, value⟩ rest h _ _ ⟨⟩
  exact yields_entry s _ rest h

theorem yields_line : Yields line fun statement => ∀ st ∈ statement, st.Distinct := by
  refine .seqRight (.orElse (.seqLeft (.map ?_)) (.orElse ?_ ?_))
  · rintro s statement rest h _ ⟨⟩
    exact yields_statement s statement rest h
  · exact .seqRight (.pure nofun)
  · exact .seqRight (.pure nofun)

theorem yields_statements : Yields statements fun read => ∀ st ∈ read, st.Distinct := by
  refine .after fun _ => .bind (.many yields_line) fun lines hlines => .after fun _ => .pure ?_
  intro st hst
  obtain ⟨statement, hmem, hsome⟩ := List.mem_filterMap.1 hst
  exact hlines statement hmem st hsome

/-- In the statements of a document, every table between braces has each name once. -/
theorem distinct_of_all_statements {text : List Char} {read : List Statement}
    (h : all statements text = some read) : ∀ statement ∈ read, statement.Distinct := by
  obtain ⟨⟨_, rest⟩, hread, rfl⟩ := Option.map_eq_some_iff.1 h
  exact (Yields.seqLeft yields_statements) text _ rest hread

end Compositor.Toml
