import Compositor.Proofs.UnknownNames
import Compositor.Proofs.Written

namespace Compositor.Settings

open Host (ReadError)
open Toml (Value Table Statement Line Printed Written headerLine entryLine booleanLine textOf
  isWord_toList printed_header printed_entry)

def isHeader : Statement → Bool
  | .entry _ _ => false
  | _ => true

/-- Statements that do not stand below a header before them. -/
def Headed (statements : List Statement) : Prop :=
  ∀ statement ∈ statements.head?, isHeader statement = true

/-- Statements in another order: keys below one header, or sections with all that is in them. -/
inductive Reordered : List Statement → List Statement → Prop
  | keys {before keys others after : List Statement} (hperm : others.Perm keys)
    (hkeys : ∀ statement ∈ keys, isHeader statement = false) :
    Reordered (before ++ keys ++ after) (before ++ others ++ after)
  | sections {before first second after : List Statement} (hfirst : Headed first)
    (hsecond : Headed second) (hafter : Headed after) :
    Reordered (before ++ first ++ second ++ after) (before ++ second ++ first ++ after)
  | trans {statements middle others : List Statement} (hfirst : Reordered statements middle)
    (hsecond : Reordered middle others) : Reordered statements others

/-- The path of the last header, below which more statements would stand. -/
def lastHeader (current : List String) (statements : List Statement) : List String :=
  statements.foldl Statement.next current

theorem fieldsFrom_append (current : List String) (statements others : List Statement) :
    fieldsFrom current (statements ++ others) =
      fieldsFrom current statements ++ fieldsFrom (lastHeader current statements) others := by
  induction statements generalizing current with
  | nil => rfl
  | cons statement rest ih =>
    simp only [List.cons_append, fieldsFrom, ih, List.append_assoc]
    rfl

theorem Headed.fieldsFrom_eq {statements : List Statement} (h : Headed statements)
    (current : List String) : fieldsFrom current statements = fields statements := by
  cases statements with
  | nil => rfl
  | cons statement rest =>
    cases statement with
    | entry key value => exact nomatch h (.entry key value) rfl
    | _ => rfl

theorem fieldsFrom_of_keys {statements : List Statement}
    (h : ∀ statement ∈ statements, isHeader statement = false) (current : List String) :
    fieldsFrom current statements =
        statements.flatMap (fun statement => fieldsAt (statement.path current) statement.content?) ∧
      lastHeader current statements = current := by
  induction statements with
  | nil => exact ⟨rfl, rfl⟩
  | cons statement rest ih =>
    obtain ⟨hstatement, hrest⟩ := List.forall_mem_cons.1 h
    cases statement with
    | entry key value =>
      obtain ⟨hfields, hlast⟩ := ih hrest
      exact ⟨congrArg _ hfields, hlast⟩
    | _ => cases hstatement

theorem Reordered.perm_fields {statements others : List Statement}
    (h : Reordered statements others) : (fields others).Perm (fields statements) := by
  induction h with
  | @keys before keys others after hperm hkeys =>
    have hothers : ∀ statement ∈ others, isHeader statement = false := fun statement hmem =>
      hkeys statement (hperm.mem_iff.1 hmem)
    obtain ⟨hfields, hlast⟩ := fieldsFrom_of_keys hkeys (lastHeader [] before)
    obtain ⟨hfields', hlast'⟩ := fieldsFrom_of_keys hothers (lastHeader [] before)
    simp only [fields, List.append_assoc, fieldsFrom_append, hfields, hlast, hfields', hlast']
    exact ((hperm.flatMap_right _).append_right _).append_left _
  | @sections before first second after hfirst hsecond hafter =>
    have hfields {one two : List Statement} (hone : Headed one) (htwo : Headed two) :
        fields (before ++ one ++ two ++ after) =
          fields before ++ (fields one ++ (fields two ++ fields after)) := by
      unfold fields
      simp only [List.append_assoc, fieldsFrom_append, hone.fieldsFrom_eq, htwo.fieldsFrom_eq,
        hafter.fieldsFrom_eq]
    rw [hfields hfirst hsecond, hfields hsecond hfirst]
    exact List.perm_append_comm_assoc .. |>.append_left _
  | trans _ _ ihfirst ihsecond => exact ihsecond.trans ihfirst

/-- Loading a document answers for its known fields, each on its own. It answers the same if all
unknown names are removed, and for any document that gives the same fields, as one does in which
the same keys and sections stand in another order. -/
theorem load_known_fields {text : String} {statements : List Statement} {root : Table Value}
    (h : IsDocument text statements root) {home : Option String} {path expanded : String}
    (hpath : Host.Path.expandHome home path = some expanded)
    {read : String → Except ReadError ByteArray} (hread : read expanded = .ok text.toUTF8) :
    Answers root expanded (load home read path) ∧
      (∀ (other : String) reread, reread expanded = .ok other.toUTF8 →
        Parser.all Toml.statements other.toList = some (known statements) →
        load home reread path = load home read path) ∧
      ∀ (other : String) others otherRoot reread, reread expanded = .ok other.toUTF8 →
        IsDocument other others otherRoot →
        (∀ field, field ∈ fields others ↔ field ∈ fields statements) →
        load home reread path = load home read path := by
  have hsame {other : String} {others : List Statement} {otherRoot : Table Value}
      {reread : String → Except ReadError ByteArray} (hreread : reread expanded = .ok other.toUTF8)
      (hother : IsDocument other others otherRoot) (hroot : ofTable? otherRoot = ofTable? root) :
      load home reread path = load home read path := by
    have htext : ofText? other = ofText? text := by
      rw [ofText?, ofText?, hother.parse?, h.parse?]
      exact hroot
    rw [load_of_expandHome hpath, load_of_expandHome hpath, hread, hreread, ofContent_toUTF8,
      ofContent_toUTF8, htext]
  refine ⟨answers_load h.parse? h.sectioned hpath hread, ?_, ?_⟩
  · intro other reread hreread hknown
    obtain ⟨rest, hrest, hroot⟩ := h.known hknown
    exact hsame hreread hrest hroot
  · intro other others otherRoot reread hreread hother hfields
    exact hsame hreread hother (ofTable?_eq_of_fields h hother hfields)

/-- The largest age beside a name that is not known, which can be removed, and two sections in both
orders. -/
theorem load_known_fields_reordered :
    let text := "[glx]\nvsync = true\nmax_buffer_age = 16\n[general]\ndebug = true\n"
    let trimmed := "[glx]\nmax_buffer_age = 16\n[general]\ndebug = true\n"
    let reordered := "[general]\ndebug = true\n[glx]\nvsync = true\nmax_buffer_age = 16\n"
    let settings : Settings := { glx := { maxBufferAge := 16 }, general := { debug := true } }
    load none (fun _ => .ok text.toUTF8) "c.toml" = .ok settings ∧
      load none (fun _ => .ok trimmed.toUTF8) "c.toml" = .ok settings ∧
      load none (fun _ => .ok reordered.toUTF8) "c.toml" = .ok settings := by
  intro text trimmed reordered settings
  let vsync := booleanLine "vsync" true
  let age := entryLine "max_buffer_age" "16" (.integer 16)
  let debug := booleanLine "debug" true
  let lines := [headerLine "glx", vsync, age, headerLine "general", debug]
  let others := [headerLine "general", debug, headerLine "glx", vsync, age]
  let glx : String × Value :=
    ("glx", .table ⟨.header, [("vsync", .boolean true), ("max_buffer_age", .integer 16)]⟩)
  let general : String × Value := ("general", .table ⟨.header, [("debug", .boolean true)]⟩)
  have htext : text = textOf lines := by decide
  have htrimmed : trimmed = textOf [headerLine "glx", age, headerLine "general", debug] := by decide
  have hothers : reordered = textOf others := by decide
  have hlines : ∀ line ∈ lines, Printed line.1.toList line.2 := by
    have hsixteen : Nat.toDigits 10 16 = "16".toList := by decide
    have hage : Written "16".toList (.integer 16) := hsixteen ▸ .number (by decide)
    simp only [lines, List.forall_mem_cons]
    refine ⟨printed_header ?_, printed_entry ?_ (.boolean true), printed_entry ?_ hage,
      printed_header ?_, printed_entry ?_ (.boolean true), List.forall_mem_nil _⟩
    all_goals exact isWord_toList (by decide)
  have hread {part : List Line} (hpart : part ⊆ lines) :
      Parser.all Toml.statements (textOf part).toList = some (part.filterMap Prod.snd) :=
    Toml.all_statements_textOf fun line hline => hlines line (hpart hline)
  have hsections {entries : List (String × Value)} (hglx : entries.lookup "glx" = some glx.2)
      (hgeneral : entries.lookup "general" = some general.2) : HasSections ⟨.header, entries⟩ := by
    simp only [HasSections, headings, List.forall_mem_cons, Table.get?, hglx, hgeneral]
    refine ⟨?_, ?_, List.forall_mem_nil _⟩
    · rintro _ ⟨⟩
      exact ⟨_, rfl⟩
    · rintro _ ⟨⟩
      exact ⟨_, rfl⟩
  have hdocument : IsDocument text (lines.filterMap Prod.snd) ⟨.header, [glx, general]⟩ :=
    ⟨htext ▸ hread (List.Subset.refl _), rfl, hsections rfl rfl, by rintro _ ⟨⟩⟩
  have hother : IsDocument reordered (others.filterMap Prod.snd) ⟨.header, [general, glx]⟩ :=
    ⟨hothers ▸ hread (by simp [others, lines]), rfl, hsections rfl rfl, by rintro _ ⟨⟩⟩
  obtain ⟨hanswers, hknown, hfields⟩ :=
    @load_known_fields _ _ _ hdocument none "c.toml" "c.toml" rfl (fun _ => .ok text.toUTF8) rfl
  have hreads : Reads ⟨.header, [glx, general]⟩ settings :=
    ⟨.inl ⟨rfl, rfl⟩, .inl ⟨rfl, rfl⟩, .inr rfl, .inl ⟨rfl, rfl⟩, .inr rfl, .inl ⟨rfl, rfl⟩⟩
  have hload := (hanswers.eq_ok_iff settings).2 ⟨hreads, by decide, by decide⟩
  refine ⟨hload, ?_, ?_⟩
  · rw [hknown trimmed _ rfl (htrimmed ▸ hread (by simp [lines])), hload]
  · let first := (lines.take 3).filterMap Prod.snd
    let second := (lines.drop 3).filterMap Prod.snd
    have hreordered : Reordered ([] ++ first ++ second ++ []) ([] ++ second ++ first ++ []) :=
      .sections (by rintro _ ⟨⟩; rfl) (by rintro _ ⟨⟩; rfl) (by rintro _ ⟨⟩)
    rw [hfields reordered _ _ _ rfl hother fun _ => hreordered.perm_fields.mem_iff, hload]

end Compositor.Settings
