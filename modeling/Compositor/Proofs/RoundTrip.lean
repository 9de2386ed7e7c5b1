import Compositor.Proofs.Fields
import Compositor.Proofs.FileTree
import Compositor.Proofs.Written

namespace Compositor.Settings

open Toml (Value Table Statement Line Printed IsWord Written)
open Toml (headerLine entryLine booleanLine textOf isWord_toList printed_header printed_entry)

/-- The lines of printed settings, each with the statement that it makes. -/
def lines (settings : Settings) : List Line :=
  [headerLine "glx",
    booleanLine "no_stencil" settings.glx.noStencil,
    entryLine "swap_method" ("\"" ++ settings.glx.swapMethod.name ++ "\"")
      (.string settings.glx.swapMethod.name),
    entryLine "max_buffer_age" (toString settings.glx.maxBufferAge.toNat)
      (.integer settings.glx.maxBufferAge.toNat),
    booleanLine "debug_context" settings.glx.debugContext,
    ("\n", none),
    headerLine "general",
    booleanLine "debug" settings.general.debug,
    booleanLine "use_overlay" settings.general.useOverlay]

theorem boolText_eq (b : Bool) : boolText b = toString b := by cases b <;> rfl

theorem render_eq (settings : Settings) :
    settings.render = textOf settings.lines := by
  have hglx : "[glx]\n" = "[" ++ "glx" ++ "]\n" := by decide
  have hgeneral : "[general]\n" = "[" ++ "general" ++ "]\n" := by decide
  have hnoStencil : "no_stencil = " = "no_stencil" ++ " = " := by decide
  have hswapMethod : "swap_method = \"" = "swap_method" ++ " = " ++ "\"" := by decide
  have hmaxBufferAge : "max_buffer_age = " = "max_buffer_age" ++ " = " := by decide
  have hdebugContext : "debug_context = " = "debug_context" ++ " = " := by decide
  have hdebug : "debug = " = "debug" ++ " = " := by decide
  have huseOverlay : "use_overlay = " = "use_overlay" ++ " = " := by decide
  have hend : "\"\n" = "\"" ++ "\n" := by decide
  unfold render
  rw [hend, hglx, hgeneral, hnoStencil, hswapMethod, hmaxBufferAge, hdebugContext, hdebug,
    huseOverlay]
  simp only [textOf, lines, headerLine, booleanLine, entryLine, boolText_eq, List.foldr_cons,
    List.foldr_nil, String.append_assoc, String.append_empty]

theorem printed_lines (settings : Settings) :
    ∀ line ∈ settings.lines, Printed line.1.toList line.2 := by
  have hmethod : Written ("\"" ++ settings.glx.swapMethod.name ++ "\"").toList
      (.string settings.glx.swapMethod.name) := by
    have hplain : settings.glx.swapMethod.name.toList.all Toml.isPlain = true := by
      cases settings.glx.swapMethod <;> decide
    have hne : settings.glx.swapMethod.name.toList ≠ [] := by
      cases settings.glx.swapMethod <;> decide
    have hwritten := Written.string hne (List.all_eq_true.1 hplain)
    rw [String.ofList_toList] at hwritten
    simpa using hwritten
  have hage : Written (toString settings.glx.maxBufferAge.toNat).toList
      (.integer settings.glx.maxBufferAge.toNat) := by
    have hlt : settings.glx.maxBufferAge.toNat < 4294967296 := settings.glx.maxBufferAge.toNat_lt
    have hmax : Int64.maxValue.toInt = 9223372036854775807 := by decide
    rw [Nat.toString_eq_ofList_toDigits, String.toList_ofList]
    exact .number (by omega)
  have hboolean {name : String} (hname : IsWord name.toList) (b : Bool) :
      Printed (booleanLine name b).1.toList (booleanLine name b).2 :=
    printed_entry hname (.boolean b)
  simp only [lines, List.forall_mem_cons]
  refine ⟨printed_header ?_, hboolean ?_ _, printed_entry ?_ hmethod, printed_entry ?_ hage,
    hboolean ?_ _, .blank, printed_header ?_, hboolean ?_ _, hboolean ?_ _, nofun⟩
  all_goals exact isWord_toList (by decide)

/-- The document that settings are printed as. -/
def document (settings : Settings) : Table Value :=
  ⟨.header, [
    ("glx", .table ⟨.header, [
      ("no_stencil", .boolean settings.glx.noStencil),
      ("swap_method", .string settings.glx.swapMethod.name),
      ("max_buffer_age", .integer settings.glx.maxBufferAge.toNat),
      ("debug_context", .boolean settings.glx.debugContext)]⟩),
    ("general", .table ⟨.header, [
      ("debug", .boolean settings.general.debug),
      ("use_overlay", .boolean settings.general.useOverlay)]⟩)]⟩

theorem ofStatements?_lines (settings : Settings) :
    Table.ofStatements? (settings.lines.filterMap Prod.snd) = some settings.document := by
  rfl

theorem ofTable?_document (settings : Settings) : ofTable? settings.document = some settings := by
  obtain ⟨⟨noStencil, swapMethod, maxBufferAge, debugContext⟩, ⟨debug, useOverlay⟩⟩ := settings
  have hmethod : SwapMethod.ofName? swapMethod.name = some swapMethod :=
    SwapMethod.ofName?_eq_some_iff.2 rfl
  have hage : uint32? (.integer maxBufferAge.toNat) = some maxBufferAge :=
    uint32?_eq_some_iff.2 rfl
  simp [ofTable?, document, Table.get?, List.lookup_cons, orDefault, fields?, glx?, general?,
    boolean?, swapMethod?, hmethod, hage]

theorem ofText?_render (settings : Settings) : ofText? settings.render = some settings := by
  have hparse : Toml.parse? settings.render = some settings.document := by
    rw [Toml.parse?, render_eq, Toml.all_statements_textOf settings.printed_lines]
    exact ofStatements?_lines settings
  rw [ofText?, hparse]
  exact ofTable?_document settings

/-- Settings that were saved come back when the file is loaded, unless their age is out of range;
then this is what is wrong with it. -/
theorem load_save {settings : Settings} {tree saved : Host.FileTree}
    {workingDirectory : List String} {path : String}
    (hsave : settings.save tree workingDirectory path = .ok saved) :
    saved.read workingDirectory path = .ok settings.render.toUTF8 ∧
      ∀ home place other, other.toList.head? ≠ some '~' →
        saved.read place other = saved.read workingDirectory path →
        load home (saved.read place) other =
          if 1 ≤ settings.glx.maxBufferAge.toNat ∧ settings.glx.maxBufferAge.toNat ≤ 16 then
            .ok settings
          else .error (.ageOutOfRange settings.glx.maxBufferAge) := by
  have hread : saved.read workingDirectory path = .ok settings.render.toUTF8 := by
    apply Host.FileTree.read_of_write?
    unfold save at hsave
    split at hsave
    · cases hsave
    · next hwrite =>
      cases hsave
      exact hwrite
  refine ⟨hread, ?_⟩
  intro home place other hhead hother
  rw [load_of_expandHome (Host.Path.expandHome_of_not_tilde hhead), hother, hread,
    ofContent_toUTF8, ofText?_render]

/-- Saved under a relative path and loaded under an absolute one: the largest age is too large. -/
theorem load_save_largest_age :
    let settings : Settings :=
      { glx := { noStencil := true, swapMethod := .bufferAge, maxBufferAge := 4294967295 } }
    let tree := Host.FileTree.directory [("etc", .directory [])]
    ∃ saved, settings.save tree ["etc"] "./glx.toml" = .ok saved ∧
      saved.read [] "/etc/glx.toml" = saved.read ["etc"] "./glx.toml" ∧
      saved.read ["etc"] "./glx.toml" = .ok settings.render.toUTF8 ∧
      load none (saved.read []) "/etc/glx.toml" = .error (.ageOutOfRange 4294967295) := by
  intro settings tree
  obtain ⟨saved, hsave, hread⟩ : ∃ saved, settings.save tree ["etc"] "./glx.toml" = .ok saved ∧
      saved.read [] "/etc/glx.toml" = saved.read ["etc"] "./glx.toml" := ⟨_, rfl, rfl⟩
  obtain ⟨hwritten, hload⟩ := load_save hsave
  exact ⟨saved, hsave, hread, hwritten, hload none [] "/etc/glx.toml" (by decide) hread⟩

end Compositor.Settings
