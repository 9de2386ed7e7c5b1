import Compositor.Settings.Basic
import Compositor.Toml.Document

namespace Compositor

open Toml (Value Table)

namespace Settings

/-- The fields that a section gives: by place if it is a list, else by name. -/
abbrev Fields := (place : Nat) → (name : String) → Option Value

/-- A date counts as a section without fields. -/
def fields? : Value → Option Fields
  | .table t => some fun _ name => t.get? name
  | .array items => some fun place _ => items[place]?
  | .tables elements => some fun place _ => elements[place]?.map .table
  | .dateTime _ => some fun _ _ => none
  | _ => none

/-- A given value must have the right type; one that is not given has the default. -/
def orDefault (decode : Value → Option α) (default : α) : Option Value → Option α
  | none => some default
  | some value => decode value

def boolean? : Value → Option Bool
  | .boolean b => some b
  | _ => none

def uint32? : Value → Option UInt32
  | .integer n => if 0 ≤ n ∧ n.toNat < UInt32.size then some (.ofNat n.toNat) else none
  | _ => none

def isVoid : Value → Bool
  | .table t => t.isEmpty
  | .array items => items.isEmpty
  | .tables elements => elements.isEmpty
  | _ => false

/-- A name, alone or as the only entry of a table, with nothing in it. -/
def swapMethod? : Value → Option SwapMethod
  | .string name => SwapMethod.ofName? name
  | .table ⟨_, [(name, content)]⟩ => if isVoid content then SwapMethod.ofName? name else none
  | _ => none

def glx? (fields : Fields) : Option GlxSettings := do
  let default : GlxSettings := {}
  return {
    noStencil := ← orDefault boolean? default.noStencil (fields 0 "no_stencil")
    swapMethod := ← orDefault swapMethod? default.swapMethod (fields 1 "swap_method")
    maxBufferAge := ← orDefault uint32? default.maxBufferAge (fields 2 "max_buffer_age")
    debugContext := ← orDefault boolean? default.debugContext (fields 3 "debug_context") }

def general? (fields : Fields) : Option GeneralSettings := do
  let default : GeneralSettings := {}
  return {
    debug := ← orDefault boolean? default.debug (fields 0 "debug")
    useOverlay := ← orDefault boolean? default.useOverlay (fields 1 "use_overlay") }

/-- The settings of a document, unless a field has the wrong type. -/
def ofTable? (root : Table Value) : Option Settings := do
  return {
    glx := ← orDefault (fields? · >>= glx?) {} (root.get? "glx")
    general := ← orDefault (fields? · >>= general?) {} (root.get? "general") }

def ofText? (text : String) : Option Settings := Toml.parse? text >>= ofTable?

end Settings
end Compositor
