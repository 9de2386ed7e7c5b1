namespace Compositor

inductive Level where
  | error
  | warn
  | info
  | debug
  | trace
deriving DecidableEq, Repr

namespace Level

def name : Level → String
  | .error => "error"
  | .warn => "warn"
  | .info => "info"
  | .debug => "debug"
  | .trace => "trace"

/-- How far down a level lies; errors lie highest. -/
def depth : Level → Nat
  | .error => 1
  | .warn => 2
  | .info => 3
  | .debug => 4
  | .trace => 5

def all : List Level := [.error, .warn, .info, .debug, .trace]

/-- The level of a name in any mixture of cases. -/
def ofName? (name : String) : Option Level :=
  all.find? fun level => level.name = name.map Char.toLower

end Level

/-- The least severe level that is logged; `none` logs nothing. -/
abbrev LogFilter := Option Level

namespace LogFilter

/-- The filter of a name: that of a level, or the word for none of them. -/
def ofName? (name : String) : Option LogFilter :=
  if name.map Char.toLower = "off" then some none else (Level.ofName? name).map some

def allows (filter : LogFilter) (level : Level) : Bool :=
  match filter with
  | none => false
  | some least => level.depth ≤ least.depth

theorem allows_mono {filter : LogFilter} {level other : Level} (hdepth : other.depth ≤ level.depth)
    (h : filter.allows level = true) : filter.allows other = true := by
  cases filter with
  | none => cases h
  | some least => exact decide_eq_true (Nat.le_trans hdepth (of_decide_eq_true h))

end LogFilter
end Compositor
