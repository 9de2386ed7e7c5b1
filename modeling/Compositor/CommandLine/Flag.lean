namespace Compositor.CommandLine

inductive Flag where
  | config
  | display
  | debug
  | json
  | noStencil
  | noOverlay
  | frames
  | help
  | version
deriving DecidableEq, Repr

/-- Where the settings are if nothing else is said. -/
def defaultConfig : String := "~/.config/axiom/glx.toml"

namespace Flag

/-- All flags, in the order of the help text. -/
def all : List Flag :=
  [config, display, debug, json, noStencil, noOverlay, frames, help, version]

def long : Flag → String
  | config => "config"
  | display => "display"
  | debug => "debug"
  | json => "json"
  | noStencil => "no-stencil"
  | noOverlay => "no-overlay"
  | frames => "frames"
  | help => "help"
  | version => "version"

def short? : Flag → Option Char
  | config => some 'c'
  | debug => some 'd'
  | help => some 'h'
  | version => some 'V'
  | display | json | noStencil | noOverlay | frames => none

/-- The name of the value, for a flag that takes one. -/
def valueName? : Flag → Option String
  | config => some "CONFIG"
  | display => some "DISPLAY"
  | frames => some "FRAMES"
  | debug | json | noStencil | noOverlay | help | version => none

def takesValue (flag : Flag) : Bool := flag.valueName?.isSome

/-- The value of a flag that is not given, where the help text names it. -/
def default? : Flag → Option String
  | config => some defaultConfig
  | frames => some "0"
  | display | debug | json | noStencil | noOverlay | help | version => none

def description : Flag → String
  | config => "Path to configuration file"
  | display => "X display to connect to (defaults to $DISPLAY)"
  | debug => "Enable debug logging"
  | json => "Print the depth table as JSON"
  | noStencil => "Don't require or use a stencil buffer"
  | noOverlay => "Render to the root window instead of the composite overlay"
  | frames => "Present this many frames and report the buffer age of each"
  | help => "Print help"
  | version => "Print version"

/-- The long form, with the name of the value. -/
def usage (flag : Flag) : String :=
  match flag.valueName? with
  | none => "--" ++ flag.long
  | some name => "--" ++ flag.long ++ " <" ++ name ++ ">"

def ofLong? (name : String) : Option Flag := all.find? (·.long = name)

def ofShort? (letter : Char) : Option Flag := all.find? (·.short? = some letter)

end Flag
end Compositor.CommandLine
