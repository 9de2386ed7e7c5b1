import Compositor.CommandLine.Help
import Compositor.CommandLine.Options
import Compositor.Log.Directive
import Compositor.Settings.Load

namespace Compositor.Probe

open CommandLine (Options Stop)

inductive Notice where
  | started
  | loaded (path : String)
  | notLoaded (cause : SettingsError)
  | usingDefaults
  | stencilDisabled
deriving DecidableEq, Repr

namespace Notice

def level : Notice → Level
  | notLoaded _ => .warn
  | started | loaded _ | usingDefaults | stencilDisabled => .info

def text : Notice → String
  | started => "🔎 " ++ CommandLine.programName ++ " " ++ CommandLine.programVersion
  | loaded path => "✅ Configuration loaded from: " ++ path
  | notLoaded cause => "Failed to load configuration: " ++ cause.report
  | usingDefaults => "📝 Using default configuration"
  | stencilDisabled => "Stencil buffer disabled via CLI flag"

end Notice

/-- Why a probe that was started ends without a report. -/
inductive Failure where
  | settings (cause : SettingsError)
  | libraryMissing (name : String)
deriving DecidableEq, Repr

def Failure.message : Failure → String
  | settings cause => cause.message
  | libraryMissing name => "Failed to load " ++ name

/-- Settings with the flags of the command line put over them. -/
def effective (options : Options) (settings : Settings) : Settings where
  glx := { settings.glx with
    noStencil := settings.glx.noStencil || options.noStencil
    debugContext := settings.glx.debugContext || options.debug }
  general := { settings.general with
    debug := settings.general.debug || options.debug
    useOverlay := settings.general.useOverlay && !options.noOverlay }

/-- What is logged before the display is opened. -/
def notices (options : Options) (loaded : Except SettingsError Settings) : List Notice :=
  (.started :: match loaded with
    | .ok _ => [.loaded options.config]
    | .error cause => [.notLoaded cause, .usingDefaults]) ++
  if options.noStencil then [.stencilDisabled] else []

inductive Outcome where
  /-- A text was asked for and printed. -/
  | printed (text : String)
  | misused (error : CommandLine.UsageError)
  | failed (failure : Failure)
deriving DecidableEq, Repr

namespace Outcome

def exitCode : Outcome → UInt32
  | printed _ => 0
  | failed _ => 1
  | misused _ => 2

def errorLine? : Outcome → Option String
  | printed _ => none
  | failed failure => some ("Error: " ++ failure.message)
  | misused error => some ("error: " ++ error.message)

def output : Outcome → String
  | printed text => text
  | misused _ | failed _ => ""

end Outcome

/-- The part of the program that the entries of a probe come from. -/
def logPart : String := "axiom_glx_probe"

/-- The filter that the environment asks for, else the one that holds by default. -/
def logFilter (requested : Option String) (default : LogFilter) : LogFilter :=
  match requested with
  | none => default
  | some request => LogFilter.ofRequest request logPart

/-- What a probe finds around it, apart from the settings. -/
structure Surroundings where
  /-- Opens the display and reports on it. -/
  examine : Options → Settings → Outcome
  /-- Whether an entry is logged, given the filter that the settings ask for. -/
  logs : LogFilter → Notice → Bool

def stop : Stop → Outcome
  | .help => .printed CommandLine.helpText
  | .version => .printed CommandLine.versionText
  | .misuse error => .misused error

namespace Surroundings

/-- Displays are reached through a library of the system, and none is linked here. -/
def withoutDisplay (requestedLevel : Option String) : Surroundings where
  examine _ _ := .failed (.libraryMissing "libGL.so.1")
  logs default notice := (logFilter requestedLevel default).allows notice.level

/-- Goes on with options, once loading the settings has succeeded or failed. -/
def start (surroundings : Surroundings) (options : Options)
    (loaded : Except SettingsError Settings) : Outcome × List Notice :=
  let settings := effective options (loaded.toOption.getD {})
  let outcome := match settings.validate with
    | .error cause => .failed (.settings cause)
    | .ok () => surroundings.examine options settings
  (outcome, (notices options loaded).filter (surroundings.logs settings.general.logFilter))

/-- A run with the given arguments; `load` gives the settings at a path. -/
def run (surroundings : Surroundings) (arguments : List String)
    (load : String → Except SettingsError Settings) : Outcome × List Notice :=
  match Options.ofArguments arguments with
  | .error reason => (stop reason, [])
  | .ok options => surroundings.start options (load options.config)

end Surroundings

/-- A run where no display can be reached. -/
def run (arguments : List String) (requestedLevel : Option String)
    (load : String → Except SettingsError Settings) : Outcome × List Notice :=
  (Surroundings.withoutDisplay requestedLevel).run arguments load

end Compositor.Probe
