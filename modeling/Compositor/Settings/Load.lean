import Compositor.Host.FileTree
import Compositor.Log.Level
import Compositor.Settings.Decode
import Compositor.Settings.Encode

namespace Compositor

open Host (ReadError)

inductive SettingsError where
  /-- The path is below the home directory, which is not known. -/
  | homeUnknown
  | unreadable (path : String) (cause : ReadError)
  /-- The file is no document, or a field has the wrong type. -/
  | malformed (path : String)
  | ageOutOfRange (age : UInt32)
  | unwritable
deriving DecidableEq, Repr

namespace SettingsError

def message : SettingsError → String
  | homeUnknown => "Failed to get HOME environment variable"
  | unreadable path _ => "Failed to read config file: " ++ path
  | malformed path => "Failed to parse config file: " ++ path
  | ageOutOfRange age =>
    "Invalid max_buffer_age " ++ toString age.toNat ++ ": must be between 1 and " ++
      toString maxBufferAgeLimit.toNat
  | unwritable => "Failed to write configuration file"

/-- The message, followed by its cause if that has a text of its own. Of a malformed file, only the
first words of the cause are given, without the place in the file and the excerpt after them. -/
def report : SettingsError → String
  | homeUnknown => homeUnknown.message ++ ": environment variable not found"
  | unreadable path cause => (unreadable path cause).message ++ ": " ++ cause.message
  | malformed path => (malformed path).message ++ ": TOML parse error"
  | error => error.message

end SettingsError

namespace Settings

def validate (settings : Settings) : Except SettingsError Unit :=
  if settings.isValid then .ok () else .error (.ageOutOfRange settings.glx.maxBufferAge)

/-- The settings in what reading the file at a path has given. -/
def ofContent (path : String) (content : Except ReadError ByteArray) :
    Except SettingsError Settings := do
  let bytes ← content.mapError (.unreadable path)
  let some text := String.fromUTF8? bytes | .error (.unreadable path .notUtf8)
  let some settings := ofText? text | .error (.malformed path)
  settings.validate
  return settings

/-- Reads the settings at a path, which may start at the home directory. -/
def load (home : Option String) (read : String → Except ReadError ByteArray) (path : String) :
    Except SettingsError Settings :=
  match Host.Path.expandHome home path with
  | none => .error .homeUnknown
  | some path => ofContent path (read path)

/-- Writes the settings to a path, whatever their values. -/
def save (settings : Settings) (tree : Host.FileTree) (workingDirectory : List String)
    (path : String) : Except SettingsError Host.FileTree :=
  match tree.write? workingDirectory path settings.render.toUTF8 with
  | none => .error .unwritable
  | some tree => .ok tree

end Settings

namespace GeneralSettings

/-- What is logged if nothing else is asked for. -/
def logFilter (settings : GeneralSettings) : LogFilter :=
  some (if settings.debug then .debug else .info)

end GeneralSettings
end Compositor
