import Compositor.CommandLine.Flag

namespace Compositor.CommandLine

def programName : String := "axiom-glx-probe"

def programVersion : String := "0.1.0"

namespace Flag

/-- The forms of a flag; a flag without a letter leaves room for one. -/
def forms (flag : Flag) : String :=
  match flag.short? with
  | none => "    " ++ flag.usage
  | some letter => "-" ++ letter.toString ++ ", " ++ flag.usage

def helpText (flag : Flag) : String :=
  match flag.default? with
  | none => flag.description
  | some value => flag.description ++ " [default: " ++ value ++ "]"

end Flag

/-- Descriptions start in one column, two blanks after the longest form. -/
def helpLine (flag : Flag) : String :=
  let width := (Flag.all.map (·.forms.length)).foldl max 0
  let padding := String.ofList (List.replicate (width - flag.forms.length) ' ')
  "  " ++ flag.forms ++ padding ++ "  " ++ flag.helpText ++ "\n"

def helpText : String :=
  "Probe GLX texture-from-pixmap support on an X display\n\n" ++
  "Usage: " ++ programName ++ " [OPTIONS]\n\n" ++
  "Options:\n" ++ String.join (Flag.all.map helpLine)

def versionText : String := programName ++ " " ++ programVersion ++ "\n"

end Compositor.CommandLine
