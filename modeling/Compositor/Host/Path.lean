import Compositor.Text.Pieces

namespace Compositor.Host.Path

def parts (path : String) : List String := (Text.pieces (· = '/') path.toList).map String.ofList

def isAbsolute (path : String) : Bool := path.toList.head? = some '/'

/-- A part that stays where it is. -/
def isHere (part : String) : Bool := part = "" || part = "."

/-- A path below a directory; one slash is put between them if there is none. -/
def join (directory rest : String) : String :=
  if directory = "" ∨ directory.toList.getLast? = some '/' then directory ++ rest
  else directory ++ "/" ++ rest

/-- Parts that stay where they are count only between two others. -/
def trim (parts : List String) : List String :=
  ((parts.dropWhile isHere).reverse.dropWhile isHere).reverse

/--
A path that starts with a tilde is taken below the home directory, without the tilde if it is a
part by itself. There is no such path if no home directory is known.
-/
def expandHome (home : Option String) (path : String) : Option String :=
  if path.toList.head? = some '~' then
    home.map fun directory =>
      match parts path with
      | "~" :: rest => join directory ("/".intercalate (trim rest))
      | _ => join directory path
  else some path

theorem expandHome_of_not_tilde {home : Option String} {path : String}
    (h : path.toList.head? ≠ some '~') : expandHome home path = some path := by
  simp [expandHome, h]

end Compositor.Host.Path
