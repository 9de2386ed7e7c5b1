import Compositor.Text.Pieces

namespace Compositor.Extension

/-- White space between names: space, tab, line feed, form feed, carriage return. -/
def isSeparator (c : Char) : Bool :=
  c = ' ' || c = '\t' || c = '\n' || c = '\x0c' || c = '\r'

/-- The names of a list, in order. -/
def tokens (list : String) : List String :=
  ((Text.pieces isSeparator list.toList).filter (!·.isEmpty)).map String.ofList

/-- Whether a list holds exactly this name; a part of a longer name does not count. -/
def isListed (list name : String) : Bool := (tokens list).contains name

/-- Lets pixmaps be bound to textures. -/
def textureFromPixmap : String := "GLX_EXT_texture_from_pixmap"

/-- Lets two-dimensional textures have any size. -/
def nonPowerOfTwo : String := "GL_ARB_texture_non_power_of_two"

def bindTexImage : String := "glXBindTexImageEXT"

def releaseTexImage : String := "glXReleaseTexImageEXT"

end Compositor.Extension
