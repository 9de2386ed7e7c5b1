import Compositor.Boundary.Handle

namespace Compositor

structure Screen where
  root : XId
  /-- The overlay window, where the compositor has one. -/
  overlay : Option XId
  visual : XId
  /-- The depth of windows that ask for none. -/
  depth : UInt8
  width : UInt32
  height : UInt32
deriving DecidableEq, Repr

/-- What is painted and swapped: the overlay, else the root window. -/
def Screen.target (screen : Screen) : XId := screen.overlay.getD screen.root

end Compositor
