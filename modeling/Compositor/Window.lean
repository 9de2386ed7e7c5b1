import Compositor.Boundary.Handle

namespace Compositor

inductive WindowMode where
  | solid
  /-- The frame lets things behind it show, the contents do not. -/
  | frameTransparent
  | transparent
deriving DecidableEq, Repr

structure Window where
  id : XId
  depth : UInt8
  /-- Width and height include the borders. -/
  width : UInt32
  height : UInt32
  mode : WindowMode := .solid
  frameOpacity : Float := 1.0

namespace Window

def isTransparent (window : Window) : Bool := window.mode ≠ .solid

def isFrameTransparent (window : Window) : Bool := window.frameOpacity < 1.0

end Window
end Compositor
