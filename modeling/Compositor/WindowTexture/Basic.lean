import Compositor.Geometry.Flip
import Compositor.Renderer.Basic
import Compositor.Window

namespace Compositor

/-- The pixmap that holds a window's contents. -/
inductive NativePixmap where
  /-- Named for the compositor, which frees it. -/
  | owned (id : XId)
  /-- The window itself, which is never freed. -/
  | borrowed (id : XId)
deriving DecidableEq, Repr

namespace NativePixmap

def id : NativePixmap → XId
  | owned id | borrowed id => id

def isOwned : NativePixmap → Bool
  | owned _ => true
  | borrowed _ => false

end NativePixmap

/-- What is held for one window, in whole or in part. -/
structure Holdings where
  pixmap : Option NativePixmap := none
  bridge : Option BridgePixmap := none
  texture : Option TextureId := none
deriving DecidableEq, Repr

/-- A window's texture. It can be refreshed as long as it has its bridge. -/
structure WindowTexture where
  window : XId
  pixmap : NativePixmap
  bridge : Option BridgePixmap
  texture : TextureId
  target : TextureTarget
  width : UInt32
  height : UInt32
  yInverted : Bool
deriving DecidableEq, Repr

namespace WindowTexture

def isBound (t : WindowTexture) : Bool := t.bridge.isSome

def holdings (t : WindowTexture) : Holdings where
  pixmap := some t.pixmap
  bridge := t.bridge
  texture := some t.texture

end WindowTexture
end Compositor
