import Compositor.Renderer.BringUp
import Compositor.WindowTexture.Lifecycle

namespace Compositor

/-- A renderer and the textures of the windows that are shown. -/
structure Backend where
  renderer : Renderer
  textures : Std.TreeMap XId WindowTexture
  maxBufferAge : UInt32

/-- The order in which the textures that are left at the end are destroyed. It loses none and adds
none. -/
structure DrainOrder where
  arrange : List WindowTexture → List WindowTexture
  perm : ∀ textures, (arrange textures).Perm textures

namespace DrainOrder

/-- Ascending texture names. -/
def byTexture : DrainOrder where
  arrange textures := textures.mergeSort fun a b => a.texture.id ≤ b.texture.id
  perm textures := List.mergeSort_perm textures _

end DrainOrder

namespace Backend

def init (screen : Screen) (settings : Settings) : Program (Except InitError Backend) := do
  match ← Renderer.bringUp screen settings.glx with
  | .error cause => return .error cause
  | .ok renderer =>
    Program.log .backendReady
    return .ok { renderer, textures := ∅, maxBufferAge := settings.glx.maxBufferAge }

def texture? (backend : Backend) (window : XId) : Option WindowTexture := backend.textures[window]?

def liveTextures (backend : Backend) : Nat := backend.textures.size

def resize (backend : Backend) (width height : UInt32) : Program Backend := do
  return { backend with renderer := ← backend.renderer.resize width height }

/-- Gives a window its texture, in place of one that it may still have. -/
def prepare (backend : Backend) (window : Window) :
    Program (Except WindowError Unit × Backend) := do
  let backend ←
    match backend.texture? window.id with
    | none => pure backend
    | some stale =>
      Program.log (.replacingTexture window.id)
      stale.destroy backend.renderer
      pure { backend with textures := backend.textures.erase window.id }
  match ← WindowTexture.create backend.renderer window with
  | .error cause => return (.error cause, backend)
  | .ok texture =>
    return (.ok (), { backend with textures := backend.textures.insert window.id texture })

/-- Refreshes a window's texture. -/
def render (backend : Backend) (window : XId) : Program (Except WindowError Unit) := do
  match backend.texture? window with
  | none => return .error (.unknownWindow window)
  | some texture =>
    texture.refresh backend.renderer
    return .ok ()

/-- Takes a window's texture away. -/
def release (backend : Backend) (window : XId) :
    Program (Except WindowError Unit × Backend) := do
  match backend.texture? window with
  | none => return (.error (.unknownWindow window), backend)
  | some texture =>
    texture.destroy backend.renderer
    return (.ok (), { backend with textures := backend.textures.erase window })

/-- Paints a window with its upper left corner at a place, inside of a clip region. -/
def compose (backend : Backend) (window : XId) (x y : Int32) (clip : Region) :
    Program (Except WindowError Unit) := do
  match backend.texture? window with
  | none => return .error (.unknownWindow window)
  | some texture =>
    texture.compose backend.renderer x y clip
    return .ok ()

def present (backend : Backend) : Program Unit := backend.renderer.present

def bufferAge (backend : Backend) : Program BufferAge := backend.renderer.bufferAge

/-- Destroys what is left, then the renderer. -/
def shutDown (backend : Backend) (order : DrainOrder) : Program Unit := do
  (order.arrange backend.textures.values).forM fun texture => texture.destroy backend.renderer
  Program.log (.windowsReleased backend.textures.size)
  backend.renderer.shutDown
  Program.log .backendDown

/-- Shutting down without having been asked to. -/
def drop (backend : Backend) (order : DrainOrder) : Program Unit := do
  Program.log (.droppedWithoutDeinit backend.textures.size)
  backend.shutDown order

end Backend
end Compositor
