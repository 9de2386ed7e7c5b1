import Compositor.BufferAge
import Compositor.FbConfig.Selection
import Compositor.Gl.ErrorDrain
import Compositor.Glx.Probe
import Compositor.Screen
import Compositor.Settings.Basic

namespace Compositor

/-- A drawing context with all that was found out about it. -/
structure Renderer where
  context : ContextHandle
  /-- Whether two-dimensional textures can have any size. -/
  anySize : Bool
  configs : DepthTable
  texImage : TexImage
  shaders : Shaders
  screen : Screen
  settings : GlxSettings

namespace Renderer

/-- The root window has a new size. -/
def resize (renderer : Renderer) (width height : UInt32) : Program Renderer := do
  Program.log (.targetResized width height)
  Program.paint (.resize width height)
  return { renderer with screen := { renderer.screen with width, height } }

/-- Shows what was painted. -/
def present (renderer : Renderer) : Program Unit := do
  Program.log (.swapping renderer.screen.target)
  Program.display (.swapBuffers renderer.screen.target)

/-- The age of the back buffer, which only one swap method tracks. -/
def bufferAge (renderer : Renderer) : Program BufferAge := do
  if renderer.settings.swapMethod ≠ .bufferAge then
    return .unknown
  return .ofRaw (← Program.display (.bufferAge renderer.screen.target))

end Renderer
end Compositor
