import Compositor.Glx.Attribute
import Compositor.Painting.Quad

namespace Compositor

/-- A query is answered `none` where the display reports a failure. -/
inductive DisplayRequest where
  | queryExtension
  | extensions
  | visualInfo (visual : XId)
  | visualAttribute (visual : VisualHandle) (name : VisualAttribute)
  | freeVisual (visual : VisualHandle)
  | configs
  | configAttribute (config : ConfigHandle) (name : FbAttribute)
  | configVisualDepth (config : ConfigHandle)
  | createContext (visual : VisualHandle)
  | destroyContext (context : ContextHandle)
  | makeCurrent (drawable : XId) (context : ContextHandle)
  | entryPoint (name : String)
  | bindTexImage (entry : EntryPoint) (bridge : BridgePixmap)
  | releaseTexImage (entry : EntryPoint) (bridge : BridgePixmap)
  | createBridge (config : ConfigHandle) (pixmap : XId) (format : TextureFormat)
      (target : TextureTarget)
  | destroyBridge (bridge : BridgePixmap)
  | canNamePixmap
  | namePixmap (window : XId)
  | freePixmap (pixmap : XId)
  | swapBuffers (drawable : XId)
  | bufferAge (drawable : XId)
deriving DecidableEq

@[reducible] def DisplayRequest.Answer : DisplayRequest → Type
  | queryExtension | makeCurrent .. | canNamePixmap => Bool
  | extensions => Option String
  | visualInfo _ => Option VisualHandle
  | visualAttribute .. | configAttribute .. | configVisualDepth _ => Option Int32
  | configs => List ConfigHandle
  | createContext _ => Option ContextHandle
  | entryPoint _ => Option EntryPoint
  | createBridge .. => Option BridgePixmap
  | namePixmap _ => Option XId
  | bufferAge _ => UInt32
  | freeVisual _ | destroyContext _ | bindTexImage .. | releaseTexImage .. | destroyBridge _
  | freePixmap _ | swapBuffers _ => Unit

inductive GlRequest where
  | extensions
  | getInteger (name : Gl.Token)
  | getError
  | generateTexture
  | deleteTexture (texture : TextureId)
  /-- Binds a texture to a target, or nothing. -/
  | bindTexture (target : TextureTarget) (texture : Option TextureId)
  | textureParameter (target : TextureTarget) (name value : Gl.Token)
  | disable (capability : Gl.Token)
  | depthMask (flag : Bool)
  | textureEnvironment (mode : Gl.Token)
  | clear (buffers : Gl.Token)
  | clearColor (red green blue alpha : Permille)
  | stencilMask (mask : UInt32)
  | stencilFunction (function : Gl.Token) (reference mask : UInt32)
  | installDebugCallback
deriving DecidableEq

@[reducible] def GlRequest.Answer : GlRequest → Type
  | extensions => String
  | getInteger _ => Int32
  | getError => Gl.Token
  | generateTexture => Option TextureId
  | installDebugCallback => Bool
  | deleteTexture _ | bindTexture .. | textureParameter .. | disable _ | depthMask _
  | textureEnvironment _ | clear _ | clearColor .. | stencilMask _ | stencilFunction .. => Unit

inductive PaintRequest where
  | resize (width height : UInt32)
  | drawQuad (quad : Quad) (clip : Region)
  | freeWindowProgram (program : WindowProgram)
  | freeBlurProgram (program : BlurProgram)
deriving DecidableEq

inductive Request where
  | display (request : DisplayRequest)
  | gl (request : GlRequest)
  | paint (request : PaintRequest)
deriving DecidableEq

@[reducible] def Request.Answer : Request → Type
  | display request => request.Answer
  | gl request => request.Answer
  | paint _ => Unit

end Compositor
