import Compositor.Error
import Compositor.FbConfig.Basic
import Compositor.Gl.Error
import Compositor.Glx.Extension
import Compositor.Log.Level
import Compositor.Painting.Quad

namespace Compositor

inductive Notice where
  | noGlx
  | noVisual
  | visualWithoutGl
  | visualNotDoubleBuffered
  | noExtensionList
  | extensionNotListed (name : String)
  | noContext
  | contextNotAttached
  | noDebugCallback
  | noStencilBuffer
  | texImageUnresolved (cause : InitError)
  | sizesUnknown (position : Nat)
  | targetsUnknown (position : Nat)
  | configChosen (depth : UInt8) (chosen : FbConfig) (replaced : Option ConfigHandle)
  | noConfigForDefault (depth : UInt8)
  | noConfigForAlpha (depth : UInt8)
  | initFailed (cause : InitError)
  | contextReady (drawable : XId) (depths : Nat) (anySize : Bool)
  | contextDestroyed
  | backendReady
  | targetResized (width height : UInt32)
  | glError (code : Gl.Token) (site : String)
  | depthTooHigh (depth limit : UInt8)
  | noConfigForWindow (depth : UInt8)
  | textureChosen (depth : UInt8) (target : TextureTarget) (format : TextureFormat)
  | noPixmap (window : XId)
  | noBridge (window : XId)
  | noTexture (window : XId)
  | textureReleased (window : XId)
  | notBound (window : XId)
  | swapping (drawable : XId)
  | replacingTexture (window : XId)
  | droppedWithoutDeinit (windows : Nat)
  | windowsReleased (windows : Nat)
  | backendDown
  | quadDrawn (texture : TextureId) (x y : Int32) (width height : UInt32) (rects : Nat)
deriving DecidableEq

namespace Notice

def level : Notice → Level
  | noDebugCallback | noConfigForAlpha _ | replacingTexture _ | droppedWithoutDeinit _ => .warn
  | extensionNotListed _ | contextReady .. | backendReady | backendDown => .info
  | configChosen .. | contextDestroyed | targetResized .. | textureChosen .. | textureReleased _
  | windowsReleased _ => .debug
  | notBound _ | swapping _ | quadDrawn .. => .trace
  | noGlx | noVisual | visualWithoutGl | visualNotDoubleBuffered | noExtensionList | noContext
  | contextNotAttached | noStencilBuffer | texImageUnresolved _ | sizesUnknown _
  | targetsUnknown _ | noConfigForDefault _ | initFailed _ | glError .. | depthTooHigh ..
  | noConfigForWindow _ | noPixmap _ | noBridge _ | noTexture _ => .error

private def handleLabel : Option ConfigHandle → String
  | none => "None"
  | some handle => "Some(" ++ toString handle.id ++ ")"

private def boolLabel (b : Bool) : String := if b then "true" else "false"

private def sizeLabel (width height : UInt32) : String :=
  toString width.toNat ++ "x" ++ toString height.toNat

def text : Notice → String
  | noGlx => "No GLX extension."
  | noVisual => "Failed to acquire XVisualInfo for current visual."
  | visualWithoutGl => "Root visual is not a GL visual."
  | visualNotDoubleBuffered => "Root visual is not a double buffered GL visual."
  | noExtensionList => "Failed to get GLX extension list."
  | extensionNotListed name => "Missing GLX extension " ++ name ++ "."
  | noContext => "Failed to get GLX context."
  | contextNotAttached => "Failed to attach GLX context."
  | noDebugCallback =>
    "Failed to install GL debug message callback, continuing without it."
  | noStencilBuffer => "Target window doesn't have stencil buffer."
  | texImageUnresolved cause =>
    "Failed to acquire " ++ Extension.bindTexImage ++ "() and/or " ++ Extension.releaseTexImage ++
      "(), make sure your OpenGL supports " ++ Extension.textureFromPixmap ++
      " (" ++ cause.message ++ ")"
  | sizesUnknown position =>
    "Failed to retrieve buffer size and alpha size of FBConfig " ++ toString position ++ "."
  | targetsUnknown position =>
    "Failed to retrieve BIND_TO_TEXTURE_TARGETS_EXT of FBConfig " ++ toString position ++ "."
  | configChosen depth chosen replaced =>
    "(depth " ++ toString depth.toNat ++ "): " ++ toString chosen.handle.id ++ " overrides " ++
      handleLabel replaced ++ ", target " ++ chosen.targets.label
  | noConfigForDefault depth =>
    "No FBConfig found for default depth " ++ toString depth.toNat ++ "."
  | noConfigForAlpha depth =>
    "No FBConfig found for depth " ++ toString depth.toNat ++
      ". Windows with alpha may not be painted correctly"
  | initFailed cause => "GLX initialization failed: " ++ cause.message
  | contextReady drawable depths anySize =>
    "GLX context ready on " ++ Text.hexId drawable ++ ": " ++ toString depths ++
      " depths, npot textures " ++ boolLabel anySize
  | contextDestroyed => "GLX context destroyed"
  | backendReady => "GLX backend initialized"
  | targetResized width height => "GLX target resized to " ++ sizeLabel width height
  | glError code site =>
    "GLX: " ++ Gl.errorName code ++ " (" ++ Text.hex code.toNat 4 ++ ") in " ++ site
  | depthTooHigh depth limit =>
    "Requested depth " ++ toString depth.toNat ++ " higher than max possible depth " ++
      toString limit.toNat ++ "."
  | noConfigForWindow depth =>
    "Couldn't find FBConfig with requested depth " ++ toString depth.toNat
  | textureChosen depth target format =>
    "depth " ++ toString depth.toNat ++ ", tgt " ++ target.label ++ ", format " ++ format.label
  | noPixmap window => "Failed to get pixmap for window " ++ Text.hexId window
  | noBridge window => "Failed to create glpixmap for window " ++ Text.hexId window
  | noTexture window => "Failed to generate texture for window " ++ Text.hexId window
  | textureReleased window => "Released texture binding of window " ++ Text.hexId window
  | notBound window => "window " ++ Text.hexId window ++ " is not bound, skipped"
  | swapping drawable => "swap buffers on " ++ Text.hexId drawable
  | replacingTexture window =>
    "Window " ++ Text.hexId window ++ " already had a binding, replacing it"
  | droppedWithoutDeinit windows =>
    "GLX backend dropped without deinit, releasing " ++ toString windows ++ " window bindings"
  | windowsReleased windows => "Released " ++ toString windows ++ " window bindings"
  | backendDown => "GLX backend shut down"
  | quadDrawn texture x y width height rects =>
    "draw texture TextureId(" ++ toString texture.id.toNat ++ ") at (" ++ toString x.toInt ++
      ", " ++ toString y.toInt ++ ") " ++ sizeLabel width height ++ " over " ++
      toString rects ++ " rects"

end Notice
end Compositor
