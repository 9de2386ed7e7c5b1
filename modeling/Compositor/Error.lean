import Compositor.Boundary.Handle
import Compositor.Text.Hexadecimal

namespace Compositor

/-- A requirement of bring-up that failed. -/
inductive InitError where
  | extensionMissing (name : String)
  | visualUnsuitable (reason : String)
  | noStencilBuffer
  | contextCreationFailed
  | contextAttachFailed
  | entryPointUnresolved (name : String)
  | noConfigForDepth (depth : UInt8)
deriving DecidableEq, Repr

def InitError.message : InitError → String
  | .extensionMissing name => "missing extension " ++ name
  | .visualUnsuitable reason => "visual unsuitable: " ++ reason
  | .noStencilBuffer => "target window doesn't have a stencil buffer"
  | .contextCreationFailed => "failed to create GLX context"
  | .contextAttachFailed => "failed to attach GLX context"
  | .entryPointUnresolved name => "failed to resolve entry point " ++ name
  | .noConfigForDepth depth => "no FBConfig found for depth " ++ toString depth.toNat

/-- Why a window stays unpainted until it is tried again. -/
inductive WindowError where
  | unsupportedDepth (depth : UInt8)
  | pixmapUnavailable (window : XId)
  | bridgeCreationFailed (window : XId)
  | textureCreationFailed (window : XId)
  | unknownWindow (window : XId)
deriving DecidableEq, Repr

def WindowError.message : WindowError → String
  | .unsupportedDepth depth => "unsupported window depth " ++ toString depth.toNat
  | .pixmapUnavailable window => "failed to get pixmap for window " ++ Text.hexId window
  | .bridgeCreationFailed window => "failed to create GLX pixmap for window " ++ Text.hexId window
  | .textureCreationFailed window => "failed to generate texture for window " ++ Text.hexId window
  | .unknownWindow window => "no texture binding for window " ++ Text.hexId window

end Compositor
