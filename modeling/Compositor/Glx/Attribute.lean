import Compositor.Glx.Token

namespace Compositor

inductive FbAttribute where
  | samples
  | bufferSize
  | alphaSize
  | redSize
  | doubleBuffer
  | stencilSize
  | depthSize
  | bindToTextureRgb
  | bindToTextureRgba
  | bindToMipmapTexture
  | bindToTextureTargets
  | yInverted
deriving DecidableEq, Repr

namespace FbAttribute

def all : List FbAttribute :=
  [.samples, .bufferSize, .alphaSize, .redSize, .doubleBuffer, .stencilSize, .depthSize,
    .bindToTextureRgb, .bindToTextureRgba, .bindToMipmapTexture, .bindToTextureTargets, .yInverted]

def token : FbAttribute → Glx.Token
  | .samples => Glx.samples
  | .bufferSize => Glx.bufferSize
  | .alphaSize => Glx.alphaSize
  | .redSize => Glx.redSize
  | .doubleBuffer => Glx.doubleBuffer
  | .stencilSize => Glx.stencilSize
  | .depthSize => Glx.depthSize
  | .bindToTextureRgb => Glx.bindToTextureRgb
  | .bindToTextureRgba => Glx.bindToTextureRgba
  | .bindToMipmapTexture => Glx.bindToMipmapTexture
  | .bindToTextureTargets => Glx.bindToTextureTargets
  | .yInverted => Glx.yInverted

end FbAttribute

inductive VisualAttribute where
  | useGl
  | doubleBuffer
deriving DecidableEq, Repr

def VisualAttribute.token : VisualAttribute → Glx.Token
  | .useGl => Glx.useGl
  | .doubleBuffer => Glx.doubleBuffer

end Compositor
