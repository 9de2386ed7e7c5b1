import Compositor.Gl.Token
import Compositor.Glx.Token
import Compositor.Text.Hexadecimal

namespace Compositor

inductive TextureFormat where
  | none
  | rgb
  | rgba
deriving DecidableEq, Repr

namespace TextureFormat

def glxToken : TextureFormat → Glx.Token
  | .none => Glx.textureFormatNone
  | .rgb => Glx.textureFormatRgb
  | .rgba => Glx.textureFormatRgba

/-- The word for a format in log lines. -/
def label : TextureFormat → String
  | .none => "None"
  | .rgb => "Rgb"
  | .rgba => "Rgba"

end TextureFormat

inductive TextureTarget where
  | twoDimensional
  | rectangle
deriving DecidableEq, Repr

namespace TextureTarget

def glToken : TextureTarget → Gl.Token
  | .twoDimensional => Gl.texture2D
  | .rectangle => Gl.textureRectangle

def glxToken : TextureTarget → Glx.Token
  | .twoDimensional => Glx.texture2D
  | .rectangle => Glx.textureRectangle

/-- Log lines give a target by its number. -/
def label (target : TextureTarget) : String := Text.hex target.glxToken.toNat 1

end TextureTarget

/-- The set of targets that a configuration can bind to, one bit each. -/
structure TargetMask where
  bits : UInt32
deriving DecidableEq, Repr

namespace TargetMask

def twoDimensional : TargetMask := ⟨Glx.texture2DBit⟩

def rectangle : TargetMask := ⟨Glx.textureRectangleBit⟩

def contains (mask other : TargetMask) : Bool := mask.bits &&& other.bits = other.bits

def union (mask other : TargetMask) : TargetMask := ⟨mask.bits ||| other.bits⟩

def label (mask : TargetMask) : String := "TextureTargets(" ++ Text.hex mask.bits.toNat 1 ++ ")"

/-- The target for a window's texture: two-dimensional if the mask has it and textures of any size
work, else rectangular if the mask has that or has neither. -/
def choose (mask : TargetMask) (anySize : Bool) : TextureTarget :=
  if mask.contains twoDimensional then
    if anySize || !mask.contains rectangle then .twoDimensional else .rectangle
  else .rectangle

end TargetMask
end Compositor
