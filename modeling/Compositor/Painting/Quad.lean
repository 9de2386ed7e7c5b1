import Compositor.Boundary.Handle
import Compositor.Geometry.Region
import Compositor.Gl.Texture

namespace Compositor

/-- Amounts between nothing and one, in thousandths. -/
abbrev Permille := Nat

/-- A window's texture as a rectangle of the target, in drawing coordinates. -/
structure Quad where
  texture : TextureId
  target : TextureTarget
  srcX : Int32
  srcY : Int32
  dstX : Int32
  /-- The lower edge of the painted rectangle. -/
  dstY : Int32
  width : UInt32
  height : UInt32
  opacity : Permille
  yInverted : Bool
  /-- Whether a second texture is blended in the same pass. -/
  dualTexture : Bool
deriving DecidableEq, Repr

/-- The program that paints window textures, and where its inputs are. -/
structure WindowProgram where
  program : Option ProgramId := none
  opacityInput : Option Int32 := none
  invertColorInput : Option Int32 := none
  textureInput : Option Int32 := none
deriving DecidableEq, Repr

def WindowProgram.isSet (p : WindowProgram) : Bool := p.program.isSome

structure BlurProgram where
  fragmentShader : Option XId := none
  program : Option ProgramId := none
  offsetXInput : Option Int32 := none
  offsetYInput : Option Int32 := none
  centerFactorInput : Option Int32 := none
deriving DecidableEq, Repr

def BlurProgram.isSet (p : BlurProgram) : Bool := p.program.isSome || p.fragmentShader.isSome

def maxBlurPasses : Nat := 5

/-- The shader programs of a renderer, kept so that they are freed before its context goes. -/
structure Shaders where
  window : WindowProgram := {}
  blur : Vector BlurProgram maxBlurPasses := Vector.replicate maxBlurPasses {}
deriving DecidableEq

end Compositor
