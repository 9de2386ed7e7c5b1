import Compositor.Geometry.Region

namespace Compositor.Flip

/-- The lower edge of a rectangle whose upper edge lies `y` rows below the top of the target. -/
def offset (y height target : Int32) : Except Fault Int32 := do
  Arithmetic.sub (← Arithmetic.sub target y) height

/-- Offset and clip region of a rectangle in drawing coordinates. Contents whose rows already run
upwards keep both. -/
def place (y : Int32) (height : UInt32) (clip : Region) (target : UInt32) (yInverted : Bool) :
    Except Fault (Int32 × Region) := do
  if yInverted then
    return (y, clip)
  let lower ← offset y height.toInt32 target.toInt32
  let flipped ← clip.flipY target.toInt32
  return (lower, flipped)

end Compositor.Flip
