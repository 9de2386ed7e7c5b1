import Compositor.Boundary.Handle
import Compositor.Gl.Texture

namespace Compositor

/-- The attributes that configurations are ranked by. -/
structure RankAttributes where
  redSize : Int32
  bindRgba : Int32
  doubleBuffer : Int32
  stencilSize : Int32
  depthSize : Int32
  bindMipmap : Int32
deriving DecidableEq, Repr

/-- One configuration, as far as the compositor needs it. In a `yInverted` one, bound texture rows
already run upwards. -/
structure FbConfig where
  handle : ConfigHandle
  format : TextureFormat
  targets : TargetMask
  yInverted : Bool
  rank : RankAttributes
deriving DecidableEq, Repr

namespace RankAttributes

/-- Eight bits to each color; anything else is avoided. -/
def isUsable (rank : RankAttributes) : Bool := rank.redSize = 8

/-- Where both are usable, the first difference decides: lower values are preferred, but for mipmaps
the higher one. `lt` means that the second is preferred. -/
def compareUsable (a b : RankAttributes) : Ordering :=
  (compare a.bindRgba b.bindRgba).swap
    |>.then (compare a.doubleBuffer b.doubleBuffer).swap
    |>.then (compare a.stencilSize b.stencilSize).swap
    |>.then (compare a.depthSize b.depthSize).swap
    |>.then (compare a.bindMipmap b.bindMipmap)

end RankAttributes

namespace FbConfig

def isUsable (config : FbConfig) : Bool := config.rank.isUsable

/-- `lt` means that the candidate replaces what is stored. Nothing stored and an unusable stored
configuration are always replaced; a usable one is never replaced by an unusable one. -/
def rankCandidate (stored candidate : Option FbConfig) : Ordering :=
  match stored, candidate with
  | none, _ => .lt
  | some _, none => .gt
  | some a, some b =>
    if !a.isUsable then .lt
    else if !b.isUsable then .gt
    else a.rank.compareUsable b.rank

end FbConfig
end Compositor
