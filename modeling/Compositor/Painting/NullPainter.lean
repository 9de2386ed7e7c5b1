import Compositor.Log.Notice
import Compositor.Painting.Quad

namespace Compositor

structure NullPainter where
  draws : Nat := 0
  width : UInt32 := 0
  height : UInt32 := 0
deriving DecidableEq, Repr

namespace NullPainter

def drawQuad (painter : NullPainter) : NullPainter := { painter with draws := painter.draws + 1 }

/-- What is reported of each quad. -/
def drawNotice (quad : Quad) (clip : Region) : Notice :=
  .quadDrawn quad.texture quad.dstX quad.dstY quad.width quad.height clip.size

def resize (painter : NullPainter) (width height : UInt32) : NullPainter :=
  { painter with width, height }

/-- A freed program is unset. -/
def freeWindowProgram (_ : WindowProgram) : WindowProgram := {}

def freeBlurProgram (_ : BlurProgram) : BlurProgram := {}

end NullPainter
end Compositor
