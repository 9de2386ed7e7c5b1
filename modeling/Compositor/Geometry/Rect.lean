import Compositor.Arithmetic.Exact

namespace Compositor

/-- A box between an inclusive upper left and an exclusive lower right corner. -/
structure Rect where
  x1 : Int32
  y1 : Int32
  x2 : Int32
  y2 : Int32
deriving DecidableEq, Repr

namespace Rect

/-- The box of a size at an origin. A size above the signed range counts as negative. -/
def ofOriginSize (x y : Int32) (width height : UInt32) : Except Fault Rect := do
  let x2 ← Arithmetic.add x width.toInt32
  let y2 ← Arithmetic.add y height.toInt32
  return ⟨x, y, x2, y2⟩

def width (r : Rect) : Except Fault Int32 := Arithmetic.sub r.x2 r.x1

def height (r : Rect) : Except Fault Int32 := Arithmetic.sub r.y2 r.y1

def isEmpty (r : Rect) : Bool := r.x2 ≤ r.x1 || r.y2 ≤ r.y1

/-- The box flipped between a surface's top and bottom edges, so that rows counted from one edge
become rows counted from the other. -/
def flipY (r : Rect) (surface : Int32) : Except Fault Rect := do
  let y1 ← Arithmetic.sub surface r.y2
  let y2 ← Arithmetic.sub surface r.y1
  return { r with y1, y2 }

/-- The least box that contains two boxes. -/
def hull (r s : Rect) : Rect where
  x1 := min r.x1 s.x1
  y1 := min r.y1 s.y1
  x2 := max r.x2 s.x2
  y2 := max r.y2 s.y2

end Rect
end Compositor
