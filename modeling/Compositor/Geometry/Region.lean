import Compositor.Geometry.Rect

namespace Compositor

structure Region where
  rects : List Rect
deriving DecidableEq, Repr

namespace Region

def empty : Region := ⟨[]⟩

/-- The region of the boxes that have an area, in their order. -/
def ofList (rects : List Rect) : Region := ⟨rects.filter (!·.isEmpty)⟩

def ofRect (r : Rect) : Region := ofList [r]

/-- Adds a box at the end, unless it has no area. -/
def push (region : Region) (r : Rect) : Region :=
  if r.isEmpty then region else ⟨region.rects ++ [r]⟩

def size (region : Region) : Nat := region.rects.length

def isEmpty (region : Region) : Bool := region.rects.isEmpty

/-- The least box around all boxes. -/
def extents (region : Region) : Option Rect :=
  match region.rects with
  | [] => none
  | r :: rs => some (rs.foldl Rect.hull r)

/-- Every box flipped on a surface. -/
def flipY (region : Region) (surface : Int32) : Except Fault Region := do
  return ⟨← region.rects.mapM (·.flipY surface)⟩

end Region
end Compositor
