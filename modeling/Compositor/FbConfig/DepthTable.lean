import Compositor.FbConfig.Basic
import Std.Data.TreeMap

namespace Compositor

/-- One configuration for each color depth. -/
structure DepthTable where
  maxDepth : UInt8
  entries : Std.TreeMap UInt8 FbConfig

namespace DepthTable

/-- The highest depth that configurations are kept for. -/
def depthLimit : UInt8 := 32

theorem depthLimit_eq : depthLimit = 32 := rfl

/-- The depth of windows with an alpha channel. -/
def alphaDepth : UInt8 := 32

def empty (maxDepth : UInt8) : DepthTable := ⟨maxDepth, ∅⟩

def get? (table : DepthTable) (depth : UInt8) : Option FbConfig := table.entries[depth]?

def contains (table : DepthTable) (depth : UInt8) : Bool := table.entries.contains depth

def size (table : DepthTable) : Nat := table.entries.size

def isEmpty (table : DepthTable) : Bool := table.entries.isEmpty

/-- The depths that have an entry, in ascending order. -/
def depths (table : DepthTable) : List UInt8 := table.entries.keys

def toList (table : DepthTable) : List (UInt8 × FbConfig) := table.entries.toList

def clear (table : DepthTable) : DepthTable := empty table.maxDepth

/-- The table's depth for a number, unless it is outside of the table's range. -/
def depth? (table : DepthTable) (depth : Int32) : Option UInt8 :=
  if 0 ≤ depth ∧ depth.toInt ≤ table.maxDepth.toNat then some depth.toUInt32.toUInt8 else none

/-- The table with a candidate as the entry of a depth, if the depth is in range and the candidate
is preferred to the present entry. -/
def offer? (table : DepthTable) (depth : Int32) (candidate : FbConfig) : Option DepthTable := do
  let depth ← table.depth? depth
  guard (FbConfig.rankCandidate (table.get? depth) (some candidate) = .lt)
  return { table with entries := table.entries.insert depth candidate }

end DepthTable
end Compositor
