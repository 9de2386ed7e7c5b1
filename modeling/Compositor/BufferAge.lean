namespace Compositor

inductive BufferAge where
  | known (frames : UInt32) (positive : frames ≠ 0)
  | unknown
deriving DecidableEq

namespace BufferAge

/-- A display that does not know answers zero. -/
def ofRaw (frames : UInt32) : BufferAge :=
  if h : frames = 0 then .unknown else .known frames h

def frames? : BufferAge → Option UInt32
  | known frames _ => some frames
  | unknown => none

/-- Whether nothing of the buffer can be kept. -/
def mustRepaintAll (age : BufferAge) : Bool := age.frames?.isNone

end BufferAge
end Compositor
