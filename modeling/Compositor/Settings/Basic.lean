namespace Compositor

/-- What a buffer swap does to the back buffer. -/
inductive SwapMethod where
  /-- Nothing is known; every frame is painted in full. -/
  | undefined
  | copy
  | exchange
  /-- The display is asked for the age of the back buffer. -/
  | bufferAge
deriving DecidableEq, Repr

namespace SwapMethod

def all : List SwapMethod := [.undefined, .copy, .exchange, .bufferAge]

def name : SwapMethod → String
  | .undefined => "undefined"
  | .copy => "copy"
  | .exchange => "exchange"
  | .bufferAge => "buffer-age"

def ofName? (name : String) : Option SwapMethod := all.find? (·.name = name)

end SwapMethod

structure GlxSettings where
  noStencil : Bool := false
  swapMethod : SwapMethod := .undefined
  /-- How many frames of damage are kept for repainting by buffer age. -/
  maxBufferAge : UInt32 := 5
  debugContext : Bool := false
deriving DecidableEq, Repr

structure GeneralSettings where
  debug : Bool := false
  /-- Paint into the overlay window and not into the root window. -/
  useOverlay : Bool := true
deriving DecidableEq, Repr

structure Settings where
  glx : GlxSettings := {}
  general : GeneralSettings := {}
deriving DecidableEq, Repr

/-- The longest damage history that can be asked for. -/
def maxBufferAgeLimit : UInt32 := 16

def Settings.isValid (settings : Settings) : Bool :=
  settings.glx.maxBufferAge ≠ 0 && settings.glx.maxBufferAge ≤ maxBufferAgeLimit

end Compositor
