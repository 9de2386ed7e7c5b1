namespace Compositor

/-- Identifies a window, a pixmap or another drawable of the display. -/
abbrev XId := UInt32

structure ConfigHandle where
  id : Nat
deriving DecidableEq, Repr

structure VisualHandle where
  id : Nat
deriving DecidableEq, Repr

structure ContextHandle where
  id : XId
deriving DecidableEq, Repr

/-- An entry point that was looked up by name. -/
structure EntryPoint where
  id : Nat
deriving DecidableEq, Repr

/-- The display's pixmap that joins a native pixmap to a texture. -/
structure BridgePixmap where
  id : XId
deriving DecidableEq, Repr

structure TextureId where
  id : XId
deriving DecidableEq, Repr

structure ProgramId where
  id : XId
deriving DecidableEq, Repr

end Compositor
