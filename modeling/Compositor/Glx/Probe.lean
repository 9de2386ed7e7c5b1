import Compositor.Boundary.Program

namespace Compositor

/-- The entry points that bind a pixmap to a texture and release it. -/
structure TexImage where
  bind : EntryPoint
  release : EntryPoint
deriving DecidableEq, Repr

namespace Glx

def hasExtension (name : String) : Program Bool := do
  match ← Program.display .extensions with
  | none =>
    Program.log .noExtensionList
    return false
  | some list =>
    if Extension.isListed list name then
      return true
    Program.log (.extensionNotListed name)
    return false

def resolve (name : String) : Program (Except InitError EntryPoint) := do
  match ← Program.display (.entryPoint name) with
  | none => return .error (.entryPointUnresolved name)
  | some entry => return .ok entry

/-- Looks both entry points up; the second one only if the first is found. -/
def resolveTexImage : Program (Except InitError TexImage) := do
  let found ← ExceptT.run do
    let bind ← ExceptT.mk (resolve Extension.bindTexImage)
    let release ← ExceptT.mk (resolve Extension.releaseTexImage)
    return { bind, release }
  if let .error cause := found then
    Program.log (.texImageUnresolved cause)
  return found

end Glx
end Compositor
