import Compositor.Boundary.Program

namespace Compositor.Gl

/-- At most this many errors are taken at a time: a lost context reports them for ever. -/
def drainLimit : Nat := 16

/-- Takes and reports up to `limit` errors and counts them. -/
def drainUpTo (site : String) : (limit : Nat) → Program Nat
  | 0 => pure 0
  | limit + 1 => do
    let code ← Program.gl .getError
    if code = noError then
      return 0
    Program.log (.glError code site)
    return (← drainUpTo site limit) + 1

def drainErrors (site : String) : Program Nat := drainUpTo site drainLimit

theorem drainErrors_eq (site : String) : drainErrors site = drainUpTo site 16 := rfl

end Compositor.Gl
