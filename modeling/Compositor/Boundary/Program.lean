import Compositor.Boundary.Request
import Compositor.Log.Notice

namespace Compositor

/-- A tree of requests that goes on with the answer, whatever it is. -/
inductive Program (α : Type) where
  | done (value : α)
  | fault (fault : Fault)
  | call (request : Request) (next : request.Answer → Program α)
  | note (notice : Notice) (next : Program α)

namespace Program

def bind : Program α → (α → Program β) → Program β
  | done value, f => f value
  | fault e, _ => fault e
  | call request next, f => call request fun answer => (next answer).bind f
  | note notice next, f => note notice (next.bind f)

instance : Monad Program where
  pure := done
  bind := bind

theorem bind_done (p : Program α) : p.bind done = p := by
  induction p with
  | done _ => rfl
  | fault _ => rfl
  | call request next ih => simp only [bind, ih]
  | note notice next ih => simp only [bind, ih]

theorem bind_bind (p : Program α) (f : α → Program β) (g : β → Program γ) :
    (p.bind f).bind g = p.bind fun a => (f a).bind g := by
  induction p with
  | done _ => rfl
  | fault _ => rfl
  | call request next ih => simp only [bind, ih]
  | note notice next ih => simp only [bind, ih]

instance : LawfulMonad Program := LawfulMonad.mk' Program bind_done (fun _ _ => rfl) bind_bind

def display (request : DisplayRequest) : Program request.Answer := call (.display request) done

def gl (request : GlRequest) : Program request.Answer := call (.gl request) done

def paint (request : PaintRequest) : Program Unit := call (.paint request) done

def log (notice : Notice) : Program Unit := note notice (done ())

def ofExcept : Except Fault α → Program α
  | .ok value => done value
  | .error e => fault e

end Program
end Compositor
