import Compositor.Boundary.Program

namespace Compositor

/-- Surroundings: any state, and for each request an answer and a new state. -/
structure Driver (σ : Type) where
  respond : σ → (request : Request) → request.Answer × σ

inductive Event where
  | call (request : Request) (answer : request.Answer)
  | note (notice : Notice)

structure Run (σ α : Type) where
  outcome : Except Fault α
  state : σ
  trace : List Event

namespace Program

def run (driver : Driver σ) : Program α → σ → Run σ α
  | done value, state => ⟨.ok value, state, []⟩
  | fault e, state => ⟨.error e, state, []⟩
  | call request next, state =>
    let (answer, state) := driver.respond state request
    let rest := (next answer).run driver state
    { rest with trace := .call request answer :: rest.trace }
  | note notice next, state =>
    let rest := next.run driver state
    { rest with trace := .note notice :: rest.trace }

end Program

/-- One run after another; a fault ends the run. -/
def Run.andThen (first : Run σ α) (next : α → σ → Run σ β) : Run σ β :=
  match first.outcome with
  | .error e => ⟨.error e, first.state, first.trace⟩
  | .ok value =>
    let rest := next value first.state
    { rest with trace := first.trace ++ rest.trace }

theorem Program.run_bind (driver : Driver σ) (p : Program α) (f : α → Program β) (state : σ) :
    (p.bind f).run driver state =
      (p.run driver state).andThen fun value => (f value).run driver := by
  induction p generalizing state with
  | done value => simp [bind, run, Run.andThen]
  | fault e => simp [bind, run, Run.andThen]
  | call request next ih =>
    simp only [bind, run, ih, Run.andThen]
    cases ((next (driver.respond state request).1).run driver _).outcome <;> rfl
  | note notice next ih =>
    simp only [bind, run, ih, Run.andThen]
    cases (next.run driver state).outcome <;> rfl

end Compositor
