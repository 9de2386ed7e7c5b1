import Compositor.Proofs.ErrorDrain

namespace Compositor

/-- Two drivers that answer alike from states that are alike, but for the errors that are pending.
Taking an error makes no difference to anything else. -/
structure Driver.DifferInErrors (d₁ : Driver σ) (d₂ : Driver τ) (Alike : σ → τ → Prop) :
    Prop where
  answer : ∀ s t request, Alike s t → request ≠ .gl .getError →
    (d₁.respond s request).1 = (d₂.respond t request).1
  next : ∀ s t request, Alike s t → request ≠ .gl .getError →
    Alike (d₁.respond s request).2 (d₂.respond t request).2
  left : ∀ s t, Alike s t → Alike (d₁.respond s (.gl .getError)).2 t
  right : ∀ s t, Alike s t → Alike s (d₂.respond t (.gl .getError)).2

/-- Whether an event takes no error. -/
def Event.leavesErrors : Event → Bool
  | .call (.gl .getError) _ => false
  | _ => true

/-- Whether an event takes an error or reports one. -/
def Event.isError : Event → Bool
  | .call (.gl .getError) _ | .note (.glError ..) => true
  | _ => false

/-- A trace without the errors that were taken and reported. -/
def hush (trace : List Event) : List Event := trace.filter fun event => !event.isError

namespace Program

/-- A program that takes no errors but to empty the queue, and then goes on the same whatever their
number. -/
inductive Deaf {α : Type} : Program α → Prop
  | done (value : α) : Deaf (done value)
  | fault (e : Fault) : Deaf (fault e)
  | call {request : Request} {next : request.Answer → Program α}
    (hrequest : request ≠ .gl .getError) (hnext : ∀ answer, Deaf (next answer)) :
    Deaf (call request next)
  | note {notice : Notice} {next : Program α} (hnext : Deaf next) : Deaf (note notice next)
  | drain {site : String} {next : Program α} (hnext : Deaf next) :
    Deaf (Gl.drainErrors site >>= fun _ => next)

end Program

/-- Two runs that end alike in states that are alike, having done the same but for the errors. -/
structure Run.Matches (Alike : σ → τ → Prop) (first : Run σ α) (second : Run τ α) : Prop where
  outcome : first.outcome = second.outcome
  trace : hush first.trace = hush second.trace
  state : Alike first.state second.state

variable {d₁ : Driver σ} {d₂ : Driver τ} {Alike : σ → τ → Prop} {s : σ} {t : τ}

@[simp] theorem hush_append (first rest : List Event) :
    hush (first ++ rest) = hush first ++ hush rest :=
  List.filter_append ..

theorem hush_cons_congr {first rest : List Event} (event : Event) (h : hush first = hush rest) :
    hush (event :: first) = hush (event :: rest) := by
  rw [← List.singleton_append, hush_append, h, ← hush_append]
  rfl

theorem Gl.Emptied.hush_eq_nil {site : String} {trace : List Event} (h : Gl.Emptied site trace) :
    hush trace = [] := by
  have herror : ∀ event ∈ trace, event.isError = true :=
    h.forall_mem (fun _ => rfl) fun _ => rfl
  rw [hush, List.filter_eq_nil_iff]
  intro event hevent
  rw [herror event hevent]
  exact Bool.false_ne_true

theorem Driver.DifferInErrors.symm (h : d₁.DifferInErrors d₂ Alike) :
    d₂.DifferInErrors d₁ fun t s => Alike s t where
  answer t s request halike hrequest := (h.answer s t request halike hrequest).symm
  next t s request halike hrequest := h.next s t request halike hrequest
  left t s halike := h.right s t halike
  right t s halike := h.left s t halike

namespace Program

theorem alike_drainUpTo (h : d₁.DifferInErrors d₂ Alike) (halike : Alike s t) (site : String)
    (limit : Nat) : Alike ((Gl.drainUpTo site limit).run d₁ s).state t := by
  induction limit generalizing s with
  | zero => exact halike
  | succ limit ih =>
    have htaken := h.left s t halike
    have hrun : (Gl.drainUpTo site (limit + 1)).run d₁ s =
        (Program.gl .getError >>= fun code => do
          if code = Gl.noError then return 0
          Program.log (.glError code site)
          return (← Gl.drainUpTo site limit) + 1).run d₁ s := rfl
    rw [hrun]
    simp only [Bind.bind, Program.gl, Program.bind, run]
    split
    · exact htaken
    · simp only [Program.log, Program.bind, run, run_bind, Run.andThen]
      split
      · exact ih htaken
      · exact ih htaken

/-- Emptying the queue first changes nothing but where the rest starts. -/
theorem run_drainErrors (d : Driver σ) (s : σ) (site : String) (next : Program α) :
    let after := ((Gl.drainErrors site).run d s).state
    let run := (Gl.drainErrors site >>= fun _ => next).run d s
    run.outcome = (next.run d after).outcome ∧ hush run.trace = hush (next.run d after).trace ∧
      run.state = (next.run d after).state := by
  intro after run
  obtain ⟨count, houtcome, hdrain⟩ := (Gl.drainErrors_returns site).run d s
  have hrun : run = ((Gl.drainErrors site).run d s).andThen fun _ => next.run d :=
    run_bind d (Gl.drainErrors site) (fun _ => next) s
  simp only [hrun, Run.andThen, houtcome]
  refine ⟨rfl, ?_, rfl⟩
  rw [hush_append, hdrain.hush_eq_nil]
  rfl

namespace Deaf

theorem bind {p : Program α} {f : α → Program β} (hp : p.Deaf) (hf : ∀ value, (f value).Deaf) :
    (p >>= f).Deaf := by
  induction hp with
  | done value => exact hf value
  | fault e => exact .fault e
  | call hrequest hnext ih => exact .call hrequest ih
  | note hnext ih => exact .note ih
  | drain hnext ih =>
    rw [bind_assoc]
    exact .drain ih

theorem display (request : DisplayRequest) : (Program.display request).Deaf :=
  .call nofun fun answer => .done answer

theorem gl {request : GlRequest} (hrequest : request ≠ .getError) : (Program.gl request).Deaf :=
  .call (fun h => hrequest (Request.gl.inj h)) fun answer => .done answer

theorem paint (request : PaintRequest) : (Program.paint request).Deaf :=
  .call nofun fun answer => .done answer

theorem log (notice : Notice) : (Program.log notice).Deaf := .note (.done ())

theorem ofExcept (result : Except Fault α) : (Program.ofExcept result).Deaf := by
  cases result with
  | ok value => exact .done value
  | error e => exact .fault e

theorem forM {f : α → Program Unit} (xs : List α) (hf : ∀ x, (f x).Deaf) : (xs.forM f).Deaf := by
  induction xs with
  | nil => exact .done ()
  | cons x xs ih => exact (hf x).bind fun _ => ih

section Except

variable {ε : Type} {x y : ExceptT ε Program α} {f : α → ExceptT ε Program β}

theorem exceptBind (hx : x.run.Deaf) (hf : ∀ value, (f value).run.Deaf) : (x >>= f).run.Deaf := by
  apply Deaf.bind hx
  intro result
  cases result with
  | ok value => exact hf value
  | error cause => exact .done _

theorem lift {p : Program α} (hp : p.Deaf) : (ExceptT.lift p : ExceptT ε Program α).run.Deaf :=
  hp.bind fun _ => .done _

end Except

/-- A deaf program does the same against drivers that differ in their errors only. -/
theorem run_matches {p : Program α} (hp : p.Deaf) (h : d₁.DifferInErrors d₂ Alike)
    (halike : Alike s t) : (p.run d₁ s).Matches Alike (p.run d₂ t) := by
  induction hp generalizing s t with
  | done value => exact ⟨rfl, rfl, halike⟩
  | fault e => exact ⟨rfl, rfl, halike⟩
  | @call request next hrequest hnext ih =>
    have hanswer := h.answer s t request halike hrequest
    have hnextalike := h.next s t request halike hrequest
    have hsecond : (Program.call request next).run d₂ t =
        { (next (d₁.respond s request).1).run d₂ (d₂.respond t request).2 with
          trace := .call request (d₁.respond s request).1 ::
            ((next (d₁.respond s request).1).run d₂ (d₂.respond t request).2).trace } := by
      rw [hanswer]
      rfl
    obtain ⟨houtcome, htrace, hstate⟩ := ih (d₁.respond s request).1 hnextalike
    rw [hsecond]
    exact ⟨houtcome, hush_cons_congr _ htrace, hstate⟩
  | note hnext ih =>
    obtain ⟨houtcome, htrace, hstate⟩ := ih halike
    exact ⟨houtcome, hush_cons_congr _ htrace, hstate⟩
  | @drain site next hnext ih =>
    obtain ⟨houtcome₁, htrace₁, hstate₁⟩ := run_drainErrors d₁ s site next
    obtain ⟨houtcome₂, htrace₂, hstate₂⟩ := run_drainErrors d₂ t site next
    -- one queue is emptied after the other: how many errors each held does not matter
    have hdrained₁ : Alike ((Gl.drainErrors site).run d₁ s).state t :=
      alike_drainUpTo h halike site _
    have hdrained₂ := alike_drainUpTo h.symm hdrained₁ site 16
    obtain ⟨houtcome, htrace, hstate⟩ := ih hdrained₂
    constructor
    · rw [houtcome₁, houtcome₂]
      exact houtcome
    · rw [htrace₁, htrace₂]
      exact htrace
    · rw [hstate₁, hstate₂]
      exact hstate

end Deaf
end Program
end Compositor
