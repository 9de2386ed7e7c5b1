import Compositor.Gl.ErrorDrain
import Compositor.Proofs.Ensures

namespace Compositor.Gl

/-- The events of taking at most `limit` errors, and the number that is taken. -/
inductive Drained (site : String) : (limit : Nat) → List Event → (count : Nat) → Prop
  | full : Drained site 0 [] 0
  | clear : Drained site (limit + 1) [.call (.gl .getError) noError] 0
  | error (hcode : code ≠ noError) (rest : Drained site limit trace count) :
    Drained site (limit + 1)
      (.call (.gl .getError) code :: .note (.glError code site) :: trace) (count + 1)

/-- The events of emptying the queue as far as one go does it. -/
def Emptied (site : String) (trace : List Event) : Prop :=
  ∃ count, Drained site 16 trace count

theorem drainUpTo_returns (site : String) (limit : Nat) :
    (drainUpTo site limit).Returns (Drained site limit) := by
  induction limit with
  | zero => exact ⟨0, rfl, .full⟩
  | succ limit ih =>
    intro code
    by_cases hcode : code = noError
    · subst hcode
      exact ⟨0, rfl, .clear⟩
    · simp only [Program.bind, hcode, if_false]
      apply Program.Returns.bind ih
      intro trace count h
      have herror : Drained site (limit + 1) _ (count + 1) := .error hcode h
      rw [← List.append_nil trace] at herror
      exact ⟨count + 1, rfl, herror⟩

theorem drainErrors_returns (site : String) :
    (drainErrors site).Returns fun trace _ => Emptied site trace := by
  rw [drainErrors_eq]
  exact (drainUpTo_returns site 16).mono fun _ count h => ⟨count, h⟩

theorem Drained.forall_mem {p : Event → Prop} (h : Drained site limit trace count)
    (hask : ∀ code, p (.call (.gl .getError) code))
    (hnote : ∀ code, p (.note (.glError code site))) :
    ∀ event ∈ trace, p event := by
  induction h with
  | full =>
    intro event hevent
    cases hevent
  | clear =>
    intro event hevent
    rw [List.mem_singleton.1 hevent]
    exact hask noError
  | @error code _ _ _ hcode hrest ih =>
    intro event hevent
    rcases List.mem_cons.1 hevent with rfl | hevent
    · exact hask code
    rcases List.mem_cons.1 hevent with rfl | hevent
    · exact hnote code
    · exact ih event hevent

/-- Emptying the queue asks for errors and reports them, and does nothing else. -/
theorem Emptied.forall_mem {p : Event → Prop} (h : Emptied site trace)
    (hask : ∀ code, p (.call (.gl .getError) code))
    (hnote : ∀ code, p (.note (.glError code site))) :
    ∀ event ∈ trace, p event := by
  obtain ⟨count, h⟩ := h
  exact h.forall_mem hask hnote

theorem Emptied.eq_cons (h : Emptied site trace) :
    ∃ code rest, trace = .call (.gl .getError) code :: rest := by
  obtain ⟨count, h⟩ := h
  cases h with
  | clear => exact ⟨_, _, rfl⟩
  | error hcode hrest => exact ⟨_, _, rfl⟩

end Compositor.Gl
