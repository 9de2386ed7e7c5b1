import Mathlib.Data.List.Forall2
import Compositor.Boundary.Driver

namespace Compositor.Program

/-- Whatever the answers, `P` holds of the trace and of the outcome. -/
def Ensures : Program α → (List Event → Except Fault α → Prop) → Prop
  | done value, P => P [] (.ok value)
  | fault e, P => P [] (.error e)
  | call request next, P =>
    ∀ answer, (next answer).Ensures fun trace outcome => P (.call request answer :: trace) outcome
  | note notice next, P => next.Ensures fun trace outcome => P (.note notice :: trace) outcome

/-- Whatever the answers, there is no fault, and `P` holds of the trace and of the value. -/
def Returns (p : Program α) (P : List Event → α → Prop) : Prop :=
  p.Ensures fun trace outcome => ∃ value, outcome = .ok value ∧ P trace value

theorem Ensures.run {p : Program α} {P : List Event → Except Fault α → Prop} (h : p.Ensures P)
    (driver : Driver σ) (state : σ) :
    P (p.run driver state).trace (p.run driver state).outcome := by
  induction p generalizing P state with
  | done value => exact h
  | fault e => exact h
  | call request next ih => exact ih _ (h _) _
  | note notice next ih => exact ih h _

theorem Ensures.mono {p : Program α} {P Q : List Event → Except Fault α → Prop} (h : p.Ensures P)
    (hPQ : ∀ trace outcome, P trace outcome → Q trace outcome) : p.Ensures Q := by
  induction p generalizing P Q with
  | done value => exact hPQ _ _ h
  | fault e => exact hPQ _ _ h
  | call request next ih =>
    intro answer
    exact ih answer (h answer) fun trace outcome => hPQ _ outcome
  | note notice next ih => exact ih h fun trace outcome => hPQ _ outcome

theorem Ensures.of_forall {p : Program α} {P : List Event → Except Fault α → Prop}
    (h : ∀ trace outcome, P trace outcome) : p.Ensures P := by
  induction p generalizing P with
  | done value => exact h _ _
  | fault e => exact h _ _
  | call request next ih => exact fun answer => ih answer fun trace => h _
  | note notice next ih => exact ih fun trace => h _

theorem Ensures.bind {p : Program α} {f : α → Program β} {P : List Event → Except Fault α → Prop}
    {Q : List Event → Except Fault β → Prop} (h : p.Ensures P)
    (hok : ∀ trace value, P trace (.ok value) →
      (f value).Ensures fun rest outcome => Q (trace ++ rest) outcome)
    (herror : ∀ trace e, P trace (.error e) → Q trace (.error e)) : (p >>= f).Ensures Q := by
  induction p generalizing P Q with
  | done value => exact hok _ _ h
  | fault e => exact herror _ _ h
  | call request next ih =>
    intro answer
    exact ih answer (h answer) (fun trace => hok _) (fun trace => herror _)
  | note notice next ih => exact ih h (fun trace => hok _) (fun trace => herror _)

theorem Ensures.map {p : Program α} {f : α → β} {Q : List Event → Except Fault β → Prop}
    (h : p.Ensures fun trace outcome => Q trace (outcome.map f)) :
    (p >>= fun value => pure (f value)).Ensures Q := by
  apply Ensures.bind h
  · intro trace value hQ
    change Q (trace ++ []) _
    rwa [List.append_nil]
  · intro trace e hQ
    exact hQ

theorem Returns.bind {p : Program α} {f : α → Program β} {P : List Event → α → Prop}
    {Q : List Event → Except Fault β → Prop} (h : p.Returns P)
    (hf : ∀ trace value, P trace value →
      (f value).Ensures fun rest outcome => Q (trace ++ rest) outcome) : (p >>= f).Ensures Q := by
  apply Ensures.bind h
  · intro trace value hreturns
    obtain ⟨_, he, hP⟩ := hreturns
    cases he
    exact hf trace value hP
  · intro trace e hreturns
    obtain ⟨_, he, -⟩ := hreturns
    cases he

theorem Returns.log {p : Program α} {notice : Notice} {P : List Event → α → Prop}
    (h : p.Returns fun trace => P (.note notice :: trace)) :
    (Program.log notice >>= fun _ => p).Returns P :=
  h

theorem Returns.mono {p : Program α} {P Q : List Event → α → Prop} (h : p.Returns P)
    (hPQ : ∀ trace value, P trace value → Q trace value) : p.Returns Q := by
  apply Ensures.mono h
  intro trace outcome hreturns
  obtain ⟨value, he, hP⟩ := hreturns
  exact ⟨value, he, hPQ trace value hP⟩

theorem Returns.ensures {p : Program α} {P : List Event → α → Prop}
    {Q : List Event → Except Fault α → Prop} (h : p.Returns P)
    (hPQ : ∀ trace value, P trace value → Q trace (.ok value)) : p.Ensures Q := by
  apply Ensures.mono h
  intro trace outcome hreturns
  obtain ⟨value, rfl, hP⟩ := hreturns
  exact hPQ trace value hP

theorem Returns.run {p : Program α} {P : List Event → α → Prop} (h : p.Returns P)
    (driver : Driver σ) (state : σ) :
    ∃ value, (p.run driver state).outcome = .ok value ∧ P (p.run driver state).trace value :=
  Ensures.run h driver state

theorem Ensures.and {p : Program α} {P Q : List Event → Except Fault α → Prop} (hP : p.Ensures P)
    (hQ : p.Ensures Q) : p.Ensures fun trace outcome => P trace outcome ∧ Q trace outcome := by
  induction p generalizing P Q with
  | done value => exact ⟨hP, hQ⟩
  | fault e => exact ⟨hP, hQ⟩
  | call request next ih => exact fun answer => ih answer (hP answer) (hQ answer)
  | note notice next ih => exact ih hP hQ

theorem Returns.forM {f : α → Program Unit} {P : α → List Event → Prop} (xs : List α)
    (h : ∀ x, (f x).Returns fun trace _ => P x trace) :
    (xs.forM f).Returns fun trace _ =>
      ∃ traces, List.Forall₂ P xs traces ∧ trace = traces.flatten := by
  induction xs with
  | nil => exact ⟨(), rfl, [], .nil, rfl⟩
  | cons x xs ih =>
    apply Returns.bind (h x)
    intro trace _ hx
    apply ih.mono
    intro rest _ hrest
    obtain ⟨traces, hxs, rfl⟩ := hrest
    exact ⟨trace :: traces, .cons hx hxs, rfl⟩

/-- Every event satisfies `S`, and a fault satisfies `F`. -/
def Confined (S : Event → Prop) (F : Fault → Prop) (p : Program α) : Prop :=
  p.Ensures fun trace outcome => (∀ event ∈ trace, S event) ∧ ∀ e, outcome = .error e → F e

variable {S : Event → Prop} {F : Fault → Prop}

theorem Confined.pure (value : α) : (pure value : Program α).Confined S F := by
  constructor
  · intro event h
    cases h
  · intro e h
    cases h

theorem Confined.bind {p : Program α} {f : α → Program β} (h : p.Confined S F)
    (hf : ∀ value, (f value).Confined S F) : (p >>= f).Confined S F := by
  apply Ensures.bind h
  · intro trace value hconfined
    apply (hf value).mono
    intro rest outcome hrest
    constructor
    · intro event he
      rcases List.mem_append.1 he with he | he
      · exact hconfined.1 event he
      · exact hrest.1 event he
    · exact hrest.2
  · intro trace e hconfined
    constructor
    · exact hconfined.1
    · intro e' he
      cases he
      exact hconfined.2 e rfl

theorem Confined.ite {c : Prop} [Decidable c] {p q : Program α} (hp : p.Confined S F)
    (hq : q.Confined S F) : (if c then p else q).Confined S F := by
  split
  · exact hp
  · exact hq

theorem Confined.display {request : DisplayRequest}
    (hS : ∀ answer, S (.call (.display request) answer)) :
    (Program.display request).Confined S F := by
  intro answer
  constructor
  · intro event he
    rw [List.mem_singleton.1 he]
    exact hS answer
  · intro e h
    cases h

theorem Confined.log {notice : Notice} (hS : S (.note notice)) :
    (Program.log notice).Confined S F := by
  constructor
  · intro event he
    rw [List.mem_singleton.1 he]
    exact hS
  · intro e h
    cases h

theorem Confined.ofExcept {result : Except Fault α} (hF : ∀ e, result = .error e → F e) :
    (Program.ofExcept result).Confined S F := by
  cases result with
  | ok value => exact .pure value
  | error e =>
    constructor
    · intro event he
      cases he
    · intro e' he
      cases he
      exact hF e rfl

theorem Confined.foldlM {f : β → α → Program β} (xs : List α)
    (h : ∀ init x, (f init x).Confined S F) (init : β) : (xs.foldlM f init).Confined S F := by
  induction xs generalizing init with
  | nil => exact .pure init
  | cons x xs ih =>
    rw [List.foldlM_cons]
    exact (h init x).bind ih

/-- What a program makes of the events of a trace: how it ends, if they answer what it asks. -/
def replay : Program α → List Event → Option (Except Fault α)
  | done value, _ => some (.ok value)
  | fault e, _ => some (.error e)
  | call request next, .call asked answer :: rest =>
    if h : asked = request then (next (h ▸ answer)).replay rest else none
  | note _ next, .note _ :: rest => next.replay rest
  | _, _ => none

/-- A trace tells how the program ended. -/
theorem replay_ensures (p : Program α) :
    p.Ensures fun trace outcome => ∀ rest, p.replay (trace ++ rest) = some outcome := by
  induction p with
  | done value => exact fun _ => rfl
  | fault e => exact fun _ => rfl
  | call request next ih =>
    intro answer
    apply (ih answer).mono
    intro trace outcome h rest
    rw [List.cons_append, replay, dif_pos rfl]
    exact h rest
  | note notice next ih => exact ih

/-- What a trace is replayed from has the same calls, though it may report something else. -/
theorem Ensures.of_replay {p : Program α} {P : List Event → Except Fault α → Prop} (h : p.Ensures P)
    {trace : List Event} {outcome : Except Fault α} (hreplay : p.replay trace = some outcome) :
    ∃ events, P events outcome ∧
      ∀ request answer, .call request answer ∈ events → .call request answer ∈ trace := by
  induction p generalizing P trace with
  | done value =>
    cases hreplay
    exact ⟨[], h, by simp⟩
  | fault e =>
    cases hreplay
    exact ⟨[], h, by simp⟩
  | call request next ih =>
    match trace with
    | [] => cases hreplay
    | .note _ :: _ => cases hreplay
    | .call asked answer :: rest =>
      rw [replay] at hreplay
      split at hreplay
      · next hasked =>
        subst hasked
        obtain ⟨events, hP, hcalls⟩ := ih answer (h answer) hreplay
        refine ⟨.call asked answer :: events, hP, ?_⟩
        intro other reply hmem
        rcases List.mem_cons.1 hmem with he | hmem
        · rw [he]
          exact List.mem_cons_self
        · exact List.mem_cons_of_mem _ (hcalls other reply hmem)
      · cases hreplay
  | note notice next ih =>
    match trace with
    | [] => cases hreplay
    | .call _ _ :: _ => cases hreplay
    | .note other :: rest =>
      obtain ⟨events, hP, hcalls⟩ := ih h hreplay
      refine ⟨.note notice :: events, hP, ?_⟩
      intro request answer hmem
      rcases List.mem_cons.1 hmem with he | hmem
      · cases he
      · exact List.mem_cons_of_mem _ (hcalls request answer hmem)

end Compositor.Program
