import Compositor.Proofs.Monitor
import Compositor.Proofs.Requests

namespace Compositor

/-- What has become of the context. -/
inductive Standing where
  | absent
  | detached (context : ContextHandle)
  | current (context : ContextHandle)
deriving DecidableEq

namespace Standing

/-- A detached context becomes current if it is the one that is attached. -/
def attach : Standing → ContextHandle → Standing
  | detached context, asked => if asked = context then current context else detached context
  | standing, _ => standing

def destroy : Standing → ContextHandle → Standing
  | absent, _ => absent
  | detached context, gone => if gone = context then absent else detached context
  | current context, gone => if gone = context then absent else current context

def next (standing : Standing) : Event → Standing
  | .call (.display (.createContext _)) created => created.elim standing detached
  | .call (.display (.makeCurrent _ asked)) attached =>
    if attached then standing.attach asked else standing
  | .call (.display (.destroyContext gone)) _ => standing.destroy gone
  | _ => standing

def isCurrent : Standing → Bool
  | current _ => true
  | _ => false

end Standing

namespace Event

def isGl : Event → Bool
  | .call (.gl _) _ => true
  | _ => false

/-- Whether an event is the refusal to make a context current. -/
def isRefusal : Event → Bool
  | .call (.display (.makeCurrent ..)) attached => !attached
  | _ => false

/-- Whether an event has nothing to do with what has become of the context. -/
def sparesContext : Event → Bool
  | .call (.display (.createContext _)) created => created.isNone
  | .call (.display (.makeCurrent ..)) _ | .call (.display (.destroyContext _)) _ => false
  | _ => true

/-- Whether an event does not need the context either. -/
def isQuiet (event : Event) : Bool := event.sparesContext && !event.isGl

end Event

def standing (trace : List Event) : Standing := trace.foldl Standing.next .absent

/-- Every call of the drawing interface comes while the context is current. -/
def OnlyWhileCurrent (trace : List Event) : Prop :=
  ∀ before event after, trace = before ++ event :: after → event.isGl = true →
    (standing before).isCurrent = true

/-- Keeps track of the context and lets the drawing interface be called while it is current. -/
def currency : Monitor Standing where
  Allows standing event := event.isGl = true → standing.isCurrent = true
  next := Standing.next

variable {s t : Standing} {trace : List Event} {context : ContextHandle}

theorem Event.next_of_sparesContext {event : Event} (h : event.sparesContext = true)
    (s : Standing) : s.next event = s := by
  unfold Event.sparesContext at h
  split at h
  · next created => rw [Standing.next, Option.isNone_iff_eq_none.1 h, Option.elim_none]
  · cases h
  · cases h
  · next hcreate hmake hdestroy =>
    unfold Standing.next
    split
    · next visual created => exact absurd rfl (hcreate visual created)
    · next target asked attached => exact absurd rfl (hmake target asked attached)
    · next gone answer => exact absurd rfl (hdestroy gone answer)
    · rfl

theorem Event.isRefusal_of_sparesContext {event : Event} (h : event.sparesContext = true) :
    event.isRefusal = false := by
  unfold Event.isRefusal
  split
  · cases h
  · rfl

theorem any_isRefusal_of_sparesContext (h : trace.all Event.sparesContext = true) :
    trace.any Event.isRefusal = false := by
  rw [List.any_eq_false]
  intro event hevent
  rw [Event.isRefusal_of_sparesContext (List.all_eq_true.1 h event hevent)]
  exact Bool.false_ne_true

theorem all_sparesContext_of_isQuiet (h : trace.all Event.isQuiet = true) :
    trace.all Event.sparesContext = true := by
  rw [List.all_eq_true] at h ⊢
  intro event hevent
  exact (Bool.and_eq_true_iff.1 (h event hevent)).1

theorem standing_of_accepts (h : currency.Accepts .absent trace t) : standing trace = t :=
  h.foldl_eq

theorem onlyWhileCurrent_of_accepts (h : currency.Accepts .absent trace t) :
    OnlyWhileCurrent trace := by
  intro before event after htrace hgl
  rw [htrace] at h
  obtain ⟨middle, hbefore, hallows⟩ := h.allows
  rw [standing_of_accepts hbefore]
  exact hallows hgl

theorem accepts_cons {event : Event} {rest : List Event} (hgl : event.isGl = false)
    (hrest : currency.Accepts (s.next event) rest t) : currency.Accepts s (event :: rest) t := by
  have hallows : currency.Allows s event := by
    intro hcalls
    rw [hgl] at hcalls
    cases hcalls
  exact .cons hallows hrest

/-- Quiet events are allowed at any time, and change nothing. -/
theorem accepts_of_isQuiet (h : trace.all Event.isQuiet = true) : currency.Accepts s trace s := by
  apply Monitor.accepts_of_idle
  intro event hevent
  obtain ⟨hspares, hgl⟩ := Bool.and_eq_true_iff.1 (List.all_eq_true.1 h event hevent)
  constructor
  · intro hcalls
    rw [hcalls] at hgl
    cases hgl
  · exact Event.next_of_sparesContext hspares s

/-- As long as the context is left as it is, anything is allowed while it is current. -/
theorem accepts_of_sparesContext (h : trace.all Event.sparesContext = true) :
    currency.Accepts (.current context) trace (.current context) := by
  apply Monitor.accepts_of_idle
  intro event hevent
  have hspares := List.all_eq_true.1 h event hevent
  exact ⟨fun _ => rfl, Event.next_of_sparesContext hspares _⟩

/-- The drawing interface is only called while the context is current, and nothing is refused. -/
structure Proper (s : Standing) (trace : List Event) (t : Standing) : Prop where
  accepts : currency.Accepts s trace t
  unrefused : trace.any Event.isRefusal = false

theorem Proper.append {u : Standing} {first rest : List Event} (hfirst : Proper s first t)
    (hrest : Proper t rest u) : Proper s (first ++ rest) u := by
  constructor
  · exact hfirst.accepts.append hrest.accepts
  · rw [List.any_append, hfirst.unrefused, hrest.unrefused]
    rfl

theorem Proper.cons {event : Event} {rest : List Event} (hgl : event.isGl = false)
    (hrefusal : event.isRefusal = false) (hrest : Proper (s.next event) rest t) :
    Proper s (event :: rest) t := by
  constructor
  · exact accepts_cons hgl hrest.accepts
  · rw [List.any_cons, hrefusal, hrest.unrefused]
    rfl

theorem proper_of_isQuiet (h : trace.all Event.isQuiet = true) : Proper s trace s :=
  ⟨accepts_of_isQuiet h, any_isRefusal_of_sparesContext (all_sparesContext_of_isQuiet h)⟩

theorem proper_of_sparesContext (h : trace.all Event.sparesContext = true) :
    Proper (.current context) trace (.current context) :=
  ⟨accepts_of_sparesContext h, any_isRefusal_of_sparesContext h⟩

theorem Gl.Emptied.all_sparesContext (h : Gl.Emptied site trace) :
    trace.all Event.sparesContext = true := by
  rw [List.all_eq_true]
  exact h.forall_mem (fun _ => rfl) fun _ => rfl

theorem Event.sparesContext_of_tends {event : Event} (h : event.tends = true) :
    event.sparesContext = true := by
  unfold Event.sparesContext
  split
  · cases h
  · cases h
  · cases h
  · rfl

theorem all_sparesContext_of_tends (h : trace.all Event.tends = true) :
    trace.all Event.sparesContext = true := by
  rw [List.all_eq_true] at h ⊢
  intro event hevent
  exact Event.sparesContext_of_tends (h event hevent)

namespace Backend

theorem Move.all_sparesContext {backend next : Backend} {operation : Operation}
    {outcome : Except Fault Reply} (h : backend.Move operation trace outcome next) :
    trace.all Event.sparesContext = true :=
  all_sparesContext_of_tends h.all_tends

theorem Move.context_eq {backend next : Backend} {operation : Operation}
    {outcome : Except Fault Reply} (h : backend.Move operation trace outcome next) :
    next.renderer.context = backend.renderer.context := by
  obtain ⟨shaders, width, height, hrenderer⟩ := h.renderer_eq
  rw [hrenderer]

end Backend

end Compositor
