import Compositor.Boundary.Driver

namespace Compositor

/-- Which events are allowed in a state, and what each one makes of it. -/
structure Monitor (μ : Type) where
  Allows : μ → Event → Prop
  next : μ → Event → μ

namespace Monitor

/-- From one state a trace is allowed throughout and leads to another. -/
def Accepts (m : Monitor μ) (s : μ) : List Event → μ → Prop
  | [], t => s = t
  | event :: rest, t => m.Allows s event ∧ m.Accepts (m.next s event) rest t

variable {m : Monitor μ} {s t u : μ} {first rest : List Event}

theorem accepts_nil : m.Accepts s [] s := rfl

theorem accepts_append :
    m.Accepts s (first ++ rest) u ↔ ∃ t, m.Accepts s first t ∧ m.Accepts t rest u := by
  induction first generalizing s with
  | nil =>
    constructor
    · intro h
      exact ⟨s, rfl, h⟩
    · intro h
      obtain ⟨t, rfl, ht⟩ := h
      exact ht
  | cons event first ih =>
    constructor
    · intro h
      obtain ⟨t, hfirst, hrest⟩ := ih.1 h.2
      exact ⟨t, ⟨h.1, hfirst⟩, hrest⟩
    · intro h
      obtain ⟨t, ⟨hallows, hfirst⟩, hrest⟩ := h
      exact ⟨hallows, ih.2 ⟨t, hfirst, hrest⟩⟩

theorem Accepts.append (hfirst : m.Accepts s first t) (hrest : m.Accepts t rest u) :
    m.Accepts s (first ++ rest) u :=
  accepts_append.2 ⟨t, hfirst, hrest⟩

theorem Accepts.cons {event : Event} (hallows : m.Allows s event)
    (hrest : m.Accepts (m.next s event) rest t) : m.Accepts s (event :: rest) t :=
  ⟨hallows, hrest⟩

theorem accepts_of_idle {trace : List Event}
    (h : ∀ event ∈ trace, m.Allows s event ∧ m.next s event = s) : m.Accepts s trace s := by
  induction trace with
  | nil => rfl
  | cons event trace ih =>
    obtain ⟨hallows, hnext⟩ := h event List.mem_cons_self
    apply Accepts.cons hallows
    rw [hnext]
    exact ih fun other hother => h other (List.mem_cons_of_mem event hother)

theorem Accepts.foldl_eq {trace : List Event} (h : m.Accepts s trace t) :
    trace.foldl m.next s = t := by
  induction trace generalizing s with
  | nil => exact h
  | cons event trace ih => exact ih h.2

/-- Every event is allowed in the state that the events before it lead to. -/
theorem Accepts.allows {before after : List Event} {event : Event}
    (h : m.Accepts s (before ++ event :: after) u) :
    ∃ t, m.Accepts s before t ∧ m.Allows t event := by
  obtain ⟨t, hbefore, hevent, -⟩ := accepts_append.1 h
  exact ⟨t, hbefore, hevent⟩

end Monitor
end Compositor
