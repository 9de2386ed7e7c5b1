import Mathlib.Algebra.Order.Group.Multiset
import Compositor.Proofs.Monitor

namespace Compositor

/-- What the surroundings hand out and take back. -/
inductive Resource where
  | visual (visual : VisualHandle)
  | context (context : ContextHandle)
  | pixmap (pixmap : XId)
  | bridge (bridge : BridgePixmap)
  | texture (texture : TextureId)
deriving DecidableEq

namespace Event

/-- What an event hands out. A pixmap that is named zero is none. -/
def created? : Event → Option Resource
  | .call (.display (.visualInfo _)) visual => visual.map .visual
  | .call (.display (.createContext _)) context => context.map .context
  | .call (.display (.namePixmap _)) pixmap => (pixmap.filter (· ≠ 0)).map .pixmap
  | .call (.display (.createBridge ..)) bridge => bridge.map .bridge
  | .call (.gl .generateTexture) texture => texture.map .texture
  | _ => none

/-- What an event takes back. -/
def destroyed? : Event → Option Resource
  | .call (.display (.freeVisual visual)) _ => some (.visual visual)
  | .call (.display (.destroyContext context)) _ => some (.context context)
  | .call (.display (.freePixmap pixmap)) _ => some (.pixmap pixmap)
  | .call (.display (.destroyBridge bridge)) _ => some (.bridge bridge)
  | .call (.gl (.deleteTexture texture)) _ => some (.texture texture)
  | _ => none

/-- What an event makes use of. -/
def used? : Event → Option Resource
  | .call (.display (.visualAttribute visual _)) _
  | .call (.display (.createContext visual)) _ => some (.visual visual)
  | .call (.display (.makeCurrent _ context)) _ => some (.context context)
  | .call (.display (.bindTexImage _ bridge)) _
  | .call (.display (.releaseTexImage _ bridge)) _ => some (.bridge bridge)
  | .call (.gl (.bindTexture _ texture)) _ => texture.map .texture
  | .call (.paint (.drawQuad quad _)) _ => some (.texture quad.texture)
  | _ => none

theorem destroyed?_eq_none {event : Event} {r : Resource} (h : event.created? = some r) :
    event.destroyed? = none := by
  unfold created? at h
  split at h
  · rfl
  · rfl
  · rfl
  · rfl
  · rfl
  · cases h

end Event

/-- What was handed out in a trace and not taken back. -/
def live (trace : List Event) : Multiset Resource :=
  (trace.filterMap Event.created? : Multiset Resource) - trace.filterMap Event.destroyed?

/-- Nothing is taken back or used that is not live at that moment. -/
def Sound (trace : List Event) : Prop :=
  ∀ before event after, trace = before ++ event :: after →
    ∀ r, event.destroyed? = some r ∨ event.used? = some r → r ∈ live before

def ledger : Monitor (Multiset Resource) where
  Allows live event := ∀ r, event.destroyed? = some r ∨ event.used? = some r → r ∈ live
  next live event :=
    match event.created?, event.destroyed? with
    | some r, _ => r ::ₘ live
    | none, some r => live.erase r
    | none, none => live

namespace Ledger

variable {start finish : Multiset Resource} {trace : List Event} {event : Event} {r : Resource}

theorem create (hcreated : event.created? = some r)
    (hused : ∀ used, event.used? = some used → used ∈ start)
    (hrest : ledger.Accepts (r ::ₘ start) trace finish) :
    ledger.Accepts start (event :: trace) finish := by
  have hdestroyed := Event.destroyed?_eq_none hcreated
  constructor
  · intro other hother
    rcases hother with hother | hother
    · rw [hdestroyed] at hother
      cases hother
    · exact hused other hother
  · simp only [ledger, hcreated]
    exact hrest

theorem create_of_unused (hcreated : event.created? = some r) (hused : event.used? = none)
    (hrest : ledger.Accepts (r ::ₘ start) trace finish) :
    ledger.Accepts start (event :: trace) finish := by
  have hnone : ∀ used, event.used? = some used → used ∈ start := by
    intro used h
    rw [hused] at h
    cases h
  exact create hcreated hnone hrest

theorem destroy (hcreated : event.created? = none) (hdestroyed : event.destroyed? = some r)
    (hused : event.used? = none) (hrest : ledger.Accepts start trace finish) :
    ledger.Accepts (r ::ₘ start) (event :: trace) finish := by
  constructor
  · intro other hother
    rw [hdestroyed, hused] at hother
    rcases hother with hother | hother
    · cases hother
      exact Multiset.mem_cons_self r start
    · cases hother
  · simp only [ledger, hcreated, hdestroyed, Multiset.erase_cons_head]
    exact hrest

theorem use (hcreated : event.created? = none) (hdestroyed : event.destroyed? = none)
    (hused : event.used? = some r) (hlive : r ∈ start)
    (hrest : ledger.Accepts start trace finish) :
    ledger.Accepts start (event :: trace) finish := by
  constructor
  · intro other hother
    rw [hdestroyed, hused] at hother
    rcases hother with hother | hother
    · cases hother
    · cases hother
      exact hlive
  · simp only [ledger, hcreated, hdestroyed]
    exact hrest

end Ledger

structure Event.Idle (event : Event) : Prop where
  created : event.created? = none
  destroyed : event.destroyed? = none
  used : event.used? = none

namespace Ledger

variable {start finish : Multiset Resource} {trace : List Event} {event : Event}

theorem idle (h : ∀ event ∈ trace, event.Idle) : ledger.Accepts start trace start := by
  apply Monitor.accepts_of_idle
  intro event hevent
  obtain ⟨hcreated, hdestroyed, hused⟩ := h event hevent
  constructor
  · intro r hr
    rw [hdestroyed, hused] at hr
    rcases hr with hr | hr <;> cases hr
  · simp only [ledger, hcreated, hdestroyed]

theorem single (h : event.Idle) : ledger.Accepts start [event] start := by
  apply idle
  intro other hother
  rw [List.mem_singleton.1 hother]
  exact h

theorem skip (h : event.Idle) (hrest : ledger.Accepts start trace finish) :
    ledger.Accepts start (event :: trace) finish :=
  (single h).append hrest

/-- What is created comes on top of what was live, and what is destroyed comes out of it. -/
theorem created_add (h : ledger.Accepts start trace finish) :
    (trace.filterMap Event.created? : Multiset Resource) + start =
      trace.filterMap Event.destroyed? + finish := by
  induction trace generalizing start with
  | nil =>
    cases h
    rfl
  | cons event trace ih =>
    obtain ⟨hallows, hrest⟩ := h
    have ih := ih hrest
    cases hcreated : event.created? with
    | some r =>
      have hdestroyed := Event.destroyed?_eq_none hcreated
      simp only [ledger, hcreated] at ih
      rw [List.filterMap_cons_some hcreated, List.filterMap_cons_none hdestroyed, ← ih,
        ← Multiset.cons_coe, Multiset.cons_add, Multiset.add_cons]
    | none =>
      cases hdestroyed : event.destroyed? with
      | none =>
        simp only [ledger, hcreated, hdestroyed] at ih
        rw [List.filterMap_cons_none hcreated, List.filterMap_cons_none hdestroyed]
        exact ih
      | some r =>
        simp only [ledger, hcreated, hdestroyed] at ih
        have hlive : r ∈ start := hallows r (.inl hdestroyed)
        rw [List.filterMap_cons_none hcreated, List.filterMap_cons_some hdestroyed,
          ← Multiset.cons_coe, Multiset.cons_add, ← ih, ← Multiset.add_cons,
          Multiset.cons_erase hlive]

theorem live_eq (h : ledger.Accepts 0 trace finish) : live trace = finish := by
  have hcreated := created_add h
  rw [add_zero] at hcreated
  rw [live, hcreated, add_tsub_cancel_left]

theorem sound (h : ledger.Accepts 0 trace finish) : Sound trace := by
  intro before event after htrace r hr
  rw [htrace] at h
  obtain ⟨middle, hbefore, hallows⟩ := h.allows
  rw [live_eq hbefore]
  exact hallows r hr

end Ledger
end Compositor
