import Compositor.Proofs.Resources
import Compositor.Proofs.Session

namespace Compositor

variable {start : Multiset Resource}

theorem Shaders.freeEvents_idle (shaders : Shaders) :
    ∀ event ∈ shaders.freeEvents, event.Idle :=
  shaders.forall_mem_freeEvents (fun _ => ⟨rfl, rfl, rfl⟩) fun _ => ⟨rfl, rfl, rfl⟩

theorem tearDownEvents_accepts (shaders : Shaders) (context : ContextHandle)
    (hdrain : Gl.Emptied "GLX deinit" drain) :
    ledger.Accepts (.context context ::ₘ start) (tearDownEvents shaders context drain) start := by
  have hfree : ledger.Accepts (.context context ::ₘ start) shaders.freeEvents _ :=
    Ledger.idle shaders.freeEvents_idle
  apply (hfree.append hdrain.accepts).append
  apply Ledger.destroy rfl rfl rfl
  exact Ledger.single ⟨rfl, rfl, rfl⟩

namespace Backend

theorem destructions_accepts {backend : Backend} {textures : List WindowTexture}
    {destructions : List (List Event)} (h : List.Forall₂ backend.Destroyed textures destructions) :
    ledger.Accepts ((textures.map WindowTexture.resources).sum + start) destructions.flatten
      start := by
  induction h with
  | nil =>
    rw [List.map_nil, List.sum_nil, zero_add]
    exact Monitor.accepts_nil
  | cons hfirst hrest ih =>
    obtain ⟨drain, hdrain, rfl⟩ := hfirst
    rw [List.map_cons, List.sum_cons, add_assoc, List.flatten_cons]
    exact (WindowTexture.destroyEvents_accepts _ _ _ hdrain).append ih

/-- At the end everything is taken back, in whatever order the textures are destroyed. -/
theorem Finished.accepts {backend : Backend} {order : DrainOrder} {ending : Ending}
    {trace : List Event} (h : backend.Finished order ending trace) :
    ledger.Accepts backend.resources trace 0 := by
  obtain ⟨hdestroy, hdrain⟩ := h
  have hnotes : ledger.Accepts backend.resources (ending.notes backend) backend.resources := by
    cases ending with
    | deinit => exact Monitor.accepts_nil
    | drop => exact Ledger.single ⟨rfl, rfl, rfl⟩
  apply hnotes.append
  have hdestroyed : ledger.Accepts (_ + {.context backend.renderer.context}) _ _ :=
    destructions_accepts hdestroy
  rw [((order.perm backend.textures.values).map WindowTexture.resources).sum_eq,
    add_comm] at hdestroyed
  apply hdestroyed.append
  apply Ledger.skip ⟨rfl, rfl, rfl⟩
  apply (tearDownEvents_accepts _ _ hdrain).append
  exact Ledger.single ⟨rfl, rfl, rfl⟩

end Backend

theorem Glx.Listed.accepts {name : String} {trace : List Event} {listed : Bool}
    (h : Glx.Listed name trace listed) : ledger.Accepts start trace start := by
  cases h with
  | noList => exact Ledger.skip ⟨rfl, rfl, rfl⟩ (Ledger.single ⟨rfl, rfl, rfl⟩)
  | found hlisted => exact Ledger.single ⟨rfl, rfl, rfl⟩
  | missing hlisted =>
    exact Ledger.skip ⟨rfl, rfl, rfl⟩ (Ledger.single ⟨rfl, rfl, rfl⟩)

theorem Glx.Resolved.accepts {trace : List Event} {result : Except InitError TexImage}
    (h : Glx.Resolved trace result) : ledger.Accepts start trace start := by
  apply Ledger.idle
  intro event hevent
  cases h with
  | noBind =>
    rcases List.mem_pair.1 hevent with rfl | rfl <;> exact ⟨rfl, rfl, rfl⟩
  | noRelease =>
    simp only [List.mem_cons, List.not_mem_nil, or_false] at hevent
    rcases hevent with rfl | rfl | rfl <;> exact ⟨rfl, rfl, rfl⟩
  | found =>
    rcases List.mem_pair.1 hevent with rfl | rfl <;> exact ⟨rfl, rfl, rfl⟩

theorem Selection.Inquiry.idle {event : Event} (h : Selection.Inquiry event) : event.Idle :=
  h.elim (fun _ => ⟨rfl, rfl, rfl⟩) (fun _ _ _ => ⟨rfl, rfl, rfl⟩) (fun _ _ => ⟨rfl, rfl, rfl⟩)
    fun _ => ⟨rfl, rfl, rfl⟩

theorem Selection.Selected.accepts {depth : UInt8} {trace : List Event}
    {outcome : Except Fault (Except InitError DepthTable)}
    (h : Selection.Selected depth trace outcome) : ledger.Accepts start trace start := by
  apply Ledger.idle
  intro event hevent
  exact (h.inquires event hevent).idle

namespace Renderer.BringUp

def resultResources : Except InitError ContextHandle → Multiset Resource
  | .ok context => {.context context}
  | .error _ => 0

theorem Created.accepts {visual : VisualHandle} {trace : List Event}
    {result : Except InitError ContextHandle} (h : Created visual trace result) :
    ledger.Accepts {.visual visual} trace (resultResources result + {.visual visual}) := by
  have hvisual : Resource.visual visual ∈ ({.visual visual} : Multiset Resource) :=
    Multiset.mem_singleton_self _
  cases h with
  | withoutGl huse =>
    apply Ledger.use rfl rfl rfl hvisual
    exact Ledger.single ⟨rfl, rfl, rfl⟩
  | singleBuffered huse hdouble =>
    apply Ledger.use rfl rfl rfl hvisual
    apply Ledger.use rfl rfl rfl hvisual
    exact Ledger.single ⟨rfl, rfl, rfl⟩
  | unlisted huse hdouble hlisting =>
    apply Ledger.use rfl rfl rfl hvisual
    apply Ledger.use rfl rfl rfl hvisual
    exact hlisting.accepts
  | noContext huse hdouble hlisting =>
    apply Ledger.use rfl rfl rfl hvisual
    apply Ledger.use rfl rfl rfl hvisual
    apply hlisting.accepts.append
    apply Ledger.use rfl rfl rfl hvisual
    exact Ledger.single ⟨rfl, rfl, rfl⟩
  | @created _ _ _ context huse hdouble hlisting =>
    apply Ledger.use rfl rfl rfl hvisual
    apply Ledger.use rfl rfl rfl hvisual
    apply hlisting.accepts.append
    have hused : ∀ used, Event.used? (.call (.display (.createContext visual)) (some context)) =
        some used → used ∈ ({.visual visual} : Multiset Resource) := by
      intro used hused
      cases hused
      exact hvisual
    exact Ledger.create rfl hused Monitor.accepts_nil

theorem Acquired.accepts {screen : Screen} {trace : List Event}
    {result : Except InitError ContextHandle} (h : Acquired screen trace result) :
    ledger.Accepts 0 trace (resultResources result) := by
  cases h with
  | noGlx => exact Ledger.skip ⟨rfl, rfl, rfl⟩ (Ledger.single ⟨rfl, rfl, rfl⟩)
  | noVisual =>
    apply Ledger.skip ⟨rfl, rfl, rfl⟩
    exact Ledger.skip ⟨rfl, rfl, rfl⟩ (Ledger.single ⟨rfl, rfl, rfl⟩)
  | visual hcreate =>
    apply Ledger.skip ⟨rfl, rfl, rfl⟩
    apply Ledger.create_of_unused rfl rfl
    apply hcreate.accepts.append
    rw [add_comm]
    exact Ledger.destroy rfl rfl rfl Monitor.accepts_nil

theorem Debugged.accepts {settings : GlxSettings} {trace : List Event}
    (h : Debugged settings trace) : ledger.Accepts start trace start := by
  cases h with
  | off hdebug => exact Monitor.accepts_nil
  | installed hdebug => exact Ledger.single ⟨rfl, rfl, rfl⟩
  | failed hdebug =>
    exact Ledger.skip ⟨rfl, rfl, rfl⟩ (Ledger.single ⟨rfl, rfl, rfl⟩)

theorem Stenciled.accepts {settings : GlxSettings} {trace : List Event} {usable : Bool}
    (h : Stenciled settings trace usable) : ledger.Accepts start trace start := by
  cases h with
  | skipped hstencil => exact Monitor.accepts_nil
  | present hstencil hbits => exact Ledger.single ⟨rfl, rfl, rfl⟩
  | absent hstencil =>
    exact Ledger.skip ⟨rfl, rfl, rfl⟩ (Ledger.single ⟨rfl, rfl, rfl⟩)

theorem Equipped.accepts {settings : GlxSettings} {trace : List Event} {anySize : Bool}
    {texImage : TexImage} (h : Equipped settings trace anySize texImage) :
    ledger.Accepts start trace start := by
  obtain ⟨hdebug, hstencil, hresolve⟩ := h
  apply hdebug.accepts.append
  apply hstencil.accepts.append
  exact Ledger.skip ⟨rfl, rfl, rfl⟩ hresolve.accepts

theorem renderStateEvents_accepts (screen : Screen) (settings : GlxSettings)
    (hdrain : Gl.Emptied "render state setup" drain) :
    ledger.Accepts start (renderStateEvents screen settings drain) start := by
  have hclear : ledger.Accepts start (.call (.gl (.clearColor 0 0 0 1000)) () :: drain) start :=
    Ledger.skip ⟨rfl, rfl, rfl⟩ hdrain.accepts
  refine Monitor.Accepts.append (Ledger.idle ?_) hclear
  intro event hevent
  cases hstencil : settings.noStencil with
  | true =>
    simp only [hstencil, if_true, List.append_nil, List.mem_cons, List.not_mem_nil,
      or_false] at hevent
    rcases hevent with rfl | rfl | rfl | rfl | rfl <;> exact ⟨rfl, rfl, rfl⟩
  | false =>
    simp only [hstencil, Bool.false_eq_true, if_false, List.cons_append, List.nil_append,
      List.mem_cons, List.not_mem_nil, or_false] at hevent
    rcases hevent with rfl | rfl | rfl | rfl | rfl | rfl | rfl | rfl | rfl <;>
      exact ⟨rfl, rfl, rfl⟩

theorem Attached.accepts {screen : Screen} {settings : GlxSettings} {context : ContextHandle}
    {trace : List Event} {outcome : Except Fault (Except InitError Renderer)}
    (h : Attached screen settings context trace outcome) :
    ledger.Accepts {.context context} trace {.context context} := by
  have hcontext : Resource.context context ∈ ({.context context} : Multiset Resource) :=
    Multiset.mem_singleton_self _
  cases h with
  | refused =>
    apply Ledger.use rfl rfl rfl hcontext
    exact Ledger.single ⟨rfl, rfl, rfl⟩
  | noStencil hdebug hstencil =>
    apply Ledger.use rfl rfl rfl hcontext
    exact hdebug.accepts.append hstencil.accepts
  | unresolved hdebug hstencil hresolve =>
    apply Ledger.use rfl rfl rfl hcontext
    apply hdebug.accepts.append
    apply hstencil.accepts.append
    exact Ledger.skip ⟨rfl, rfl, rfl⟩ hresolve.accepts
  | overflowed hequip hselect =>
    apply Ledger.use rfl rfl rfl hcontext
    exact hequip.accepts.append hselect.accepts
  | noConfig hequip hselect =>
    apply Ledger.use rfl rfl rfl hcontext
    exact hequip.accepts.append hselect.accepts
  | ready hequip hselect hdrain =>
    apply Ledger.use rfl rfl rfl hcontext
    apply hequip.accepts.append
    exact hselect.accepts.append (renderStateEvents_accepts screen settings hdrain)

end BringUp

theorem BroughtUp.accepts_of_error {screen : Screen} {settings : GlxSettings} {trace : List Event}
    {cause : InitError} (h : BroughtUp screen settings trace (.ok (.error cause))) :
    ledger.Accepts 0 trace 0 := by
  cases h with
  | unacquired hacquire =>
    apply hacquire.accepts.append
    apply Ledger.skip ⟨rfl, rfl, rfl⟩
    exact Ledger.idle (Shaders.freeEvents_idle {})
  | unattached hacquire hattach hdrain =>
    apply hacquire.accepts.append
    apply hattach.accepts.append
    apply Ledger.skip ⟨rfl, rfl, rfl⟩
    exact tearDownEvents_accepts {} _ hdrain

theorem BroughtUp.accepts_of_ok {screen : Screen} {settings : GlxSettings} {trace : List Event}
    {renderer : Renderer} (h : BroughtUp screen settings trace (.ok (.ok renderer))) :
    ledger.Accepts 0 trace {.context renderer.context} := by
  cases h with
  | ready hacquire hattach =>
    apply hacquire.accepts.append
    have hattached := hattach.accepts
    cases hattach with
    | ready hequip hselect hdrain =>
      apply hattached.append
      exact Ledger.single ⟨rfl, rfl, rfl⟩

end Renderer

namespace Session

variable {driver : Driver σ} {state : σ} {screen : Screen} {settings : Settings}
  {session : Session σ}

/-- The ledger holds what the backend holds. -/
def Balanced (session : Session σ) : Prop :=
  ledger.Accepts 0 session.trace session.backend.resources ∧ session.backend.AllBound

theorem balanced_of_start? (h : start? driver state screen settings = some session) :
    session.Balanced := by
  obtain ⟨opening, turns, backend, final⟩ := session
  obtain ⟨rfl, hinit⟩ := start?_eq_some h
  cases hinit with
  | @opened trace renderer hbringUp =>
    constructor
    · have hnote : ledger.Accepts {.context renderer.context} [.note .backendReady]
          {.context renderer.context} :=
        Ledger.single ⟨rfl, rfl, rfl⟩
      rw [Session.trace, List.flatMap_nil, List.append_nil]
      exact hbringUp.accepts_of_ok.append hnote
    · intro window texture htexture
      rw [Backend.texture?, Std.TreeMap.getElem?_emptyc] at htexture
      cases htexture

theorem Balanced.extend {turn : Turn} (h : session.Balanced)
    (hbefore : turn.before = session.backend) (hmoves : turn.Moves) (final : σ) :
    (session.extend turn final).Balanced := by
  obtain ⟨haccepts, hbound⟩ := h
  rw [← hbefore] at haccepts hbound
  constructor
  · rw [trace_extend]
    exact haccepts.append hmoves.accepts
  · exact hmoves.allBound hbound

theorem Balanced.play (h : session.Balanced) (operations : List Operation) :
    (session.play driver operations).Balanced :=
  play_induction h (fun _ _ final h hbefore hmoves => h.extend hbefore hmoves final) operations

/-- Between operations exactly the context and what each texture holds is live, up to there nothing
else was taken back or used, and the end of the backend takes everything back. -/
theorem live_play (h : start? driver state screen settings = some session)
    (operations : List Operation) :
    let played := session.play driver operations
    (Sound played.trace ∧ live played.trace = played.backend.resources ∧
      played.backend.AllBound) ∧
    ∀ order ending,
      let finished := played.finish driver order ending
      finished.outcome = .ok () ∧ Sound (played.trace ++ finished.trace) ∧
        live (played.trace ++ finished.trace) = 0 := by
  have hplayed : (session.play driver operations).Balanced := (balanced_of_start? h).play operations
  obtain ⟨haccepts, hbound⟩ := hplayed
  refine ⟨⟨Ledger.sound haccepts, Ledger.live_eq haccepts, hbound⟩, ?_⟩
  intro order ending
  have hfinish := ((session.play driver operations).backend.finish_returns order ending).run driver
    (session.play driver operations).state
  obtain ⟨_, houtcome, hfinished⟩ := hfinish
  have hwhole := haccepts.append hfinished.accepts
  exact ⟨houtcome, Ledger.sound hwhole, Ledger.live_eq hwhole⟩

theorem live_play_granting :
    ∃ session, start? (.granting true) () .ofDepth24 {} = some session ∧
      let played := session.play (.granting true)
        [.prepare { id := 7, depth := 24, width := 10, height := 20 }, .render 7,
          .compose 7 0 (-2147483648) ⟨[]⟩,
          .prepare { id := 7, depth := 24, width := 5, height := 5 }]
      (Sound played.trace ∧ live played.trace = played.backend.resources ∧
        played.backend.AllBound) ∧
      ∀ order ending,
        let finished := played.finish (.granting true) order ending
        finished.outcome = .ok () ∧ Sound (played.trace ++ finished.trace) ∧
          live (played.trace ++ finished.trace) = 0 := by
  obtain ⟨session, hsession⟩ : ∃ session, start? (.granting true) () .ofDepth24 {} = some session :=
    Option.isSome_iff_exists.1 (by decide +kernel)
  exact ⟨session, hsession, live_play hsession _⟩

end Session
end Compositor
