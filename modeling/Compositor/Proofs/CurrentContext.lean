import Compositor.Proofs.Session
import Compositor.Proofs.Standing

namespace Compositor

variable {s t : Standing} {trace : List Event} {context : ContextHandle}

theorem Shaders.freeEvents_isQuiet (shaders : Shaders) :
    shaders.freeEvents.all Event.isQuiet = true := by
  rw [List.all_eq_true]
  exact shaders.forall_mem_freeEvents (fun _ => rfl) fun _ => rfl

theorem tearDownEvents_proper (shaders : Shaders) (context : ContextHandle) {drain : List Event}
    (hdrain : Gl.Emptied "GLX deinit" drain) :
    Proper (.current context) (tearDownEvents shaders context drain) .absent := by
  have hfree : Proper (.current context) shaders.freeEvents (.current context) :=
    proper_of_isQuiet shaders.freeEvents_isQuiet
  have hgone : Proper (.current context)
      [.call (.display (.destroyContext context)) (), .note .contextDestroyed] .absent := by
    apply Proper.cons rfl rfl
    change Proper (if context = context then .absent else .current context) _ _
    rw [if_pos rfl]
    exact proper_of_isQuiet rfl
  exact (hfree.append (proper_of_sparesContext hdrain.all_sparesContext)).append hgone

theorem Glx.Listed.all_isQuiet {name : String} {listed : Bool} (h : Glx.Listed name trace listed) :
    trace.all Event.isQuiet = true := by
  cases h <;> rfl

theorem Glx.Resolved.all_sparesContext {result : Except InitError TexImage}
    (h : Glx.Resolved trace result) : trace.all Event.sparesContext = true := by
  cases h <;> rfl

theorem Selection.Inquiry.sparesContext {event : Event} (h : Selection.Inquiry event) :
    event.sparesContext = true :=
  h.elim (fun _ => rfl) (fun _ _ _ => rfl) (fun _ _ => rfl) fun _ => rfl

theorem Selection.Selected.all_sparesContext {depth : UInt8}
    {outcome : Except Fault (Except InitError DepthTable)}
    (h : Selection.Selected depth trace outcome) : trace.all Event.sparesContext = true := by
  rw [List.all_eq_true]
  intro event hevent
  exact (h.inquires event hevent).sparesContext

namespace Renderer.BringUp

variable {screen : Screen} {settings : GlxSettings}

theorem Created.all_isQuiet {visual : VisualHandle} {cause : InitError}
    (h : Created visual trace (.error cause)) : trace.all Event.isQuiet = true := by
  cases h with
  | withoutGl huse => rfl
  | singleBuffered huse hdouble => rfl
  | unlisted huse hdouble hlisting => exact hlisting.all_isQuiet
  | noContext huse hdouble hlisting =>
    rw [List.all_cons, List.all_cons, all_append_of hlisting.all_isQuiet rfl]
    rfl

theorem Created.eq_append {visual : VisualHandle} (h : Created visual trace (.ok context)) :
    ∃ before, trace = before ++ [.call (.display (.createContext visual)) (some context)] ∧
      before.all Event.isQuiet = true := by
  cases h with
  | @created useGl doubleBuffer listing _ huse hdouble hlisting =>
    refine ⟨.call (.display (.visualAttribute visual .useGl)) useGl ::
      .call (.display (.visualAttribute visual .doubleBuffer)) doubleBuffer :: listing, rfl, ?_⟩
    exact hlisting.all_isQuiet

theorem Acquired.all_isQuiet {cause : InitError} (h : Acquired screen trace (.error cause)) :
    trace.all Event.isQuiet = true := by
  cases h with
  | noGlx => rfl
  | noVisual => rfl
  | visual hcreate =>
    rw [List.all_cons, List.all_cons, all_append_of hcreate.all_isQuiet rfl]
    rfl

theorem Acquired.eq_append (h : Acquired screen trace (.ok context)) :
    ∃ before visual after, trace =
      before ++ .call (.display (.createContext visual)) (some context) :: after ∧
        before.all Event.isQuiet = true ∧ after.all Event.isQuiet = true := by
  cases h with
  | @visual visual creation _ hcreate =>
    obtain ⟨before, rfl, hbefore⟩ := hcreate.eq_append
    refine ⟨.call (.display .queryExtension) true ::
      .call (.display (.visualInfo screen.visual)) (some visual) :: before, visual,
      [.call (.display (.freeVisual visual)) ()], ?_, hbefore, rfl⟩
    simp

theorem Acquired.proper (h : Acquired screen trace (.ok context)) :
    Proper .absent trace (.detached context) := by
  obtain ⟨before, visual, after, rfl, hbefore, hafter⟩ := h.eq_append
  exact (proper_of_isQuiet hbefore).append (.cons rfl rfl (proper_of_isQuiet hafter))

theorem Debugged.all_sparesContext (h : Debugged settings trace) :
    trace.all Event.sparesContext = true := by
  cases h <;> rfl

theorem Stenciled.all_sparesContext {usable : Bool} (h : Stenciled settings trace usable) :
    trace.all Event.sparesContext = true := by
  cases h <;> rfl

theorem Equipped.all_sparesContext {anySize : Bool} {texImage : TexImage}
    (h : Equipped settings trace anySize texImage) : trace.all Event.sparesContext = true := by
  obtain ⟨hdebug, hstencil, hresolve⟩ := h
  exact all_append_of hdebug.all_sparesContext
    (all_append_of hstencil.all_sparesContext hresolve.all_sparesContext)

theorem renderStateEvents_sparesContext {drain : List Event}
    (hdrain : Gl.Emptied "render state setup" drain) :
    (renderStateEvents screen settings drain).all Event.sparesContext = true := by
  cases hstencil : settings.noStencil with
  | true =>
    simp only [renderStateEvents, hstencil, if_true]
    exact hdrain.all_sparesContext
  | false =>
    simp only [renderStateEvents, hstencil]
    exact hdrain.all_sparesContext

theorem Attached.cases {outcome : Except Fault (Except InitError Renderer)}
    (h : Attached screen settings context trace outcome) :
    (outcome = .ok (.error .contextAttachFailed) ∧
      trace = [.call (.display (.makeCurrent screen.target context)) false,
        .note .contextNotAttached]) ∨
    ∃ work, trace = .call (.display (.makeCurrent screen.target context)) true :: work ∧
      work.all Event.sparesContext = true := by
  cases h with
  | refused => exact .inl ⟨rfl, rfl⟩
  | noStencil hdebug hstencil =>
    exact .inr ⟨_, rfl, all_append_of hdebug.all_sparesContext hstencil.all_sparesContext⟩
  | unresolved hdebug hstencil hresolve =>
    exact .inr ⟨_, rfl, all_append_of hdebug.all_sparesContext
      (all_append_of hstencil.all_sparesContext hresolve.all_sparesContext)⟩
  | overflowed hequip hselect =>
    exact .inr ⟨_, rfl, all_append_of hequip.all_sparesContext hselect.all_sparesContext⟩
  | noConfig hequip hselect =>
    exact .inr ⟨_, rfl, all_append_of hequip.all_sparesContext hselect.all_sparesContext⟩
  | ready hequip hselect hdrain =>
    exact .inr ⟨_, rfl, all_append_of hequip.all_sparesContext
      (all_append_of hselect.all_sparesContext (renderStateEvents_sparesContext hdrain))⟩

theorem Attached.context_eq {renderer : Renderer}
    (h : Attached screen settings context trace (.ok (.ok renderer))) :
    renderer.context = context := by
  cases h with
  | ready hequip hselect hdrain => rfl

theorem proper_makeCurrent {target : XId} {work : List Event}
    (hwork : work.all Event.sparesContext = true) :
    Proper (.detached context) (.call (.display (.makeCurrent target context)) true :: work)
      (.current context) := by
  have hnext : Standing.next (.detached context)
      (.call (.display (.makeCurrent target context)) true) = .current context := if_pos rfl
  apply Proper.cons rfl rfl
  rw [hnext]
  exact proper_of_sparesContext hwork

end Renderer.BringUp

/-- How a trace uses the drawing interface: properly, or after a refusal that nothing but one more
look at the error queue follows. -/
inductive GlUse (trace : List Event) : Prop
  | proper {t : Standing} (haccepts : currency.Accepts .absent trace t)
    (hrefusal : trace.any Event.isRefusal = false)
  | refused {before after : List Event} {code : Gl.Token}
    (htrace : trace = before ++ .call (.gl .getError) code :: after)
    (hstanding : (standing before).isCurrent = false)
    (hrefusal : trace.any Event.isRefusal = true)
    (honly : ∀ event ∈ trace, event.isGl = true → ∃ code, event = .call (.gl .getError) code)

theorem Gl.Emptied.getError_of_isGl (h : Gl.Emptied site trace) :
    ∀ event ∈ trace, event.isGl = true → ∃ code, event = .call (.gl .getError) code := by
  have hnote (code : Gl.Token) (hgl : Event.isGl (.note (.glError code site)) = true) :
      ∃ other, .note (.glError code site) = Event.call (.gl .getError) other := by
    cases hgl
  exact h.forall_mem (fun code _ => ⟨code, rfl⟩) hnote

theorem not_isGl_of_isQuiet (h : trace.all Event.isQuiet = true) :
    ∀ event ∈ trace, event.isGl = false := by
  intro event hevent
  have hquiet := (Bool.and_eq_true_iff.1 (List.all_eq_true.1 h event hevent)).2
  rw [Bool.not_eq_true'] at hquiet
  exact hquiet

namespace Renderer

open BringUp

variable {screen : Screen} {settings : GlxSettings}

theorem not_isGl_of_acquired {acquisition : List Event}
    (hacquire : Acquired screen acquisition (.ok context)) :
    ∀ event ∈ acquisition, event.isGl = false := by
  obtain ⟨before, visual, after, rfl, hbefore, hafter⟩ := hacquire.eq_append
  intro event hevent
  rcases List.mem_append.1 hevent with hevent | hevent
  · exact not_isGl_of_isQuiet hbefore event hevent
  · rcases List.mem_cons.1 hevent with rfl | hevent
    · rfl
    · exact not_isGl_of_isQuiet hafter event hevent

theorem getError_of_isGl_tearDownEvents (context : ContextHandle) {drain : List Event}
    (hdrain : Gl.Emptied "GLX deinit" drain) :
    ∀ event ∈ tearDownEvents {} context drain, event.isGl = true →
      ∃ code, event = .call (.gl .getError) code := by
  intro event hevent hgl
  rcases List.mem_append.1 hevent with hevent | hevent
  · rcases List.mem_append.1 hevent with hevent | hevent
    · have hfree := not_isGl_of_isQuiet (Shaders.freeEvents_isQuiet {}) event hevent
      rw [hfree] at hgl
      cases hgl
    · exact hdrain.getError_of_isGl event hevent hgl
  · rcases List.mem_pair.1 hevent with rfl | rfl <;> cases hgl

/-- After a refusal, taking down what there is looks at the error queue of a context that was never
current. -/
theorem glUse_of_refused {acquisition drain : List Event} {cause : InitError}
    (hacquire : Acquired screen acquisition (.ok context))
    (hdrain : Gl.Emptied "GLX deinit" drain) :
    GlUse (acquisition ++ ([.call (.display (.makeCurrent screen.target context)) false,
      .note .contextNotAttached] ++
        .note (.initFailed cause) :: tearDownEvents {} context drain)) := by
  have hwhole := getError_of_isGl_tearDownEvents context hdrain
  obtain ⟨code, rest, rfl⟩ := hdrain.eq_cons
  have hbefore : currency.Accepts .absent (acquisition ++
      ([.call (.display (.makeCurrent screen.target context)) false, .note .contextNotAttached,
        .note (.initFailed cause)] ++ Shaders.freeEvents {})) (.detached context) := by
    apply hacquire.proper.accepts.append
    have hquiet : (.note .contextNotAttached :: .note (.initFailed cause) :: Shaders.freeEvents {} :
        List Event).all Event.isQuiet = true := Shaders.freeEvents_isQuiet {}
    exact accepts_cons rfl (accepts_of_isQuiet hquiet)
  have htrace : acquisition ++ ([.call (.display (.makeCurrent screen.target context)) false,
      .note .contextNotAttached] ++ .note (.initFailed cause) ::
        tearDownEvents {} context (.call (.gl .getError) code :: rest)) =
      (acquisition ++ ([.call (.display (.makeCurrent screen.target context)) false,
        .note .contextNotAttached, .note (.initFailed cause)] ++ Shaders.freeEvents {})) ++
        .call (.gl .getError) code :: (rest ++
          [.call (.display (.destroyContext context)) (), .note .contextDestroyed]) := by
    simp [tearDownEvents]
  refine .refused htrace ?_ ?_ ?_
  · rw [standing_of_accepts hbefore]
    rfl
  · rw [List.any_append, List.any_append]
    simp [Event.isRefusal]
  · intro event hevent hgl
    rcases List.mem_append.1 hevent with hevent | hevent
    · rw [not_isGl_of_acquired hacquire event hevent] at hgl
      cases hgl
    rcases List.mem_append.1 hevent with hevent | hevent
    · rcases List.mem_pair.1 hevent with rfl | rfl <;> cases hgl
    rcases List.mem_cons.1 hevent with rfl | hevent
    · cases hgl
    · exact hwhole event hevent hgl

theorem proper_attached {acquisition work : List Event}
    (hacquire : Acquired screen acquisition (.ok context))
    (hwork : work.all Event.sparesContext = true) :
    Proper .absent (acquisition ++
      .call (.display (.makeCurrent screen.target context)) true :: work) (.current context) :=
  hacquire.proper.append (proper_makeCurrent hwork)

theorem BroughtUp.glUse_of_error {cause : InitError}
    (h : BroughtUp screen settings trace (.ok (.error cause))) : GlUse trace := by
  cases h with
  | @unacquired acquisition cause hacquire =>
    have hproper : Proper .absent
        (acquisition ++ .note (.initFailed cause) :: Shaders.freeEvents {}) .absent :=
      proper_of_isQuiet (all_append_of hacquire.all_isQuiet (Shaders.freeEvents_isQuiet {}))
    exact .proper hproper.accepts hproper.unrefused
  | @unattached acquisition attachment drain context cause hacquire hattach hdrain =>
    rcases hattach.cases with ⟨-, rfl⟩ | ⟨work, rfl, hwork⟩
    · exact glUse_of_refused hacquire hdrain
    · have hend : Proper (.current context)
          (.note (.initFailed cause) :: tearDownEvents {} context drain) .absent :=
        .cons rfl rfl (tearDownEvents_proper {} context hdrain)
      have hproper := (proper_attached hacquire hwork).append hend
      rw [List.append_assoc] at hproper
      exact .proper hproper.accepts hproper.unrefused

theorem BroughtUp.glUse_of_fault {e : Fault} (h : BroughtUp screen settings trace (.error e)) :
    GlUse trace := by
  cases h with
  | overflowed hacquire hattach =>
    rcases hattach.cases with ⟨⟨⟩, _⟩ | ⟨work, rfl, hwork⟩
    have hproper := proper_attached hacquire hwork
    exact .proper hproper.accepts hproper.unrefused

theorem BroughtUp.proper {renderer : Renderer}
    (h : BroughtUp screen settings trace (.ok (.ok renderer))) :
    Proper .absent trace (.current renderer.context) := by
  cases h with
  | @ready acquisition attachment context renderer hacquire hattach =>
    obtain rfl := hattach.context_eq
    rcases hattach.cases with ⟨⟨⟩, _⟩ | ⟨work, rfl, hwork⟩
    have hnoted : (work ++ [Event.note (.contextReady screen.target renderer.configs.size
        renderer.anySize)]).all Event.sparesContext = true := all_append_of hwork rfl
    exact proper_attached hacquire hnoted

end Renderer

namespace Backend

theorem Finished.proper {backend : Backend} {order : DrainOrder} {ending : Ending}
    (h : backend.Finished order ending trace) :
    Proper (.current backend.renderer.context) trace .absent := by
  obtain ⟨hdestroy, hdrain⟩ := h
  have hnotes : (ending.notes backend).all Event.sparesContext = true := by
    cases ending <;> rfl
  have hgone := all_tends_of_provides (destructions_provides hdestroy)
  apply (proper_of_sparesContext hnotes).append
  apply (proper_of_sparesContext (all_sparesContext_of_tends hgone)).append
  apply Proper.cons rfl rfl
  exact (tearDownEvents_proper _ _ hdrain).append (proper_of_isQuiet rfl)

end Backend

namespace Session

variable {driver : Driver σ} {state : σ} {screen : Screen} {settings : Settings}
  {session : Session σ}

def Attached (session : Session σ) : Prop :=
  currency.Accepts .absent session.trace (.current session.backend.renderer.context) ∧
    session.trace.any Event.isRefusal = false

theorem attached_of_start? (h : start? driver state screen settings = some session) :
    session.Attached := by
  obtain ⟨opening, turns, backend, final⟩ := session
  obtain ⟨rfl, hinit⟩ := start?_eq_some h
  cases hinit with
  | @opened trace renderer hbringUp =>
    have hnote : Proper (.current renderer.context) [.note .backendReady]
        (.current renderer.context) := proper_of_isQuiet rfl
    have hproper := hbringUp.proper.append hnote
    rw [Attached, Session.trace, List.flatMap_nil, List.append_nil]
    exact ⟨hproper.accepts, hproper.unrefused⟩

theorem Attached.extend {turn : Turn} (h : session.Attached)
    (hbefore : turn.before = session.backend) (hmoves : turn.Moves) (final : σ) :
    (session.extend turn final).Attached := by
  obtain ⟨haccepts, hrefusal⟩ := h
  rw [← hbefore, ← hmoves.context_eq] at haccepts
  have hproper := Proper.append ⟨haccepts, hrefusal⟩
    (proper_of_sparesContext hmoves.all_sparesContext)
  rw [Attached, trace_extend]
  exact ⟨hproper.accepts, hproper.unrefused⟩

theorem Attached.play (h : session.Attached) (operations : List Operation) :
    (session.play driver operations).Attached :=
  play_induction h (fun _ _ final h hbefore hmoves => h.extend hbefore hmoves final) operations

theorem life_glUse (driver : Driver σ) (state : σ) (screen : Screen) (settings : Settings)
    (operations : List Operation) (order : DrainOrder) (ending : Backend.Ending) :
    GlUse (life driver state screen settings operations order ending) := by
  unfold life
  split
  · next hstart =>
    obtain ⟨outcome, hinit, hnone⟩ := start?_eq_none hstart
    generalize ((Backend.init screen settings).run driver state).trace = trace at hinit ⊢
    cases hinit with
    | opened hbringUp => exact absurd rfl (hnone _)
    | refused hbringUp => exact hbringUp.glUse_of_error
    | overflowed hbringUp => exact hbringUp.glUse_of_fault
  · next session hstart =>
    have hplayed : (session.play driver operations).Attached :=
      (attached_of_start? hstart).play operations
    obtain ⟨haccepts, hrefusal⟩ := hplayed
    have hfinish := ((session.play driver operations).backend.finish_returns order ending).run
      driver (session.play driver operations).state
    obtain ⟨_, -, hfinished⟩ := hfinish
    have hproper := Proper.append ⟨haccepts, hrefusal⟩ hfinished.proper
    exact .proper hproper.accepts hproper.unrefused

/-- Over a whole life the drawing interface is called only while the context is current, exactly if
no context is refused when it is to be made current. After a refusal nothing is called but the look
at the error queue, which then comes too late or too early. -/
theorem onlyWhileCurrent_life_iff (driver : Driver σ) (state : σ) (screen : Screen)
    (settings : Settings) (operations : List Operation) (order : DrainOrder)
    (ending : Backend.Ending) :
    let trace := life driver state screen settings operations order ending
    (OnlyWhileCurrent trace ↔ ∀ event ∈ trace, event.isRefusal = false) ∧
      ((∃ event ∈ trace, event.isRefusal = true) →
        ∀ event ∈ trace, event.isGl = true → ∃ code, event = .call (.gl .getError) code) := by
  have huse := life_glUse driver state screen settings operations order ending
  cases huse with
  | proper haccepts hrefusal =>
    rw [List.any_eq_false] at hrefusal
    constructor
    · constructor
      · intro _ event hevent
        exact Bool.eq_false_iff.2 (hrefusal event hevent)
      · intro _
        exact onlyWhileCurrent_of_accepts haccepts
    · rintro ⟨event, hevent, hrefused⟩
      exact absurd hrefused (hrefusal event hevent)
  | refused htrace hstanding hrefusal honly =>
    obtain ⟨event, hevent, hrefused⟩ := List.any_eq_true.1 hrefusal
    constructor
    · constructor
      · intro hproper
        have hcurrent := hproper _ _ _ htrace rfl
        rw [hstanding] at hcurrent
        cases hcurrent
      · intro hnone
        rw [hnone event hevent] at hrefused
        cases hrefused
    · intro _
      exact honly

/-- Where the context cannot be made current, the error queue is looked at all the same. -/
theorem getError_life_refused :
    let trace := life (.granting false) () .ofDepth24 {} [] .byTexture .deinit
    .call (.display (.makeCurrent 1 ⟨1⟩)) false ∈ trace ∧
      .call (.gl .getError) Gl.noError ∈ trace ∧ ¬ OnlyWhileCurrent trace := by
  have htrace : life (.granting false) () .ofDepth24 {} [] .byTexture .deinit =
      (life (.granting false) () .ofDepth24 {} [] .byTexture .deinit).take 16 ++
        .call (.gl .getError) Gl.noError ::
          [.call (.display (.destroyContext ⟨1⟩)) (), .note .contextDestroyed] := rfl
  refine ⟨List.mem_of_getElem? (i := 7) rfl, List.mem_of_getElem? (i := 16) rfl, ?_⟩
  intro hproper
  have hcurrent := hproper _ _ _ htrace rfl
  have hdetached : standing ((life (.granting false) () .ofDepth24 {} [] .byTexture .deinit).take
      16) = .detached ⟨1⟩ := rfl
  rw [hdetached] at hcurrent
  cases hcurrent

end Session
end Compositor
