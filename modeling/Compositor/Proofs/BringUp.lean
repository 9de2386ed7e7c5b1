import Compositor.Proofs.ErrorDrain
import Compositor.Proofs.Selection
import Compositor.Renderer.BringUp

namespace Compositor
namespace Glx

/-- The events of asking for an extension, and the answer; each way it can go is a constructor. -/
inductive Listed (name : String) : List Event → Bool → Prop
  | noList : Listed name [.call (.display .extensions) none, .note .noExtensionList] false
  | found {list : String} (hlisted : Extension.isListed list name = true) :
    Listed name [.call (.display .extensions) (some list)] true
  | missing {list : String} (hlisted : Extension.isListed list name = false) :
    Listed name [.call (.display .extensions) (some list), .note (.extensionNotListed name)] false

theorem hasExtension_returns (name : String) : (hasExtension name).Returns (Listed name) := by
  intro list
  cases list with
  | none => exact ⟨false, rfl, .noList⟩
  | some list =>
    cases hlisted : Extension.isListed list name with
    | true =>
      simp only [Program.bind, hlisted, if_true]
      exact ⟨true, rfl, .found hlisted⟩
    | false =>
      simp only [Program.bind, hlisted, Bool.false_eq_true, if_false]
      exact ⟨false, rfl, .missing hlisted⟩

inductive Resolved : List Event → Except InitError TexImage → Prop
  | noBind :
    Resolved [.call (.display (.entryPoint Extension.bindTexImage)) none,
        .note (.texImageUnresolved (.entryPointUnresolved Extension.bindTexImage))]
      (.error (.entryPointUnresolved Extension.bindTexImage))
  | noRelease {bind : EntryPoint} :
    Resolved [.call (.display (.entryPoint Extension.bindTexImage)) (some bind),
        .call (.display (.entryPoint Extension.releaseTexImage)) none,
        .note (.texImageUnresolved (.entryPointUnresolved Extension.releaseTexImage))]
      (.error (.entryPointUnresolved Extension.releaseTexImage))
  | found {bind release : EntryPoint} :
    Resolved [.call (.display (.entryPoint Extension.bindTexImage)) (some bind),
        .call (.display (.entryPoint Extension.releaseTexImage)) (some release)]
      (.ok ⟨bind, release⟩)

theorem resolveTexImage_returns : resolveTexImage.Returns Resolved := by
  intro bind
  cases bind with
  | none => exact ⟨_, rfl, .noBind⟩
  | some bind =>
    intro release
    cases release with
    | none => exact ⟨_, rfl, .noRelease⟩
    | some release => exact ⟨_, rfl, .found⟩

end Glx

def Shaders.freeEvents (shaders : Shaders) : List Event :=
  shaders.blur.toList.map (fun program => .call (.paint (.freeBlurProgram program)) ()) ++
    [.call (.paint (.freeWindowProgram shaders.window)) ()]

theorem Shaders.forall_mem_freeEvents {p : Event → Prop} (shaders : Shaders)
    (hblur : ∀ program, p (.call (.paint (.freeBlurProgram program)) ()))
    (hwindow : ∀ program, p (.call (.paint (.freeWindowProgram program)) ())) :
    ∀ event ∈ shaders.freeEvents, p event := by
  intro event hevent
  rcases List.mem_append.1 hevent with hevent | hevent
  · obtain ⟨program, _, rfl⟩ := List.mem_map.1 hevent
    exact hblur program
  · rw [List.mem_singleton.1 hevent]
    exact hwindow shaders.window

def tearDownEvents (shaders : Shaders) (context : ContextHandle) (drain : List Event) :
    List Event :=
  shaders.freeEvents ++ drain ++
    [.call (.display (.destroyContext context)) (), .note .contextDestroyed]

theorem freeBlurPrograms_returns (programs : List BlurProgram) :
    (programs.forM fun program => Program.paint (.freeBlurProgram program)).Returns fun trace _ =>
      trace = programs.map fun program => .call (.paint (.freeBlurProgram program)) () := by
  induction programs with
  | nil => exact ⟨(), rfl, rfl⟩
  | cons program programs ih =>
    intro _
    apply ih.mono
    intro trace _ htrace
    rw [htrace]
    rfl

theorem tearDown_none_returns (shaders : Shaders) :
    (tearDown shaders none).Returns fun trace _ => trace = shaders.freeEvents := by
  apply Program.Returns.bind (freeBlurPrograms_returns shaders.blur.toList)
  intro trace _ htrace _
  subst htrace
  exact ⟨(), rfl, rfl⟩

theorem tearDown_some_returns (shaders : Shaders) (context : ContextHandle) :
    (tearDown shaders (some context)).Returns fun trace _ =>
      ∃ drain, Gl.Emptied "GLX deinit" drain ∧ trace = tearDownEvents shaders context drain := by
  apply Program.Returns.bind (freeBlurPrograms_returns shaders.blur.toList)
  intro trace _ htrace _
  subst htrace
  apply Program.Returns.bind (Gl.drainErrors_returns _)
  intro drain count hdrain _
  refine ⟨(), rfl, drain, hdrain, ?_⟩
  simp only [tearDownEvents, Shaders.freeEvents, List.append_assoc]
  rfl

namespace Renderer.BringUp

inductive Created (visual : VisualHandle) : List Event → Except InitError ContextHandle → Prop
  | withoutGl {useGl : Option Int32} (huse : useGl.getD 0 = 0) :
    Created visual
      [.call (.display (.visualAttribute visual .useGl)) useGl, .note .visualWithoutGl]
      (.error (.visualUnsuitable "root visual is not a GL visual"))
  | singleBuffered {useGl doubleBuffer : Option Int32} (huse : useGl.getD 0 ≠ 0)
    (hdouble : doubleBuffer.getD 0 = 0) :
    Created visual
      [.call (.display (.visualAttribute visual .useGl)) useGl,
        .call (.display (.visualAttribute visual .doubleBuffer)) doubleBuffer,
        .note .visualNotDoubleBuffered]
      (.error (.visualUnsuitable "root visual is not double buffered"))
  | unlisted {useGl doubleBuffer : Option Int32} {listing : List Event} (huse : useGl.getD 0 ≠ 0)
    (hdouble : doubleBuffer.getD 0 ≠ 0)
    (hlisting : Glx.Listed Extension.textureFromPixmap listing false) :
    Created visual
      (.call (.display (.visualAttribute visual .useGl)) useGl ::
        .call (.display (.visualAttribute visual .doubleBuffer)) doubleBuffer :: listing)
      (.error (.extensionMissing Extension.textureFromPixmap))
  | noContext {useGl doubleBuffer : Option Int32} {listing : List Event} (huse : useGl.getD 0 ≠ 0)
    (hdouble : doubleBuffer.getD 0 ≠ 0)
    (hlisting : Glx.Listed Extension.textureFromPixmap listing true) :
    Created visual
      (.call (.display (.visualAttribute visual .useGl)) useGl ::
        .call (.display (.visualAttribute visual .doubleBuffer)) doubleBuffer ::
        (listing ++ [.call (.display (.createContext visual)) none, .note .noContext]))
      (.error .contextCreationFailed)
  | created {useGl doubleBuffer : Option Int32} {listing : List Event} {context : ContextHandle}
    (huse : useGl.getD 0 ≠ 0) (hdouble : doubleBuffer.getD 0 ≠ 0)
    (hlisting : Glx.Listed Extension.textureFromPixmap listing true) :
    Created visual
      (.call (.display (.visualAttribute visual .useGl)) useGl ::
        .call (.display (.visualAttribute visual .doubleBuffer)) doubleBuffer ::
        (listing ++ [.call (.display (.createContext visual)) (some context)]))
      (.ok context)

section Rules

variable {f : β → ExceptT InitError Program α}
  {P : List Event → Except Fault (Except InitError α) → Prop}

theorem ensures_isEnabled {f : Bool → ExceptT InitError Program α} {visual : VisualHandle}
    {name : VisualAttribute}
    (h : ∀ answer, (f (answer.getD 0 ≠ 0)).run.Ensures fun trace =>
      P (.call (.display (.visualAttribute visual name)) answer :: trace)) :
    (isEnabled visual name >>= f).run.Ensures P :=
  h

theorem ensures_display {request : DisplayRequest}
    {f : request.Answer → ExceptT InitError Program α}
    (h : ∀ answer, (f answer).run.Ensures fun trace =>
      P (.call (.display request) answer :: trace)) :
    (display request >>= f).run.Ensures P :=
  h

theorem ensures_gl {request : GlRequest} {f : request.Answer → ExceptT InitError Program α}
    (h : ∀ answer, (f answer).run.Ensures fun trace => P (.call (.gl request) answer :: trace)) :
    (gl request >>= f).run.Ensures P :=
  h

theorem ensures_lift {p : Program β} {Q : List Event → β → Prop} (hp : p.Returns Q)
    (hf : ∀ trace value, Q trace value →
      (f value).run.Ensures fun rest => P (trace ++ rest)) :
    (ExceptT.lift p >>= f).run.Ensures P := by
  rw [ExceptT.run_bind_lift]
  exact hp.bind hf

theorem ensures_mk {p : Program (Except InitError β)}
    {Q : List Event → Except Fault (Except InitError β) → Prop} (hp : p.Ensures Q)
    (hok : ∀ trace value, Q trace (.ok (.ok value)) →
      (f value).run.Ensures fun rest => P (trace ++ rest))
    (herror : ∀ trace cause, Q trace (.ok (.error cause)) → P trace (.ok (.error cause)))
    (hfault : ∀ trace e, Q trace (.error e) → P trace (.error e)) :
    (ExceptT.mk p >>= f).run.Ensures P := by
  apply Program.Ensures.bind hp
  · intro trace result hQ
    cases result with
    | ok value => exact hok trace value hQ
    | error cause =>
      change P (trace ++ []) _
      rw [List.append_nil]
      exact herror trace cause hQ
  · exact hfault

theorem ensures_returns {p : Program (Except InitError β)}
    {Q : List Event → Except InitError β → Prop} (hp : p.Returns Q)
    (hok : ∀ trace value, Q trace (.ok value) →
      (f value).run.Ensures fun rest => P (trace ++ rest))
    (herror : ∀ trace cause, Q trace (.error cause) → P trace (.ok (.error cause))) :
    (ExceptT.mk p >>= f).run.Ensures P := by
  apply ensures_mk hp
  · intro trace value h
    obtain ⟨_, he, hQ⟩ := h
    cases he
    exact hok trace value hQ
  · intro trace cause h
    obtain ⟨_, he, hQ⟩ := h
    cases he
    exact herror trace cause hQ
  · intro trace e h
    obtain ⟨_, he, _⟩ := h
    cases he

end Rules

theorem createContext_returns (visual : VisualHandle) :
    (createContext visual).run.Returns (Created visual) := by
  apply ensures_isEnabled
  intro useGl
  by_cases huse : useGl.getD 0 = 0
  · rw [if_pos (by simp [huse])]
    exact ⟨_, rfl, .withoutGl huse⟩
  rw [if_neg (by simp [huse])]
  apply ensures_isEnabled
  intro doubleBuffer
  by_cases hdouble : doubleBuffer.getD 0 = 0
  · rw [if_pos (by simp [hdouble])]
    exact ⟨_, rfl, .singleBuffered huse hdouble⟩
  rw [if_neg (by simp [hdouble])]
  apply ensures_lift (Glx.hasExtension_returns _)
  intro listing listed hlisting
  cases listed with
  | false =>
    have hunlisted : Created visual _ _ := .unlisted huse hdouble hlisting
    rw [← List.append_nil listing] at hunlisted
    exact ⟨_, rfl, hunlisted⟩
  | true =>
    apply ensures_display
    intro context
    cases context with
    | none => exact ⟨_, rfl, .noContext huse hdouble hlisting⟩
    | some context => exact ⟨_, rfl, .created huse hdouble hlisting⟩

inductive Acquired (screen : Screen) : List Event → Except InitError ContextHandle → Prop
  | noGlx :
    Acquired screen [.call (.display .queryExtension) false, .note .noGlx]
      (.error (.extensionMissing "GLX"))
  | noVisual :
    Acquired screen
      [.call (.display .queryExtension) true,
        .call (.display (.visualInfo screen.visual)) none, .note .noVisual]
      (.error
        (.visualUnsuitable ("no XVisualInfo for visual " ++ Text.hex screen.visual.toNat 1)))
  | visual {visual : VisualHandle} {creation : List Event}
    {result : Except InitError ContextHandle} (hcreate : Created visual creation result) :
    Acquired screen
      (.call (.display .queryExtension) true ::
        .call (.display (.visualInfo screen.visual)) (some visual) ::
        (creation ++ [.call (.display (.freeVisual visual)) ()]))
      result

theorem acquireContext_returns (screen : Screen) :
    (acquireContext screen).run.Returns (Acquired screen) := by
  apply ensures_display
  intro present
  cases present with
  | false => exact ⟨_, rfl, .noGlx⟩
  | true =>
    apply ensures_display
    intro visual
    cases visual with
    | none => exact ⟨_, rfl, .noVisual⟩
    | some visual =>
      apply ensures_lift (createContext_returns visual)
      intro creation result hcreate
      exact fun _ => ⟨result, rfl, .visual hcreate⟩

def renderStateEvents (screen : Screen) (settings : GlxSettings) (drain : List Event) :
    List Event :=
  [.call (.paint (.resize screen.width screen.height)) (),
    .call (.gl (.disable Gl.depthTest)) (),
    .call (.gl (.depthMask false)) (),
    .call (.gl (.textureEnvironment Gl.replace)) (),
    .call (.gl (.disable Gl.blend)) ()] ++
  (if settings.noStencil then [] else
    [.call (.gl (.clear Gl.stencilBufferBit)) (),
      .call (.gl (.disable Gl.stencilTest)) (),
      .call (.gl (.stencilMask 1)) (),
      .call (.gl (.stencilFunction Gl.equal 1 1)) ()]) ++
  .call (.gl (.clearColor 0 0 0 1000)) () :: drain

theorem setRenderState_returns (screen : Screen) (settings : GlxSettings) :
    (setRenderState screen settings).Returns fun trace _ =>
      ∃ drain, Gl.Emptied "render state setup" drain ∧
        trace = renderStateEvents screen settings drain := by
  cases hstencil : settings.noStencil with
  | true =>
    simp only [setRenderState, renderStateEvents, hstencil]
    intro _ _ _ _ _ _
    apply Program.Returns.bind (Gl.drainErrors_returns _)
    intro drain count h
    exact ⟨(), rfl, drain, h, by simp⟩
  | false =>
    simp only [setRenderState, renderStateEvents, hstencil]
    intro _ _ _ _ _ _ _ _ _ _
    apply Program.Returns.bind (Gl.drainErrors_returns _)
    intro drain count h
    exact ⟨(), rfl, drain, h, by simp⟩

inductive Debugged (settings : GlxSettings) : List Event → Prop
  | off (hdebug : settings.debugContext = false) : Debugged settings []
  | installed (hdebug : settings.debugContext = true) :
    Debugged settings [.call (.gl .installDebugCallback) true]
  | failed (hdebug : settings.debugContext = true) :
    Debugged settings [.call (.gl .installDebugCallback) false, .note .noDebugCallback]

/-- The events of looking for a stencil buffer, and whether painting can go without or has one. -/
inductive Stenciled (settings : GlxSettings) : List Event → Bool → Prop
  | skipped (hstencil : settings.noStencil = true) : Stenciled settings [] true
  | present {bits : Int32} (hstencil : settings.noStencil = false) (hbits : bits ≠ 0) :
    Stenciled settings [.call (.gl (.getInteger Gl.stencilBits)) bits] true
  | absent (hstencil : settings.noStencil = false) :
    Stenciled settings
      [.call (.gl (.getInteger Gl.stencilBits)) (0 : Int32), .note .noStencilBuffer]
      false

/-- The events of finding out that a current context has all it needs, and what is found. -/
inductive Equipped (settings : GlxSettings) : List Event → Bool → TexImage → Prop
  | intro {debugging stencil resolution : List Event} {names : String} {texImage : TexImage}
    (hdebug : Debugged settings debugging) (hstencil : Stenciled settings stencil true)
    (hresolve : Glx.Resolved resolution (.ok texImage)) :
    Equipped settings (debugging ++ (stencil ++ .call (.gl .extensions) names :: resolution))
      (Extension.isListed names Extension.nonPowerOfTwo) texImage

inductive Attached (screen : Screen) (settings : GlxSettings) (context : ContextHandle) :
    List Event → Except Fault (Except InitError Renderer) → Prop
  | refused :
    Attached screen settings context
      [.call (.display (.makeCurrent screen.target context)) false, .note .contextNotAttached]
      (.ok (.error .contextAttachFailed))
  | noStencil {debugging stencil : List Event} (hdebug : Debugged settings debugging)
    (hstencil : Stenciled settings stencil false) :
    Attached screen settings context
      (.call (.display (.makeCurrent screen.target context)) true :: (debugging ++ stencil))
      (.ok (.error .noStencilBuffer))
  | unresolved {debugging stencil resolution : List Event} {names : String} {cause : InitError}
    (hdebug : Debugged settings debugging) (hstencil : Stenciled settings stencil true)
    (hresolve : Glx.Resolved resolution (.error cause)) :
    Attached screen settings context
      (.call (.display (.makeCurrent screen.target context)) true ::
        (debugging ++ (stencil ++ .call (.gl .extensions) names :: resolution)))
      (.ok (.error cause))
  | overflowed {equipment selection : List Event} {anySize : Bool} {texImage : TexImage} {e : Fault}
    (hequip : Equipped settings equipment anySize texImage)
    (hselect : Selection.Selected screen.depth selection (.error e)) :
    Attached screen settings context
      (.call (.display (.makeCurrent screen.target context)) true :: (equipment ++ selection))
      (.error e)
  | noConfig {equipment selection : List Event} {anySize : Bool} {texImage : TexImage}
    {cause : InitError} (hequip : Equipped settings equipment anySize texImage)
    (hselect : Selection.Selected screen.depth selection (.ok (.error cause))) :
    Attached screen settings context
      (.call (.display (.makeCurrent screen.target context)) true :: (equipment ++ selection))
      (.ok (.error cause))
  | ready {equipment selection drain : List Event} {anySize : Bool} {texImage : TexImage}
    {configs : DepthTable} (hequip : Equipped settings equipment anySize texImage)
    (hselect : Selection.Selected screen.depth selection (.ok (.ok configs)))
    (hdrain : Gl.Emptied "render state setup" drain) :
    Attached screen settings context
      (.call (.display (.makeCurrent screen.target context)) true ::
        (equipment ++ (selection ++ renderStateEvents screen settings drain)))
      (.ok (.ok { context, anySize, configs, texImage, shaders := {}, screen, settings }))

theorem requestDebugMessages_returns (settings : GlxSettings) :
    (requestDebugMessages settings).Returns fun trace _ => Debugged settings trace := by
  unfold requestDebugMessages
  cases hdebug : settings.debugContext with
  | false => exact ⟨(), rfl, .off hdebug⟩
  | true =>
    intro installed
    cases installed with
    | false => exact ⟨(), rfl, .failed hdebug⟩
    | true => exact ⟨(), rfl, .installed hdebug⟩

theorem requireStencil_returns (settings : GlxSettings) :
    (requireStencil settings).run.Returns fun trace result =>
      (result = .ok () ∧ Stenciled settings trace true) ∨
        (result = .error .noStencilBuffer ∧ Stenciled settings trace false) := by
  unfold requireStencil
  cases hstencil : settings.noStencil with
  | true => exact ⟨_, rfl, .inl ⟨rfl, .skipped hstencil⟩⟩
  | false =>
    apply ensures_gl
    intro bits
    by_cases hbits : bits = 0
    · subst hbits
      exact ⟨_, rfl, .inr ⟨rfl, .absent hstencil⟩⟩
    · rw [if_neg hbits]
      exact ⟨_, rfl, .inl ⟨rfl, .present hstencil hbits⟩⟩

theorem attach_ensures (screen : Screen) (settings : GlxSettings) (context : ContextHandle) :
    (attach screen settings context).run.Ensures (Attached screen settings context) := by
  apply ensures_display
  intro attached
  cases attached with
  | false => exact .refused
  | true =>
    apply ensures_lift (requestDebugMessages_returns settings)
    intro debugging _ hdebug
    apply ensures_returns (requireStencil_returns settings)
    · intro stencil _ h
      obtain ⟨-, hstencil⟩ | ⟨he, -⟩ := h
      · apply ensures_gl
        intro names
        apply ensures_returns Glx.resolveTexImage_returns
        · intro resolution texImage hresolve
          have hequip : Equipped settings
              (debugging ++ (stencil ++ .call (.gl .extensions) names :: resolution))
              (Extension.isListed names Extension.nonPowerOfTwo) texImage :=
            .intro hdebug hstencil hresolve
          apply ensures_mk (Selection.select_ensures screen.depth)
          · intro selection configs hselect
            apply ensures_lift (setRenderState_returns screen settings)
            intro events _ hevents
            obtain ⟨drain, hdrain, rfl⟩ := hevents
            have h : Attached screen settings context _ _ := .ready hequip hselect hdrain
            simp only [List.append_assoc, List.cons_append] at h
            change Attached screen settings context
              (_ :: (_ ++ (_ ++ _ :: (_ ++ (_ ++ (_ ++ [])))))) _
            rw [List.append_nil]
            exact h
          · intro selection cause hselect
            have h : Attached screen settings context _ _ := .noConfig hequip hselect
            simp only [List.append_assoc, List.cons_append] at h
            exact h
          · intro selection e hselect
            have h : Attached screen settings context _ _ := .overflowed hequip hselect
            simp only [List.append_assoc, List.cons_append] at h
            exact h
        · intro resolution cause hresolve
          exact .unresolved hdebug hstencil hresolve
      · cases he
    · intro stencil cause h
      obtain ⟨he, -⟩ | ⟨he, hstencil⟩ := h
      · cases he
      · cases he
        exact .noStencil hdebug hstencil

theorem abandon_none_returns (cause : InitError) :
    (abandon cause none).Returns fun trace result =>
      result = .error cause ∧ trace = .note (.initFailed cause) :: Shaders.freeEvents {} := by
  apply Program.Returns.log
  apply Program.Returns.bind (tearDown_none_returns {})
  intro trace _ htrace
  subst htrace
  exact ⟨_, rfl, rfl, congrArg _ (List.append_nil _)⟩

theorem abandon_some_returns (cause : InitError) (context : ContextHandle) :
    (abandon cause (some context)).Returns fun trace result =>
      result = .error cause ∧ ∃ drain, Gl.Emptied "GLX deinit" drain ∧
        trace = .note (.initFailed cause) :: tearDownEvents {} context drain := by
  apply Program.Returns.log
  apply Program.Returns.bind (tearDown_some_returns {} context)
  intro trace _ htrace
  obtain ⟨drain, hdrain, rfl⟩ := htrace
  exact ⟨_, rfl, rfl, drain, hdrain, congrArg _ (List.append_nil _)⟩

end BringUp

open BringUp

inductive BroughtUp (screen : Screen) (settings : GlxSettings) :
    List Event → Except Fault (Except InitError Renderer) → Prop
  | unacquired {acquisition : List Event} {cause : InitError}
    (hacquire : Acquired screen acquisition (.error cause)) :
    BroughtUp screen settings
      (acquisition ++ .note (.initFailed cause) :: Shaders.freeEvents {})
      (.ok (.error cause))
  | unattached {acquisition attachment drain : List Event} {context : ContextHandle}
    {cause : InitError} (hacquire : Acquired screen acquisition (.ok context))
    (hattach : Attached screen settings context attachment (.ok (.error cause)))
    (hdrain : Gl.Emptied "GLX deinit" drain) :
    BroughtUp screen settings
      (acquisition ++ (attachment ++
        .note (.initFailed cause) :: tearDownEvents {} context drain))
      (.ok (.error cause))
  | overflowed {acquisition attachment : List Event} {context : ContextHandle} {e : Fault}
    (hacquire : Acquired screen acquisition (.ok context))
    (hattach : Attached screen settings context attachment (.error e)) :
    BroughtUp screen settings (acquisition ++ attachment) (.error e)
  | ready {acquisition attachment : List Event} {context : ContextHandle} {renderer : Renderer}
    (hacquire : Acquired screen acquisition (.ok context))
    (hattach : Attached screen settings context attachment (.ok (.ok renderer))) :
    BroughtUp screen settings
      (acquisition ++ (attachment ++
        [.note (.contextReady screen.target renderer.configs.size renderer.anySize)]))
      (.ok (.ok renderer))

theorem bringUp_ensures (screen : Screen) (settings : GlxSettings) :
    (bringUp screen settings).Ensures (BroughtUp screen settings) := by
  apply Program.Returns.bind (acquireContext_returns screen)
  intro acquisition result hacquire
  cases result with
  | error cause =>
    apply (abandon_none_returns cause).ensures
    intro trace result h
    obtain ⟨rfl, rfl⟩ := h
    exact .unacquired hacquire
  | ok context =>
    apply Program.Ensures.bind (attach_ensures screen settings context)
    · intro attachment result hattach
      cases result with
      | error cause =>
        apply (abandon_some_returns cause context).ensures
        intro trace result h
        obtain ⟨rfl, drain, hdrain, rfl⟩ := h
        exact .unattached hacquire hattach hdrain
      | ok renderer => exact .ready hacquire hattach
    · intro attachment e hattach
      exact .overflowed hacquire hattach

end Renderer
end Compositor
