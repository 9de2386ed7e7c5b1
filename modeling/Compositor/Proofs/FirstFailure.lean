import Compositor.Proofs.Requirement

namespace Compositor

variable {screen : Screen} {settings : GlxSettings} {trace first rest : List Event}

namespace Renderer
namespace BringUp

open Requirement

theorem Created.marks_of_ok {visual : VisualHandle} {context : ContextHandle}
    (h : Created visual trace (.ok context)) :
    marks screen trace =
      [.settled .useGl true, .settled .doubleBuffer true, .settled .textureFromPixmap true,
        .settled .context true, .contextCreated context] := by
  cases h with
  | created huse hdouble hlisting =>
    rw [marks_cons, marks_cons, marks_append, hlisting.marks_eq]
    simp [marks, Event.marks, huse, hdouble]

theorem Created.marks_of_error {visual : VisualHandle} {cause : InitError}
    (h : Created visual trace (.error cause)) :
    ∃ met failing rest,
      [useGl, doubleBuffer, textureFromPixmap, Requirement.context] = met ++ failing :: rest ∧
        cause = failing.error screen ∧
        marks screen trace = metMarks met ++ [.settled failing false] := by
  cases h with
  | withoutGl huse =>
    exact ⟨[], .useGl, _, rfl, rfl, by simp [marks, Event.marks, metMarks, huse]⟩
  | singleBuffered huse hdouble =>
    exact ⟨[.useGl], .doubleBuffer, _, rfl, rfl,
      by simp [marks, Event.marks, metMarks, huse, hdouble]⟩
  | unlisted huse hdouble hlisting =>
    refine ⟨[.useGl, .doubleBuffer], .textureFromPixmap, _, rfl, rfl, ?_⟩
    rw [marks_cons, marks_cons, hlisting.marks_eq]
    simp [Event.marks, metMarks, huse, hdouble]
  | noContext huse hdouble hlisting =>
    refine ⟨[.useGl, .doubleBuffer, .textureFromPixmap], .context, _, rfl, rfl, ?_⟩
    rw [marks_cons, marks_cons, marks_append, hlisting.marks_eq]
    simp [marks, Event.marks, metMarks, huse, hdouble]

theorem Created.any_asksConfigs {visual : VisualHandle} {result : Except InitError ContextHandle}
    (h : Created visual trace result) : trace.any Event.asksConfigs = false := by
  cases h with
  | withoutGl huse => rfl
  | singleBuffered huse hdouble => rfl
  | unlisted huse hdouble hlisting => exact hlisting.any_asksConfigs
  | noContext huse hdouble hlisting =>
    rw [List.any_cons, List.any_cons, List.any_append, hlisting.any_asksConfigs]
    rfl
  | created huse hdouble hlisting =>
    rw [List.any_cons, List.any_cons, List.any_append, hlisting.any_asksConfigs]
    rfl

theorem Acquired.any_asksConfigs {result : Except InitError ContextHandle}
    (h : Acquired screen trace result) : trace.any Event.asksConfigs = false := by
  cases h with
  | noGlx => rfl
  | noVisual => rfl
  | visual hcreate =>
    rw [List.any_cons, List.any_cons, List.any_append, hcreate.any_asksConfigs]
    rfl

theorem Acquired.marks_of_ok {context : ContextHandle} (h : Acquired screen trace (.ok context)) :
    ∃ visual, marks screen trace =
      [.settled .glx true, .settled .visual true, .visualFound visual, .settled .useGl true,
        .settled .doubleBuffer true, .settled .textureFromPixmap true, .settled .context true,
        .contextCreated context, .visualFreed visual] := by
  cases h with
  | @visual visual creation _ hcreate =>
    exists visual
    rw [marks_cons, marks_cons, marks_append, hcreate.marks_of_ok]
    simp [marks, Event.marks]

theorem Acquired.failsFirst {cause : InitError} (h : Acquired screen trace (.error cause)) :
    ∃ failing, cause = failing.error screen ∧
      FailsFirst ofContext failing ((marks screen trace).filterMap Mark.verdict?) ∧
      contexts screen trace = [] ∧
      cleanup screen trace = (visuals screen trace).map .visualFreed := by
  cases h with
  | noGlx => exact ⟨.glx, rfl, .intro [] _ rfl, rfl, rfl⟩
  | noVisual =>
    have hmarks : marks screen [.call (.display .queryExtension) true,
        .call (.display (.visualInfo screen.visual)) none, .note .noVisual] =
        [.settled .glx true, .settled .visual false] := by
      simp [marks, Event.marks]
    rw [contexts, cleanup, visuals, hmarks]
    exact ⟨.visual, rfl, .intro [.glx] _ rfl, rfl, rfl⟩
  | @visual visual creation _ hcreate =>
    obtain ⟨met, failing, rest, hasked, hcause, hcreation⟩ := hcreate.marks_of_error
    have hmarks : marks screen (.call (.display .queryExtension) true ::
        .call (.display (.visualInfo screen.visual)) (some visual) ::
          (creation ++ [.call (.display (.freeVisual visual)) ()])) =
        metMarks [.glx, .visual] ++ ([.visualFound visual] ++
          (metMarks met ++ [.settled failing false, .visualFreed visual])) := by
      rw [marks_cons, marks_cons, marks_append, hcreation]
      simp [marks, Event.marks, metMarks]
    have hordered : ofContext = ([.glx, .visual] ++ met) ++ failing :: rest := by
      rw [List.append_assoc, ← hasked]
      rfl
    rw [contexts, cleanup, visuals, hmarks]
    refine ⟨failing, hcause, ?_, ?_, ?_⟩
    · have hfails := FailsFirst.intro _ _ hordered
      rw [List.map_append, List.append_assoc] at hfails
      simp only [List.filterMap_append, filterMap_verdict?_metMarks]
      exact hfails
    · simp only [List.filterMap_append, filterMap_context?_metMarks]
      rfl
    · simp only [List.filterMap_append, List.filter_append, filterMap_visual?_metMarks,
        filter_isCleanup_metMarks]
      rfl

theorem Debugged.marks_eq_nil (h : Debugged settings trace) : marks screen trace = [] := by
  cases h <;> rfl

theorem Stenciled.marks_of_true (h : Stenciled settings trace true) :
    marks screen trace = metMarks (if settings.noStencil then [] else [.stencil]) := by
  cases h with
  | skipped hstencil => simp [marks, metMarks, hstencil]
  | present hstencil hbits => simp [marks, Event.marks, metMarks, hstencil, hbits]

theorem Stenciled.marks_of_false (screen : Screen) (h : Stenciled settings trace false) :
    settings.noStencil = false ∧ marks screen trace = [.settled .stencil false] := by
  cases h with
  | absent hstencil => exact ⟨hstencil, by simp [marks, Event.marks]⟩

theorem Resolved.marks_of_ok {texImage : TexImage} (h : Glx.Resolved trace (.ok texImage)) :
    marks screen trace = metMarks [.bindEntry, .releaseEntry] := by
  cases h with
  | found =>
    simp [marks, Event.marks, metMarks, Extension.bindTexImage, Extension.releaseTexImage]

theorem Resolved.marks_of_error (screen : Screen) {cause : InitError}
    (h : Glx.Resolved trace (.error cause)) :
    ∃ met failing rest, [bindEntry, releaseEntry] = met ++ failing :: rest ∧
      cause = failing.error screen ∧
      marks screen trace = metMarks met ++ [.settled failing false] := by
  cases h with
  | noBind =>
    exact ⟨[], .bindEntry, _, rfl, rfl, by simp [marks, Event.marks, metMarks]⟩
  | noRelease =>
    exact ⟨[.bindEntry], .releaseEntry, _, rfl, rfl,
      by simp [marks, Event.marks, metMarks, Extension.bindTexImage, Extension.releaseTexImage]⟩

theorem Equipped.marks_eq {anySize : Bool} {texImage : TexImage}
    (h : Equipped settings trace anySize texImage) :
    .settled .current true :: marks screen trace = metMarks (ofAttachment settings) := by
  obtain ⟨hdebug, hstencil, hresolve⟩ := h
  rw [marks_append, marks_append, marks_cons, hdebug.marks_eq_nil, hstencil.marks_of_true,
    Resolved.marks_of_ok hresolve]
  simp [Event.marks, metMarks, ofAttachment]

theorem marks_renderStateEvents {drain : List Event}
    (hdrain : Gl.Emptied "render state setup" drain) :
    marks screen (renderStateEvents screen settings drain) = [] := by
  cases hstencil : settings.noStencil with
  | true =>
    simp only [renderStateEvents, hstencil, if_true]
    exact hdrain.marks_eq_nil
  | false =>
    simp only [renderStateEvents, hstencil]
    exact hdrain.marks_eq_nil

theorem Debugged.any_asksConfigs (h : Debugged settings trace) :
    trace.any Event.asksConfigs = false := by
  cases h <;> rfl

theorem Stenciled.any_asksConfigs {usable : Bool} (h : Stenciled settings trace usable) :
    trace.any Event.asksConfigs = false := by
  cases h <;> rfl

theorem Resolved.any_asksConfigs {result : Except InitError TexImage}
    (h : Glx.Resolved trace result) : trace.any Event.asksConfigs = false := by
  cases h <;> rfl

theorem Equipped.any_asksConfigs {anySize : Bool} {texImage : TexImage}
    (h : Equipped settings trace anySize texImage) : trace.any Event.asksConfigs = false := by
  obtain ⟨hdebug, hstencil, hresolve⟩ := h
  rw [List.any_append, List.any_append, List.any_cons, hdebug.any_asksConfigs,
    hstencil.any_asksConfigs, Resolved.any_asksConfigs hresolve]
  rfl

theorem Selected.table?_append {depth : UInt8}
    {outcome : Except Fault (Except InitError DepthTable)}
    (h : Selection.Selected depth trace outcome) :
    match outcome with
    | .ok (.ok table) => (∀ rest, table? (trace ++ rest) = some (.ok table)) ∧
        table.contains depth = true
    | .ok (.error cause) => cause = .noConfigForDepth depth ∧ ∃ table,
        (∀ rest, table? (trace ++ rest) = some (.ok table)) ∧ table.contains depth = false
    | .error e =>
      e = .subOverflow ∧ ∀ rest, table? (trace ++ rest) = some (.error .subOverflow) := by
  cases h with
  | overflow h =>
    obtain rfl := h.overflow _ rfl
    exact ⟨rfl, h.table?_append⟩
  | @missing trace table h hdepth =>
    have htable (rest : List Event) :
        table? (trace ++ [.note (.noConfigForDefault depth)] ++ rest) = some (.ok table) := by
      rw [List.append_assoc]
      exact h.table?_append _
    exact ⟨rfl, table, htable, hdepth⟩
  | @found trace notes table h hdepth hnotes =>
    have htable (rest : List Event) : table? (trace ++ notes ++ rest) = some (.ok table) := by
      rw [List.append_assoc]
      exact h.table?_append _
    exact ⟨htable, hdepth⟩

theorem marks_attach (context : ContextHandle) (attached : Bool) (rest : List Event) :
    marks screen (.call (.display (.makeCurrent screen.target context)) attached :: rest) =
      .settled .current attached :: marks screen rest := by
  rw [marks_cons]
  simp [Event.marks]

theorem Equipped.marks_attached {anySize : Bool} {texImage : TexImage} {context : ContextHandle}
    (h : Equipped settings first anySize texImage) (hrest : marks screen rest = []) :
    marks screen (.call (.display (.makeCurrent screen.target context)) true :: (first ++ rest)) =
      metMarks (ofAttachment settings) := by
  rw [marks_attach, marks_append, hrest, List.append_nil, h.marks_eq]

/-- With everything that has to be there before, the configurations decide. -/
theorem Equipped.table?_attached {anySize : Bool} {texImage : TexImage} {context : ContextHandle}
    (h : Equipped settings first anySize texImage) (others : List Event) :
    table? (.call (.display (.makeCurrent screen.target context)) true :: (first ++ rest) ++
      others) = table? (rest ++ others) := by
  have hbefore : (.call (.display (.makeCurrent screen.target context)) true :: first :
      List Event).any Event.asksConfigs = false := h.any_asksConfigs
  rw [List.cons_append, List.append_assoc]
  exact table?_append hbefore

theorem Attached.marks_of_ok {context : ContextHandle} {renderer : Renderer}
    (h : Attached screen settings context trace (.ok (.ok renderer))) :
    renderer.context = context ∧ marks screen trace = metMarks (ofAttachment settings) ∧
      ∀ rest, configVerdict? screen (trace ++ rest) = some (.config, true) := by
  cases h with
  | @ready equipment selection drain _ _ configs hequip hselect hdrain =>
    obtain ⟨htable, hdepth⟩ := Selected.table?_append hselect
    have hnone : marks screen (selection ++ renderStateEvents screen settings drain) = [] := by
      rw [marks_append, hselect.marks_eq_nil, marks_renderStateEvents hdrain]
      rfl
    have hconfig : ∀ rest, configVerdict? screen
        (.call (.display (.makeCurrent screen.target context)) true ::
          (equipment ++ (selection ++ renderStateEvents screen settings drain)) ++ rest) =
        some (.config, true) := by
      intro rest
      rw [configVerdict?, hequip.table?_attached, List.append_assoc, htable]
      simp only [hdepth]
    exact ⟨rfl, hequip.marks_attached hnone, hconfig⟩

/-- Attaching comes to an end at a requirement that is not met. It obtains and frees nothing. -/
structure StopsAt (screen : Screen) (settings : GlxSettings) (failing : Requirement)
    (trace : List Event) : Prop where
  visuals_eq : visuals screen trace = []
  contexts_eq : contexts screen trace = []
  cleanup_eq : cleanup screen trace = []
  failsFirst : ∀ rest, rest.any Event.asksConfigs = false →
    FailsFirst (ofAttachment settings ++ [.config]) failing
      ((marks screen trace).filterMap Mark.verdict? ++
        (configVerdict? screen (trace ++ rest)).toList)

theorem stopsAt_of_metMarks {met others : List Requirement} {failing : Requirement}
    (hmarks : marks screen trace = metMarks met ++ [.settled failing false])
    (hasked : ofAttachment settings ++ [.config] = met ++ failing :: others)
    (hbefore : trace.any Event.asksConfigs = false) : StopsAt screen settings failing trace := by
  constructor
  · rw [visuals, hmarks, List.filterMap_append, filterMap_visual?_metMarks]
    rfl
  · rw [contexts, hmarks, List.filterMap_append, filterMap_context?_metMarks]
    rfl
  · rw [cleanup, hmarks, List.filter_append, filter_isCleanup_metMarks]
    rfl
  · intro rest hrest
    have hconfig : configVerdict? screen (trace ++ rest) = none := by
      rw [configVerdict?, table?_append hbefore, table?_eq_none hrest]
    rw [hmarks, hconfig, hasked, List.filterMap_append, filterMap_verdict?_metMarks,
      Option.toList_none, List.append_nil]
    exact .intro met others rfl

theorem Stenciled.stopsAt {debugging stencil : List Event} {context : ContextHandle}
    (hdebug : Debugged settings debugging) (hstencil : Stenciled settings stencil false) :
    StopsAt screen settings .stencil
      (.call (.display (.makeCurrent screen.target context)) true :: (debugging ++ stencil)) := by
  obtain ⟨hneeded, hstencilMarks⟩ := hstencil.marks_of_false screen
  have hmarks : marks screen
      (.call (.display (.makeCurrent screen.target context)) true :: (debugging ++ stencil)) =
      metMarks [.current] ++ [.settled .stencil false] := by
    rw [marks_attach, marks_append, hdebug.marks_eq_nil, hstencilMarks]
    rfl
  have hasked : ofAttachment settings ++ [.config] =
      [.current] ++ .stencil :: [.bindEntry, .releaseEntry, .config] := by
    simp [ofAttachment, hneeded]
  apply stopsAt_of_metMarks hmarks hasked
  rw [List.any_cons, List.any_append, hdebug.any_asksConfigs, hstencil.any_asksConfigs]
  rfl

theorem Resolved.stopsAt {debugging stencil resolution : List Event} {names : String}
    {context : ContextHandle} {cause : InitError} (hdebug : Debugged settings debugging)
    (hstencil : Stenciled settings stencil true)
    (hresolve : Glx.Resolved resolution (.error cause)) :
    ∃ failing, cause = failing.error screen ∧ StopsAt screen settings failing
      (.call (.display (.makeCurrent screen.target context)) true ::
        (debugging ++ (stencil ++ .call (.gl .extensions) names :: resolution))) := by
  obtain ⟨met, failing, others, hentries, hcause, hresolution⟩ :=
    Resolved.marks_of_error screen hresolve
  have hmarks : marks screen (.call (.display (.makeCurrent screen.target context)) true ::
      (debugging ++ (stencil ++ .call (.gl .extensions) names :: resolution))) =
      metMarks (.current :: (if settings.noStencil then [] else [.stencil]) ++ met) ++
        [.settled failing false] := by
    rw [marks_attach, marks_append, marks_append, marks_cons, hdebug.marks_eq_nil,
      hstencil.marks_of_true, hresolution]
    simp [Event.marks, metMarks]
  have hasked : ofAttachment settings ++ [.config] =
      (.current :: (if settings.noStencil then [] else [.stencil]) ++ met) ++
        failing :: (others ++ [.config]) := by
    rw [ofAttachment, hentries]
    simp
  have hbefore : (.call (.display (.makeCurrent screen.target context)) true ::
      (debugging ++ (stencil ++ .call (.gl .extensions) names :: resolution)) :
        List Event).any Event.asksConfigs = false := by
    rw [List.any_cons, List.any_append, List.any_append, List.any_cons, hdebug.any_asksConfigs,
      hstencil.any_asksConfigs, Resolved.any_asksConfigs hresolve]
    rfl
  exact ⟨failing, hcause, stopsAt_of_metMarks hmarks hasked hbefore⟩

theorem Selected.stopsAt {equipment selection : List Event} {anySize : Bool} {texImage : TexImage}
    {context : ContextHandle} {cause : InitError}
    (hequip : Equipped settings equipment anySize texImage)
    (hselect : Selection.Selected screen.depth selection (.ok (.error cause))) :
    cause = Requirement.config.error screen ∧ StopsAt screen settings .config
      (.call (.display (.makeCurrent screen.target context)) true ::
        (equipment ++ selection)) := by
  obtain ⟨hcause, table, htable, hdepth⟩ := Selected.table?_append hselect
  have hmarks : marks screen (.call (.display (.makeCurrent screen.target context)) true ::
      (equipment ++ selection)) = metMarks (ofAttachment settings) :=
    hequip.marks_attached hselect.marks_eq_nil
  constructor
  · exact hcause
  constructor
  · rw [visuals, hmarks, filterMap_visual?_metMarks]
  · rw [contexts, hmarks, filterMap_context?_metMarks]
  · rw [cleanup, hmarks, filter_isCleanup_metMarks]
  · intro rest _
    rw [hmarks, configVerdict?, hequip.table?_attached, htable, filterMap_verdict?_metMarks]
    simp only [hdepth]
    exact .intro _ [] rfl

theorem Attached.stopsAt {context : ContextHandle} {cause : InitError}
    (h : Attached screen settings context trace (.ok (.error cause))) :
    ∃ failing, cause = failing.error screen ∧ StopsAt screen settings failing trace := by
  cases h with
  | refused =>
    have hmarks : marks screen
        [.call (.display (.makeCurrent screen.target context)) false, .note .contextNotAttached] =
        metMarks [] ++ [.settled .current false] := marks_attach context false _
    exact ⟨.current, rfl, stopsAt_of_metMarks hmarks rfl rfl⟩
  | noStencil hdebug hstencil => exact ⟨.stencil, rfl, Stenciled.stopsAt hdebug hstencil⟩
  | unresolved hdebug hstencil hresolve => exact Resolved.stopsAt hdebug hstencil hresolve
  | noConfig hequip hselect => exact ⟨.config, Selected.stopsAt hequip hselect⟩

theorem Attached.table?_of_fault {context : ContextHandle} {e : Fault}
    (h : Attached screen settings context trace (.error e)) :
    e = .subOverflow ∧ ∀ rest, table? (trace ++ rest) = some (.error .subOverflow) := by
  cases h with
  | overflowed hequip hselect =>
    obtain ⟨rfl, htable⟩ := Selected.table?_append hselect
    constructor
    · rfl
    · intro rest
      rw [hequip.table?_attached, htable]

end BringUp

open BringUp Requirement

theorem BroughtUp.of_ok {renderer : Renderer}
    (h : BroughtUp screen settings trace (.ok (.ok renderer))) :
    verdicts screen trace = (asked settings).map (·, true) ∧
      contexts screen trace = [renderer.context] ∧
      cleanup screen trace = (visuals screen trace).map .visualFreed := by
  cases h with
  | @ready acquisition attachment context renderer hacquire hattach =>
    obtain ⟨visual, hacquired⟩ := hacquire.marks_of_ok
    obtain ⟨rfl, hattached, hconfig⟩ := hattach.marks_of_ok
    have hmarks : marks screen (acquisition ++ (attachment ++
        [.note (.contextReady screen.target renderer.configs.size renderer.anySize)])) =
        marks screen acquisition ++ metMarks (ofAttachment settings) := by
      rw [marks_append, marks_append, hattached]
      exact congrArg _ (List.append_nil _)
    rw [verdicts, configVerdict?_append hacquire.any_asksConfigs, hconfig, contexts, cleanup,
      visuals, hmarks, hacquired, asked]
    simp only [List.filterMap_append, List.filter_append, List.map_append,
      filterMap_verdict?_metMarks, filterMap_visual?_metMarks, filterMap_context?_metMarks,
      filter_isCleanup_metMarks]
    exact ⟨rfl, rfl, rfl⟩

theorem BroughtUp.failsFirst {cause : InitError}
    (h : BroughtUp screen settings trace (.ok (.error cause))) :
    ∃ failing, cause = failing.error screen ∧
      FailsFirst (asked settings) failing (verdicts screen trace) ∧
      cleanup screen trace = (visuals screen trace).map .visualFreed ++ Shaders.marks {} ++
        (contexts screen trace).map .contextDestroyed := by
  cases h with
  | @unacquired acquisition cause hacquire =>
    obtain ⟨failing, hcause, hfails, hcontexts, hcleanup⟩ := hacquire.failsFirst
    have hmarks : marks screen (acquisition ++ .note (.initFailed cause) :: Shaders.freeEvents {}) =
        marks screen acquisition ++ Shaders.marks {} := by
      rw [marks_append, marks_cons, Shaders.marks_freeEvents]
      rfl
    have hconfig : configVerdict? screen
        (acquisition ++ .note (.initFailed cause) :: Shaders.freeEvents {}) = none :=
      configVerdict?_append hacquire.any_asksConfigs
    have hasked := hfails.append (ofAttachment settings ++ [.config])
    rw [← List.append_assoc] at hasked
    refine ⟨failing, hcause, ?_, ?_⟩
    · rw [verdicts, hconfig, hmarks, List.filterMap_append, Shaders.filterMap_verdict?_marks,
        List.append_nil, Option.toList_none, List.append_nil]
      exact hasked
    · rw [cleanup, visuals, contexts] at *
      rw [hmarks]
      simp only [List.filterMap_append, List.filter_append, hcleanup, hcontexts,
        Shaders.filterMap_visual?_marks, Shaders.filterMap_context?_marks,
        Shaders.filter_isCleanup_marks, List.append_nil, List.map_nil]
  | @unattached acquisition attachment drain context cause hacquire hattach hdrain =>
    obtain ⟨visual, hacquired⟩ := hacquire.marks_of_ok
    obtain ⟨failing, hcause, hvisuals, hcontexts, hcleanup, hfails⟩ := hattach.stopsAt
    have hmarks : marks screen (acquisition ++ (attachment ++
        .note (.initFailed cause) :: tearDownEvents {} context drain)) =
        marks screen acquisition ++ (marks screen attachment ++
          (Shaders.marks {} ++ [.contextDestroyed context])) := by
      rw [marks_append, marks_append, marks_cons, marks_tearDownEvents _ _ _ hdrain]
      rfl
    have hrest : (.note (.initFailed cause) :: tearDownEvents {} context drain : List Event).any
        Event.asksConfigs = false := by
      rw [List.any_cons, any_asksConfigs_tearDownEvents context hdrain]
      rfl
    have hasked := (hfails _ hrest).after ofContext
    rw [← List.append_assoc] at hasked
    refine ⟨failing, hcause, ?_, ?_⟩
    · rw [verdicts, configVerdict?_append hacquire.any_asksConfigs, hmarks, hacquired]
      simp only [List.filterMap_append, List.append_assoc]
      exact hasked
    · rw [cleanup, visuals, contexts] at *
      rw [hmarks, hacquired]
      simp only [List.filterMap_append, List.filter_append, hcleanup, hvisuals, hcontexts]
      rfl

theorem BroughtUp.of_fault {e : Fault} (h : BroughtUp screen settings trace (.error e)) :
    e = .subOverflow ∧ table? trace = some (.error .subOverflow) := by
  cases h with
  | overflowed hacquire hattach =>
    obtain ⟨rfl, htable⟩ := hattach.table?_of_fault
    have hattached := htable []
    rw [List.append_nil] at hattached
    rw [table?_append hacquire.any_asksConfigs]
    exact ⟨rfl, hattached⟩

/-- A renderer comes up exactly if every requirement is met. Else the first one that is not met is
reported, and all that was obtained is freed once: the visual, the shader programs, and then the
context. Nothing but filling the depth table can overflow. -/
theorem bringUp_settled (driver : Driver σ) (state : σ) (screen : Screen)
    (settings : GlxSettings) :
    let run := (bringUp screen settings).run driver state
    match run.outcome with
    | .ok (.ok renderer) =>
      verdicts screen run.trace = (asked settings).map (·, true) ∧
        contexts screen run.trace = [renderer.context] ∧
        cleanup screen run.trace = (visuals screen run.trace).map .visualFreed ∧
        live run.trace = {.context renderer.context}
    | .ok (.error cause) =>
      (∃ failing, cause = failing.error screen ∧
        FailsFirst (asked settings) failing (verdicts screen run.trace)) ∧
        cleanup screen run.trace =
          (visuals screen run.trace).map .visualFreed ++
            (List.replicate 5 (.blurFreed {}) ++ [.windowFreed {}]) ++
            (contexts screen run.trace).map .contextDestroyed ∧
        live run.trace = 0
    | .error e => e = .subOverflow ∧ table? run.trace = some (.error .subOverflow) := by
  have hrun := (bringUp_ensures screen settings).run driver state
  dsimp only
  split
  · next renderer houtcome =>
    rw [houtcome] at hrun
    obtain ⟨hverdicts, hcontexts, hcleanup⟩ := hrun.of_ok
    exact ⟨hverdicts, hcontexts, hcleanup, Ledger.live_eq hrun.accepts_of_ok⟩
  · next cause houtcome =>
    rw [houtcome] at hrun
    obtain ⟨failing, hcause, hfails, hcleanup⟩ := hrun.failsFirst
    exact ⟨⟨failing, hcause, hfails⟩, hcleanup, Ledger.live_eq hrun.accepts_of_error⟩
  · next e houtcome =>
    rw [houtcome] at hrun
    exact hrun.of_fault

end Renderer
end Compositor
