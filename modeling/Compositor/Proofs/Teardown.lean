import Compositor.Proofs.Tenure

namespace Compositor

/-- What is asked for to give a native pixmap up. -/
def NativePixmap.freeing : NativePixmap → List Request
  | .owned pixmap => [.display (.freePixmap pixmap)]
  | .borrowed _ => []

namespace WindowTexture

/-- What is asked for to refresh a texture. -/
def refreshing (t : WindowTexture) (bind : EntryPoint) (bridge : BridgePixmap) : List Request :=
  [.gl (.bindTexture t.target (some t.texture)), .display (.bindTexImage bind bridge),
    .gl (.bindTexture t.target none)]

/-- What is asked for to give a texture up: the image, the bridge, the texture and the pixmap. -/
def ending (t : WindowTexture) (release : EntryPoint) (bridge : BridgePixmap) : List Request :=
  [.gl (.bindTexture t.target (some t.texture)), .display (.releaseTexImage release bridge),
    .gl (.bindTexture t.target none), .display (.destroyBridge bridge),
    .gl (.deleteTexture t.texture)] ++ t.pixmap.freeing

end WindowTexture

/-- What is asked for to give shader programs up. -/
def Shaders.freeing (shaders : Shaders) : List Request :=
  shaders.blur.toList.map (fun program => .paint (.freeBlurProgram program)) ++
    [.paint (.freeWindowProgram shaders.window)]

/-- Whether a shader program or a context is given up. -/
def Request.isFinal : Request → Bool
  | .paint (.freeBlurProgram _) | .paint (.freeWindowProgram _)
  | .display (.destroyContext _) => true
  | _ => false

/-- A turn that leaves a window its texture. If it is about this window, it refreshes or paints the
texture or asks for nothing. -/
structure Turn.Keeps (turn : Turn) (window : XId) (texture : WindowTexture) : Prop where
  before : turn.before.texture? window = some texture
  after : turn.after.texture? window = some texture
  uses : turn.operation.shown? = some window →
    actions turn.trace = [] ∨
    (∃ bridge, texture.bridge = some bridge ∧
      actions turn.trace = texture.refreshing turn.before.renderer.texImage.bind bridge) ∨
    ∃ x y clip, actions turn.trace = [.paint (.drawQuad (texture.quad x y) clip)]

/-- A turn that takes a window's texture away. That comes first; what follows is for the texture
that the window is to have next. -/
structure Turn.Ends (turn : Turn) (window : XId) (texture : WindowTexture) : Prop where
  before : turn.before.texture? window = some texture
  splits : ∃ bridge ending next, texture.bridge = some bridge ∧ turn.trace = ending ++ next ∧
    actions ending = texture.ending turn.before.renderer.texImage.release bridge ∧
    (next = [] ∨ ∃ wanted result, turn.operation = .prepare wanted ∧
      WindowTexture.Created turn.before.renderer wanted next result)
  unrefreshed : ∀ entry bridge, .display (.bindTexImage entry bridge) ∉ actions turn.trace

/-- What becomes of the textures that the turns give to windows, from the first turn on to the
backend that they lead to. -/
structure Tended (turns : List Turn) (backend : Backend) : Prop where
  granted : ∀ turn ∈ turns, ∀ wanted, turn.operation = .prepare wanted →
    turn.outcome = .ok (.window (.ok ())) → ∃ texture, turn.Grants wanted.id texture
  kept : ∀ before birth during rest window texture,
    turns = before ++ birth :: (during ++ rest) → birth.Grants window texture →
    (∀ turn ∈ during, turn.operation.vacated? ≠ some window) →
    (∀ turn ∈ during, turn.Keeps window texture) ∧
      (rest = [] → backend.texture? window = some texture) ∧
      ∀ last later, rest = last :: later → last.operation.vacated? = some window →
        last.Ends window texture
  refreshed : ∀ earlier turn later entry bridge, turns = earlier ++ turn :: later →
    .display (.bindTexImage entry bridge) ∈ actions turn.trace →
    ∃ window texture, turn.operation = .render window ∧
      turn.before.texture? window = some texture ∧ texture.bridge = some bridge ∧
      HeldSince earlier window texture

/-- The end of a backend: the textures that are left, then the shader programs, then the context. -/
inductive Backend.Closed (backend : Backend) (order : DrainOrder) (shaders : Shaders) :
    List Event → Prop
  | intro {opening closing : List Event} {endings : List (List Event)}
    (hopening : actions opening = [])
    (hendings : List.Forall₂ (fun texture ending => ∃ bridge, texture.bridge = some bridge ∧
      actions ending = texture.ending backend.renderer.texImage.release bridge)
      (order.arrange backend.textures.values) endings)
    (hclosing : actions closing =
      shaders.freeing ++ [.display (.destroyContext backend.renderer.context)]) :
    Closed backend order shaders (opening ++ (endings.flatten ++ closing))

def Operation.shaders? : Operation → Option Shaders
  | .keepShaders shaders => some shaders
  | _ => none

/-- The shader programs as they were left last. -/
def lastShaders (operations : List Operation) : Shaders :=
  (operations.filterMap Operation.shaders?).getLast?.getD {}

variable {trace : List Event} {start finish : Backend} {turns : List Turn} {turn : Turn}
  {window : XId} {texture : WindowTexture}

namespace WindowTexture

theorem actions_refreshEvents (t : WindowTexture) (bind : EntryPoint) (bridge : BridgePixmap)
    {drain : List Event} (hdrain : Gl.Emptied "bind pixmap" drain) :
    actions (t.refreshEvents bind bridge drain) = t.refreshing bind bridge := by
  rw [refreshEvents, actions_append, hdrain.actions_eq_nil]
  rfl

theorem actions_destroyEvents {t : WindowTexture} (release : EntryPoint) {bridge : BridgePixmap}
    (hbridge : t.bridge = some bridge) {drain : List Event}
    (hdrain : Gl.Emptied "release pixmap" drain) :
    actions (t.destroyEvents release drain) = t.ending release bridge := by
  obtain ⟨window, pixmap, _, texture, target, width, height, yInverted⟩ := t
  cases hbridge
  simp only [destroyEvents, Holdings.giveBackEvents, actions_append, hdrain.actions_eq_nil]
  cases pixmap <;> rfl

end WindowTexture

namespace Backend

theorem AllBound.exists_bridge {backend : Backend} (h : backend.AllBound)
    (htexture : backend.texture? window = some texture) :
    ∃ bridge, texture.bridge = some bridge :=
  Option.isSome_iff_exists.1 (h window texture htexture)

theorem Cleared.ends {backend cleared : Backend} {clearing : List Event} (hbound : backend.AllBound)
    (h : backend.Cleared window clearing cleared)
    (htexture : backend.texture? window = some texture) :
    ∃ bridge, texture.bridge = some bridge ∧
      actions clearing = texture.ending backend.renderer.texImage.release bridge := by
  cases h with
  | absent habsent =>
    rw [habsent] at htexture
    cases htexture
  | stale hstale hdrain =>
    rw [htexture] at hstale
    cases hstale
    obtain ⟨bridge, hbridge⟩ := hbound.exists_bridge htexture
    exact ⟨bridge, hbridge, WindowTexture.actions_destroyEvents _ hbridge hdrain⟩

end Backend

theorem Turn.Moves.unrefreshed (h : turn.Moves) (hvacated : turn.operation.vacated? = some window)
    (entry : EntryPoint) (bridge : BridgePixmap) :
    .display (.bindTexImage entry bridge) ∉ actions turn.trace := by
  intro hrefresh
  have hprovides := of_mem_requests (Backend.Move.all_provides h hvacated)
  cases hprovides _ (mem_requests_of_mem_actions hrefresh)

theorem Turn.Moves.ends (h : turn.Moves) (hbound : turn.before.AllBound)
    (hbefore : turn.before.texture? window = some texture)
    (hvacated : turn.operation.vacated? = some window) : turn.Ends window texture := by
  refine ⟨hbefore, ?_, h.unrefreshed hvacated⟩
  obtain ⟨backend, operation, trace, outcome, next⟩ := turn
  change backend.Move operation trace outcome next at h
  cases h with
  | @prepared wanted clearing creation cleared texture hclear hcreate =>
    cases hvacated
    obtain ⟨bridge, hbridge, hending⟩ := hclear.ends hbound hbefore
    exact ⟨bridge, clearing, creation, hbridge, rfl, hending, .inr ⟨wanted, _, rfl, hcreate⟩⟩
  | @refused wanted clearing creation cleared cause hclear hcreate =>
    cases hvacated
    obtain ⟨bridge, hbridge, hending⟩ := hclear.ends hbound hbefore
    exact ⟨bridge, clearing, creation, hbridge, rfl, hending, .inr ⟨wanted, _, rfl, hcreate⟩⟩
  | released htexture hdrain =>
    cases hvacated
    rw [hbefore] at htexture
    cases htexture
    obtain ⟨bridge, hbridge⟩ := hbound.exists_bridge hbefore
    exact ⟨bridge, _, [], hbridge, (List.append_nil _).symm,
      WindowTexture.actions_destroyEvents _ hbridge hdrain, .inl rfl⟩
  | @unknown operation absent hshown habsent =>
    cases operation with
    | release released =>
      cases hvacated
      cases hshown
      rw [hbefore] at habsent
      cases habsent
    | prepare wanted => cases hshown
    | _ => cases hvacated
  | _ => cases hvacated

theorem Turn.Moves.keeps (h : turn.Moves)
    (hbefore : turn.before.texture? window = some texture)
    (hkept : turn.operation.vacated? ≠ some window) : turn.Keeps window texture := by
  refine ⟨hbefore, (Backend.Move.texture?_eq h hkept).trans hbefore, ?_⟩
  intro hshown
  obtain ⟨backend, operation, trace, outcome, next⟩ := turn
  change backend.Move operation trace outcome next at h
  cases h with
  | @rendered shown other bridge drain htexture hbridge hdrain =>
    cases hshown
    rw [hbefore] at htexture
    cases htexture
    exact .inr (.inl ⟨bridge, hbridge, WindowTexture.actions_refreshEvents _ _ _ hdrain⟩)
  | @composed shown x y lower clip flipped other htexture hbound hplace =>
    cases hshown
    rw [hbefore] at htexture
    cases htexture
    exact .inr (.inr ⟨x, lower, flipped, rfl⟩)
  | released htexture hdrain => exact absurd hshown hkept
  | prepared hclear hcreate => cases hshown
  | refused hclear hcreate => cases hshown
  | presented => cases hshown
  | tracked hswap => cases hshown
  | resized => cases hshown
  | _ => exact .inl rfl

theorem Turn.Moves.refreshes (h : turn.Moves) {entry : EntryPoint} {bridge : BridgePixmap}
    (hrefresh : .display (.bindTexImage entry bridge) ∈ actions turn.trace) :
    ∃ window texture, turn.operation = .render window ∧
      turn.before.texture? window = some texture ∧ texture.bridge = some bridge := by
  have hkept : ∀ window, turn.operation.vacated? ≠ some window := by
    intro window hvacated
    exact h.unrefreshed hvacated entry bridge hrefresh
  obtain ⟨backend, operation, trace, outcome, next⟩ := turn
  change backend.Move operation trace outcome next at h
  cases h with
  | prepared hclear hcreate => exact absurd rfl (hkept _)
  | refused hclear hcreate => exact absurd rfl (hkept _)
  | released htexture hdrain => exact absurd rfl (hkept _)
  | @rendered window texture bound drain htexture hbridge hdrain =>
    rw [WindowTexture.actions_refreshEvents _ _ _ hdrain] at hrefresh
    rcases List.mem_cons.1 hrefresh with hbind | hrefresh
    · cases hbind
    rcases List.mem_pair.1 hrefresh with hrefresh | hunbind
    · cases hrefresh
      exact ⟨window, texture, rfl, htexture, hbridge⟩
    · cases hunbind
  | _ => simp [actions, Event.action?] at hrefresh

theorem Turn.Moves.exists_grants (h : turn.Moves) {wanted : Window}
    (hasked : turn.operation = .prepare wanted)
    (hsucceeds : turn.outcome = .ok (.window (.ok ()))) :
    ∃ texture, turn.Grants wanted.id texture := by
  obtain ⟨backend, operation, trace, outcome, next⟩ := turn
  change backend.Move operation trace outcome next at h
  cases hasked
  cases h with
  | @prepared _ clearing creation cleared texture hclear hcreate =>
    refine ⟨texture, ⟨wanted, rfl, rfl⟩, rfl, ?_⟩
    rw [Backend.texture?_withTexture, if_pos rfl]
  | refused hclear hcreate => cases hsucceeds
  | unknown hshown habsent => cases hshown

theorem Chained.allBound (h : Chained start turns finish) (hstart : start.AllBound) :
    finish.AllBound :=
  h.induction hstart fun _ _ hmoves => hmoves.allBound

/-- Turns tend the textures that they give, if there were none to begin with. -/
theorem Chained.tended (h : Chained start turns finish)
    (hempty : ∀ window, start.texture? window = none) : Tended turns finish := by
  have hbound : start.AllBound := by
    intro window texture htexture
    rw [hempty] at htexture
    cases htexture
  constructor
  case granted =>
    intro turn hturn wanted hasked hsucceeds
    obtain ⟨first, rest, rfl⟩ := List.append_of_mem hturn
    exact h.moves.exists_grants hasked hsucceeds
  case kept =>
    intro before birth during rest window texture hturns hgrants hduring
    subst hturns
    -- the texture is there from the turn that gives it to the end of those that keep it
    obtain ⟨given, -, -, -, hlater⟩ := chained_append.1 h
    obtain ⟨middle, hkept, hrest⟩ := chained_append.1 hlater
    have hmiddle : middle.texture? window = some texture :=
      (hkept.texture?_eq hduring).trans hgrants.after
    refine ⟨?_, ?_, ?_⟩
    · intro turn hturn
      have hbefore := (hkept.texture?_of_mem hduring turn hturn).1.trans hgrants.after
      obtain ⟨earlier, later, rfl⟩ := List.append_of_mem hturn
      exact hkept.moves.keeps hbefore (hduring turn hturn)
    · intro hnone
      subst hnone
      cases hrest
      exact hmiddle
    · intro last later hlast hvacated
      subst hlast
      obtain ⟨rfl, hmoves, -⟩ := hrest
      rw [← List.cons_append, ← List.append_assoc] at h
      exact hmoves.ends (h.before.allBound hbound) hmiddle hvacated
  case refreshed =>
    intro earlier turn later entry bridge hturns hrefresh
    subst hturns
    obtain ⟨window, texture, hrender, htexture, hbridge⟩ := h.moves.refreshes hrefresh
    exact ⟨window, texture, hrender, htexture, hbridge, h.before.heldSince (hempty window) htexture⟩

theorem lastShaders_snoc (operations : List Operation) (operation : Operation) :
    lastShaders (operations ++ [operation]) =
      operation.shaders?.getD (lastShaders operations) := by
  cases hshaders : operation.shaders? with
  | none => simp [lastShaders, hshaders]
  | some shaders => simp [lastShaders, hshaders]

theorem Backend.Move.shaders_eq {backend next : Backend} {operation : Operation}
    {outcome : Except Fault Reply} (h : backend.Move operation trace outcome next) :
    next.renderer.shaders = operation.shaders?.getD backend.renderer.shaders := by
  cases h with
  | prepared hclear hcreate => exact congrArg Renderer.shaders hclear.renderer_eq
  | refused hclear hcreate => exact congrArg Renderer.shaders hclear.renderer_eq
  | @unknown operation window hshown habsent =>
    cases operation with
    | keepShaders shaders => cases hshown
    | _ => rfl
  | _ => rfl

theorem Chained.shaders_eq (h : Chained start turns finish)
    (hstart : start.renderer.shaders = {}) :
    finish.renderer.shaders = lastShaders (turns.map Turn.operation) := by
  induction turns using List.reverseRecOn generalizing finish with
  | nil =>
    cases h
    exact hstart
  | append_singleton turns turn ih =>
    obtain ⟨middle, hturns, rfl, hmoves, rfl⟩ := chained_append.1 h
    rw [List.map_append, List.map_singleton, lastShaders_snoc, hmoves.shaders_eq, ih hturns]

/-- What neither sets a renderer up nor takes it down gives nothing up for good. -/
theorem filter_isFinal_of_all {p : Request → Bool}
    (hblur : ∀ program, p (.paint (.freeBlurProgram program)) = false)
    (hwindow : ∀ program, p (.paint (.freeWindowProgram program)) = false)
    (hcontext : ∀ context, p (.display (.destroyContext context)) = false)
    (h : trace.all (fun event => event.request?.all p) = true) :
    (actions trace).filter Request.isFinal = [] := by
  rw [List.filter_eq_nil_iff]
  intro request hrequest hfinal
  have hpasses := of_mem_requests h request (mem_requests_of_mem_actions hrequest)
  unfold Request.isFinal at hfinal
  split at hfinal
  · next program => exact Bool.false_ne_true ((hblur program).symm.trans hpasses)
  · next program => exact Bool.false_ne_true ((hwindow program).symm.trans hpasses)
  · next context => exact Bool.false_ne_true ((hcontext context).symm.trans hpasses)
  · cases hfinal

theorem Renderer.SetsUp.filter_isFinal {texImage : TexImage}
    (h : Renderer.SetsUp texImage trace) : (actions trace).filter Request.isFinal = [] := by
  obtain ⟨hfirst, hresolve, hrest⟩ := h
  have hbefore := filter_isFinal_of_all (fun _ => rfl) (fun _ => rfl) (fun _ => rfl) hfirst
  have hafter := filter_isFinal_of_all (fun _ => rfl) (fun _ => rfl) (fun _ => rfl) hrest
  cases hresolve with
  | found =>
    rw [actions_append, actions_append, List.filter_append, List.filter_append, hbefore, hafter]
    rfl

namespace Backend

variable {backend : Backend}

theorem AllBound.exists_bridge_of_mem (h : backend.AllBound)
    (htexture : texture ∈ backend.textures.values) :
    ∃ bridge, texture.bridge = some bridge := by
  obtain ⟨window, hfound⟩ := exists_texture?_of_mem_values htexture
  exact h.exists_bridge hfound

theorem destructions_end {textures : List WindowTexture} {destructions : List (List Event)}
    (h : List.Forall₂ backend.Destroyed textures destructions)
    (hbound : ∀ texture ∈ textures, ∃ bridge, texture.bridge = some bridge) :
    List.Forall₂ (fun texture ending => ∃ bridge, texture.bridge = some bridge ∧
      actions ending = texture.ending backend.renderer.texImage.release bridge)
      textures destructions := by
  induction h with
  | nil => exact .nil
  | cons hfirst hrest ih =>
    obtain ⟨drain, hdrain, rfl⟩ := hfirst
    obtain ⟨bridge, hbridge⟩ := hbound _ List.mem_cons_self
    constructor
    · exact ⟨bridge, hbridge, WindowTexture.actions_destroyEvents _ hbridge hdrain⟩
    · exact ih fun texture htexture => hbound texture (List.mem_cons_of_mem _ htexture)

end Backend

theorem Shaders.filter_freeing (shaders : Shaders) :
    shaders.freeing.filter Request.isFinal = shaders.freeing := by
  rw [List.filter_eq_self]
  intro request hrequest
  rcases List.mem_append.1 hrequest with hblur | hwindow
  · obtain ⟨program, _, rfl⟩ := List.mem_map.1 hblur
    rfl
  · rw [List.mem_singleton.1 hwindow]
    rfl

theorem actions_freeEvents (shaders : Shaders) : actions shaders.freeEvents = shaders.freeing := by
  rw [Shaders.freeEvents, actions_append, actions, List.filterMap_map]
  exact congrArg (· ++ _) (congrFun List.filterMap_eq_map shaders.blur.toList)

theorem actions_tearDownEvents (shaders : Shaders) (context : ContextHandle) {drain : List Event}
    (hdrain : Gl.Emptied "GLX deinit" drain) :
    actions (tearDownEvents shaders context drain) =
      shaders.freeing ++ [.display (.destroyContext context)] := by
  rw [tearDownEvents, actions_append, actions_append, actions_freeEvents, hdrain.actions_eq_nil,
    List.append_nil]
  rfl

namespace Backend

variable {backend : Backend} {order : DrainOrder} {ending : Ending}

theorem Finished.closed (h : backend.Finished order ending trace) (hbound : backend.AllBound) :
    backend.Closed order backend.renderer.shaders trace := by
  obtain ⟨hdestroy, hdrain⟩ := h
  refine .intro ?_ (destructions_end hdestroy ?_) ?_
  · cases ending <;> rfl
  · intro texture htexture
    exact hbound.exists_bridge_of_mem ((order.perm _).mem_iff.1 htexture)
  · change actions (tearDownEvents .. ++ _) = _
    rw [actions_append, actions_tearDownEvents _ _ hdrain]
    exact List.append_nil _

theorem Finished.filter_isFinal (h : backend.Finished order ending trace) :
    (actions trace).filter Request.isFinal =
      backend.renderer.shaders.freeing ++
        [.display (.destroyContext backend.renderer.context)] := by
  obtain ⟨hdestroy, hdrain⟩ := h
  have hnotes : actions (ending.notes backend) = [] := by cases ending <;> rfl
  have htends := all_tends_of_provides (destructions_provides hdestroy)
  have hbefore := filter_isFinal_of_all (fun _ => rfl) (fun _ => rfl) (fun _ => rfl) htends
  rw [← List.singleton_append]
  simp only [actions_append, actions_tearDownEvents _ _ hdrain, hnotes, hbefore,
    List.filter_append, Shaders.filter_freeing]
  exact List.append_nil _

/-- Giving the context up is the last request of all. -/
theorem Finished.getLast?_requests (h : backend.Finished order ending trace) :
    (requests trace).getLast? = some (.display (.destroyContext backend.renderer.context)) := by
  obtain ⟨hdestroy, hdrain⟩ := h
  have hlast (first : List Event) : requests (first ++
      [.call (.display (.destroyContext backend.renderer.context)) (), .note .contextDestroyed,
        .note .backendDown]) =
      requests first ++ [.display (.destroyContext backend.renderer.context)] :=
    requests_append _ _
  simp only [tearDownEvents, List.append_assoc, List.cons_append, List.nil_append]
  rw [← List.append_assoc, ← List.cons_append, ← List.append_assoc, ← List.append_assoc, hlast]
  exact List.getLast?_concat

end Backend

namespace Session

variable {driver : Driver σ} {state : σ} {screen : Screen} {settings : Settings}
  {session : Session σ}

theorem shaders_of_start? (h : start? driver state screen settings = some session) :
    session.backend.renderer.shaders = {} := by
  obtain ⟨opening, turns, backend, final⟩ := session
  obtain ⟨-, hinit⟩ := start?_eq_some h
  cases hinit with
  | opened hbringUp =>
    cases hbringUp with
    | ready hacquire hattach =>
      cases hattach with
      | ready hequip hselect hdrain => rfl

theorem filter_isFinal_play (h : start? driver state screen settings = some session)
    (operations : List Operation) :
    (actions (session.play driver operations).trace).filter Request.isFinal = [] := by
  have hopening := (setsUp_of_start? h).filter_isFinal
  have htends := (chained_play h operations).all_tends
  have hrest := filter_isFinal_of_all (fun _ => rfl) (fun _ => rfl) (fun _ => rfl) htends
  rw [trace, opening_play, actions_append, List.filter_append, hopening, hrest]
  rfl

/-- Whatever the operations, each texture is tended from its first to its last day. At the end the
textures that are left go first, then the shader programs as they were left last, and the context,
which is given up once, with the last request of all. -/
theorem tended_play (h : start? driver state screen settings = some session)
    (operations : List Operation) :
    let played := session.play driver operations
    let surrender : Request := .display (.destroyContext played.backend.renderer.context)
    played.turns.map Turn.operation = operations ∧ Tended played.turns played.backend ∧
    ∀ order ending,
      let finished := played.finish driver order ending
      finished.outcome = .ok () ∧
      played.backend.Closed order (lastShaders operations) finished.trace ∧
      (actions (played.trace ++ finished.trace)).filter Request.isFinal =
        (lastShaders operations).freeing ++ [surrender] ∧
      (requests (played.trace ++ finished.trace)).getLast? = some surrender := by
  intro played surrender
  have hchained : Chained session.backend played.turns played.backend := chained_play h operations
  have hoperations : played.turns.map Turn.operation = operations :=
    operations_play_of_start? h operations
  have hshaders := hchained.shaders_eq (shaders_of_start? h)
  rw [hoperations] at hshaders
  have hbalanced : played.Balanced := (balanced_of_start? h).play operations
  have hspared := filter_isFinal_play h operations
  refine ⟨hoperations, hchained.tended (texture?_of_start? h), ?_⟩
  intro order ending finished
  have hfinish : finished.outcome = .ok () ∧ played.backend.Finished order ending finished.trace :=
    finished_finish played order ending
  obtain ⟨houtcome, hfinished⟩ := hfinish
  rw [← hshaders]
  refine ⟨houtcome, hfinished.closed hbalanced.2, ?_, ?_⟩
  · rw [actions_append, List.filter_append, hspared]
    exact hfinished.filter_isFinal
  · rw [requests_append, List.getLast?_append, hfinished.getLast?_requests]
    rfl

theorem tended_play_granting :
    ∃ session, start? (.granting true) () .ofDepth24 {} = some session ∧
      let operations : List Operation :=
        [.prepare { id := 7, depth := 24, width := 10, height := 20 }, .render 7,
          .keepShaders { window := { program := some ⟨3⟩ } },
          .prepare { id := 7, depth := 24, width := 5, height := 5 }, .render 7, .release 7,
          .prepare { id := 9, depth := 24, width := 5, height := 5 }]
      let played := session.play (.granting true) operations
      let surrender : Request := .display (.destroyContext played.backend.renderer.context)
      played.turns.map Turn.operation = operations ∧ Tended played.turns played.backend ∧
      ∀ order ending,
        let finished := played.finish (.granting true) order ending
        finished.outcome = .ok () ∧
        played.backend.Closed order (lastShaders operations) finished.trace ∧
        (actions (played.trace ++ finished.trace)).filter Request.isFinal =
          (lastShaders operations).freeing ++ [surrender] ∧
        (requests (played.trace ++ finished.trace)).getLast? = some surrender := by
  obtain ⟨session, hsession⟩ : ∃ session, start? (.granting true) () .ofDepth24 {} = some session :=
    Option.isSome_iff_exists.1 (by decide +kernel)
  exact ⟨session, hsession, tended_play hsession _⟩

end Session
end Compositor
