import Mathlib.Logic.Function.Basic
import Compositor.Proofs.Tenure

namespace Compositor

/-- Which texture is bound to each target. -/
abbrev Bindings := TextureTarget → Option TextureId

namespace Bindings

/-- Nothing is bound. -/
def free : Bindings := fun _ => none

def bind (bindings : Bindings) (target : TextureTarget) (texture : Option TextureId) : Bindings :=
  Function.update bindings target texture

def next (bindings : Bindings) : Event → Bindings
  | .call (.gl (.bindTexture target texture)) _ => bindings.bind target texture
  | _ => bindings

theorem bind_bind (bindings : Bindings) (target : TextureTarget)
    (first second : Option TextureId) :
    (bindings.bind target first).bind target second = bindings.bind target second := by
  simp only [bind, Function.update_idem]

theorem free_bind_none (target : TextureTarget) : free.bind target none = free :=
  Function.update_eq_self target free

end Bindings

/-- What is bound after a trace, if nothing was bound before it. -/
def bindings (trace : List Event) : Bindings := trace.foldl Bindings.next .free

/-- The texture is bound to its target, and nothing else is bound. -/
def WindowTexture.alone (t : WindowTexture) : Bindings :=
  Bindings.free.bind t.target (some t.texture)

/-- An event has its texture bound, and nothing else: one that was just made while it is set up,
one that is held while its image is bound or released, each with the entry point that is meant for
it. -/
def Event.Fits (texImage : TexImage) (held made : WindowTexture → Prop) (bindings : Bindings) :
    Event → Prop
  | .call (.gl (.textureParameter target ..)) _ =>
    ∃ t, made t ∧ t.target = target ∧ bindings = t.alone
  | .call (.display (.bindTexImage entry bridge)) _ =>
    entry = texImage.bind ∧ ∃ t, held t ∧ t.bridge = some bridge ∧ bindings = t.alone
  | .call (.display (.releaseTexImage entry bridge)) _ =>
    entry = texImage.release ∧ ∃ t, held t ∧ t.bridge = some bridge ∧ bindings = t.alone
  | _ => True

/-- Every event of a trace that follows what is past has its texture bound. Nothing is bound before
the trace, and nothing after it. -/
structure Careful (texImage : TexImage) (held made : WindowTexture → Prop)
    (past trace : List Event) : Prop where
  starts : bindings past = .free
  fits : ∀ first event rest, trace = first ++ event :: rest →
    event.Fits texImage held made (bindings (past ++ first))
  ends : bindings (past ++ trace) = .free

/-- The texture and its bridge come from two calls of a trace that follow one another. -/
def Paired (trace : List Event) (t : WindowTexture) : Prop :=
  ∃ first rest config pixmap format bridge, t.bridge = some bridge ∧
    trace = first ++ .call (.display (.createBridge config pixmap format t.target)) (some bridge) ::
      .call (.gl .generateTexture) (some t.texture) :: rest

/-- The entry points that a trace looks up, and what is found. -/
def lookups (trace : List Event) : List (String × Option EntryPoint) :=
  trace.filterMap fun
    | .call (.display (.entryPoint name)) found => some (name, found)
    | _ => none

/-- The window that a turn is about had its texture from one of the earlier turns. -/
def Turn.Held (turn : Turn) (earlier : List Turn) (texture : WindowTexture) : Prop :=
  ∃ window, (turn.operation.shown? = some window ∨ turn.operation.vacated? = some window) ∧
    HeldSince earlier window texture

/-- The turn gives a window its texture. -/
def Turn.Made (turn : Turn) (texture : WindowTexture) : Prop :=
  ∃ window, turn.Grants window texture

/-- Follows what is bound, and allows what has its texture bound. -/
def texturing (texImage : TexImage) (held made : WindowTexture → Prop) : Monitor Bindings where
  Allows bindings event := event.Fits texImage held made bindings
  next := Bindings.next

/-- Whether a request has nothing to do with what is bound. -/
def Request.isPlain : Request → Bool
  | .gl (.bindTexture ..) | .gl (.textureParameter ..)
  | .display (.bindTexImage ..) | .display (.releaseTexImage ..) => false
  | _ => true

def Event.isPlain (event : Event) : Bool := event.request?.all Request.isPlain

variable {texImage : TexImage} {held made : WindowTexture → Prop} {s : Bindings}
  {trace drain past : List Event} {site : String} {bridge : BridgePixmap}
  {target : TextureTarget} {t : WindowTexture}

theorem WindowTexture.alone_bind_none (t : WindowTexture) : t.alone.bind t.target none = .free := by
  rw [alone, Bindings.bind_bind, Bindings.free_bind_none]

theorem Event.fits_of_isPlain {event : Event} (h : event.isPlain = true) :
    event.Fits texImage held made s := by
  unfold Event.Fits
  split
  · cases h
  · cases h
  · cases h
  · trivial

theorem Event.next_of_isPlain {event : Event} (h : event.isPlain = true) : s.next event = s := by
  unfold Bindings.next
  split
  · cases h
  · rfl

namespace Texturing

theorem accepts_of_isPlain (h : trace.all Event.isPlain = true) :
    (texturing texImage held made).Accepts s trace s := by
  apply Monitor.accepts_of_idle
  intro event hevent
  have hplain := List.all_eq_true.1 h event hevent
  exact ⟨Event.fits_of_isPlain hplain, Event.next_of_isPlain hplain⟩

theorem bindings_of_isPlain (h : trace.all Event.isPlain = true) : bindings trace = .free := by
  induction trace with
  | nil => rfl
  | cons event trace ih =>
    obtain ⟨hevent, hrest⟩ := Bool.and_eq_true_iff.1 h
    have hnext : Bindings.free.next event = .free := Event.next_of_isPlain hevent
    rw [bindings, List.foldl_cons, hnext]
    exact ih hrest

theorem careful_of_accepts (hpast : bindings past = .free)
    (h : (texturing texImage held made).Accepts .free trace .free) :
    Careful texImage held made past trace := by
  have hafter (first : List Event) :
      bindings (past ++ first) = first.foldl Bindings.next .free := by
    rw [bindings, List.foldl_append]
    exact congrArg (first.foldl Bindings.next) hpast
  constructor
  case starts => exact hpast
  case fits =>
    intro first event rest htrace
    rw [htrace] at h
    obtain ⟨middle, hfirst, hallows⟩ := h.allows
    have hmiddle : first.foldl Bindings.next .free = middle := hfirst.foldl_eq
    rw [hafter, hmiddle]
    exact hallows
  case ends =>
    rw [hafter]
    exact h.foldl_eq

end Texturing

theorem Request.isPlain_of_setsUp {request : Request} (h : request.setsUp = true) :
    request.isPlain = true := by
  unfold Request.isPlain
  split
  · cases h
  · cases h
  · cases h
  · cases h
  · rfl

theorem Gl.Emptied.all_isPlain (h : Gl.Emptied site trace) : trace.all Event.isPlain = true :=
  all_request?_mono (fun _ => Request.isPlain_of_setsUp) h.all_setsUp

theorem Renderer.SetsUp.all_isPlain (h : Renderer.SetsUp texImage trace) :
    trace.all Event.isPlain = true :=
  h.all_of (fun _ => Request.isPlain_of_setsUp) fun _ => rfl

namespace Holdings

theorem textureEvents_isPlain (held : Holdings) : held.textureEvents.all Event.isPlain = true := by
  obtain ⟨pixmap, bridge, texture⟩ := held
  cases texture <;> rfl

theorem pixmapEvents_isPlain (held : Holdings) : held.pixmapEvents.all Event.isPlain = true := by
  obtain ⟨pixmap, bridge, texture⟩ := held
  rcases pixmap with _ | pixmap | window <;> rfl

theorem giveBackEvents_isPlain {held : Holdings} (htexture : held.texture = none)
    (release : EntryPoint) (target : TextureTarget) (hdrain : Gl.Emptied "release pixmap" drain) :
    (held.giveBackEvents release target drain).all Event.isPlain = true := by
  have hlater := all_append_of held.textureEvents_isPlain held.pixmapEvents_isPlain
  obtain ⟨pixmap, bridge, _⟩ := held
  cases htexture
  cases bridge with
  | none => exact all_append_of hdrain.all_isPlain hlater
  | some bridge => exact all_append_of (all_append_of rfl hdrain.all_isPlain) hlater

end Holdings

namespace WindowTexture

theorem prepareEvents_binds (ht : made t) :
    (texturing texImage held made).Accepts .free (prepareEvents t.texture t.target) .free := by
  have hset (name value : Gl.Token) :
      (texturing texImage held made).Allows t.alone
        (.call (.gl (.textureParameter t.target name value)) ()) :=
    ⟨t, ht, rfl, rfl⟩
  have hunbind : (texturing texImage held made).Accepts t.alone
      [.call (.gl (.bindTexture t.target none)) ()] .free :=
    .cons trivial t.alone_bind_none
  exact .cons trivial (.cons (hset _ _) (.cons (hset _ _) (.cons (hset _ _)
    (.cons (hset _ _) hunbind))))

theorem refreshEvents_binds (ht : held t) (hbridge : t.bridge = some bridge)
    (hdrain : Gl.Emptied "bind pixmap" drain) :
    (texturing texImage held made).Accepts .free (t.refreshEvents texImage.bind bridge drain)
      .free := by
  have hbind : (texturing texImage held made).Allows t.alone
      (.call (.display (.bindTexImage texImage.bind bridge)) ()) :=
    ⟨rfl, t, ht, hbridge, rfl⟩
  have hunbind : (texturing texImage held made).Accepts t.alone
      (.call (.gl (.bindTexture t.target none)) () :: drain) .free := by
    refine .cons trivial ?_
    change (texturing texImage held made).Accepts (t.alone.bind t.target none) drain .free
    rw [t.alone_bind_none]
    exact Texturing.accepts_of_isPlain hdrain.all_isPlain
  exact .cons trivial (.cons hbind hunbind)

theorem bridgeEvents_binds (ht : held t) :
    (texturing texImage held made).Accepts .free
      (t.holdings.bridgeEvents texImage.release t.target) .free := by
  cases hbridge : t.bridge with
  | none =>
    simp only [holdings, Holdings.bridgeEvents, hbridge]
    exact Monitor.accepts_nil
  | some bridge =>
    simp only [holdings, Holdings.bridgeEvents, hbridge]
    have hrelease : (texturing texImage held made).Allows t.alone
        (.call (.display (.releaseTexImage texImage.release bridge)) ()) :=
      ⟨rfl, t, ht, hbridge, rfl⟩
    have hunbind : (texturing texImage held made).Accepts t.alone
        [.call (.gl (.bindTexture t.target none)) (), .call (.display (.destroyBridge bridge)) ()]
        .free :=
      .cons trivial (.cons trivial t.alone_bind_none)
    exact .cons trivial (.cons hrelease hunbind)

theorem destroyEvents_binds (ht : held t) (hdrain : Gl.Emptied "release pixmap" drain) :
    (texturing texImage held made).Accepts .free
      (t.destroyEvents texImage.release drain) .free := by
  have hlater : (t.holdings.textureEvents ++ t.holdings.pixmapEvents).all Event.isPlain = true :=
    all_append_of t.holdings.textureEvents_isPlain t.holdings.pixmapEvents_isPlain
  have hbridge : (texturing texImage held made).Accepts .free
      (t.holdings.bridgeEvents texImage.release t.target ++ drain) .free :=
    (bridgeEvents_binds ht).append (Texturing.accepts_of_isPlain hdrain.all_isPlain)
  have hnote : (texturing texImage held made).Accepts .free [.note (.textureReleased t.window)]
      .free :=
    Texturing.accepts_of_isPlain rfl
  exact (hbridge.append (Texturing.accepts_of_isPlain hlater)).append hnote

theorem Named.all_isPlain {window : XId} {pixmap : Option NativePixmap}
    (h : Named window trace pixmap) : trace.all Event.isPlain = true := by
  cases h <;> rfl

variable {renderer : Renderer} {window : Window} {config : FbConfig}

theorem Acquired.binds {result : Except WindowError WindowTexture}
    (h : Acquired renderer window config target trace result)
    (hmade : ∀ t, result = .ok t → made t) :
    (texturing texImage held made).Accepts .free trace .free := by
  cases h with
  | noPixmap hnaming hdrain =>
    apply Texturing.accepts_of_isPlain
    exact all_append_of hnaming.all_isPlain (Holdings.giveBackEvents_isPlain rfl _ _ hdrain)
  | noBridge hnaming hdrain =>
    apply Texturing.accepts_of_isPlain
    exact all_append_of hnaming.all_isPlain (Holdings.giveBackEvents_isPlain rfl _ _ hdrain)
  | noTexture hnaming hdrain =>
    apply Texturing.accepts_of_isPlain
    exact all_append_of hnaming.all_isPlain (Holdings.giveBackEvents_isPlain rfl _ _ hdrain)
  | @whole naming pixmap bridge texture hnaming =>
    have hprepare : (texturing texImage held made).Accepts .free (prepareEvents texture target)
        .free :=
      prepareEvents_binds (hmade (ofParts window config target pixmap bridge texture) rfl)
    apply (Texturing.accepts_of_isPlain hnaming.all_isPlain).append
    exact .cons trivial (.cons trivial hprepare)

theorem Created.binds {result : Except WindowError WindowTexture}
    (h : Created renderer window trace result) (hmade : ∀ t, result = .ok t → made t) :
    (texturing texImage held made).Accepts .free trace .free := by
  cases h with
  | tooDeep hdepth => exact Texturing.accepts_of_isPlain rfl
  | noConfig hdepth hconfig => exact Texturing.accepts_of_isPlain rfl
  | acquired hdepth hconfig hacquire => exact .cons trivial (hacquire.binds hmade)

theorem Created.paired (h : Created renderer window trace (.ok t)) : Paired trace t := by
  cases h with
  | acquired hdepth hconfig hacquire =>
    cases hacquire with
    | whole hnaming => exact ⟨_ :: _, _, _, _, _, _, rfl, rfl⟩

end WindowTexture

theorem Paired.append {rest : List Event} (h : Paired rest t) : Paired (trace ++ rest) t := by
  obtain ⟨first, later, config, pixmap, format, bridge, hbridge, rfl⟩ := h
  exact ⟨trace ++ first, later, config, pixmap, format, bridge, hbridge, by simp⟩

namespace Backend

variable {backend next cleared : Backend} {window : XId} {operation : Operation}
  {outcome : Except Fault Reply}

theorem Cleared.binds (h : backend.Cleared window trace cleared)
    (hheld : ∀ t, backend.texture? window = some t → held t) :
    (texturing backend.renderer.texImage held made).Accepts .free trace .free := by
  cases h with
  | absent habsent => exact Monitor.accepts_nil
  | stale htexture hdrain =>
    exact .cons trivial (WindowTexture.destroyEvents_binds (hheld _ htexture) hdrain)

/-- An operation has nothing bound before and after it, and in between what it needs. -/
theorem Move.binds (h : backend.Move operation trace outcome next)
    (hheld : ∀ window t, operation.shown? = some window ∨ operation.vacated? = some window →
      backend.texture? window = some t → held t)
    (hmade : ∀ window t, operation.vacated? = some window → next.texture? window = some t →
      made t) :
    (texturing backend.renderer.texImage held made).Accepts .free trace .free := by
  cases h with
  | @prepared wanted clearing creation cleared texture hclear hcreate =>
    apply (hclear.binds (hheld wanted.id · (.inr rfl))).append
    apply hcreate.binds
    intro t ht
    cases ht
    exact hmade wanted.id texture rfl (by rw [texture?_withTexture, if_pos rfl])
  | @refused wanted clearing creation cleared cause hclear hcreate =>
    apply (hclear.binds (hheld wanted.id · (.inr rfl))).append
    apply hcreate.binds
    intro t ht
    cases ht
  | rendered htexture hbridge hdrain =>
    exact WindowTexture.refreshEvents_binds (hheld _ _ (.inl rfl) htexture) hbridge hdrain
  | released htexture hdrain =>
    exact WindowTexture.destroyEvents_binds (hheld _ _ (.inl rfl) htexture) hdrain
  | _ => exact Texturing.accepts_of_isPlain rfl

theorem Move.texImage_eq (h : backend.Move operation trace outcome next) :
    next.renderer.texImage = backend.renderer.texImage := by
  obtain ⟨shaders, width, height, hrenderer⟩ := h.renderer_eq
  rw [hrenderer]

theorem destructions_bind {backend : Backend} {textures : List WindowTexture}
    {destructions : List (List Event)} (h : List.Forall₂ backend.Destroyed textures destructions)
    (hheld : ∀ t ∈ textures, held t) :
    (texturing backend.renderer.texImage held made).Accepts .free destructions.flatten .free := by
  induction h with
  | nil => exact Monitor.accepts_nil
  | cons hfirst hrest ih =>
    obtain ⟨drain, hdrain, rfl⟩ := hfirst
    have hlater := ih fun t ht => hheld t (List.mem_cons_of_mem _ ht)
    exact (WindowTexture.destroyEvents_binds (hheld _ List.mem_cons_self) hdrain).append hlater

/-- At the end the textures that are left are released with nothing else bound. -/
theorem Finished.binds {order : DrainOrder} {ending : Ending}
    (h : backend.Finished order ending trace)
    (hheld : ∀ window t, backend.texture? window = some t → held t) :
    (texturing backend.renderer.texImage held made).Accepts .free trace .free := by
  obtain ⟨hdestroy, hdrain⟩ := h
  have hnotes : (ending.notes backend).all Event.isPlain = true := by
    cases ending <;> rfl
  have hfree : backend.renderer.shaders.freeEvents.all Event.isPlain = true := by
    rw [List.all_eq_true]
    exact Shaders.forall_mem_freeEvents _ (fun _ => rfl) fun _ => rfl
  have hteardown : (tearDownEvents backend.renderer.shaders backend.renderer.context _).all
      Event.isPlain = true :=
    all_append_of (all_append_of hfree hdrain.all_isPlain) rfl
  have hleft : ∀ t ∈ order.arrange backend.textures.values, held t := by
    intro t ht
    obtain ⟨window, htexture⟩ := exists_texture?_of_mem_values ((order.perm _).mem_iff.1 ht)
    exact hheld window t htexture
  apply (Texturing.accepts_of_isPlain hnotes).append
  apply (destructions_bind hdestroy hleft).append
  exact .cons trivial (Texturing.accepts_of_isPlain (all_append_of hteardown rfl))

end Backend

variable {start finish : Backend} {turns earlier later : List Turn} {turn : Turn}

/-- What a turn gives to a window is made of what two calls in the turn answered. -/
theorem Turn.Moves.paired (h : turn.Moves) {window : XId} (hgrants : turn.Grants window t) :
    Paired turn.trace t := by
  obtain ⟨⟨wanted, rfl, hasked⟩, hsucceeds, hafter⟩ := hgrants
  obtain ⟨backend, operation, trace, outcome, next⟩ := turn
  change backend.Move operation trace outcome next at h
  cases hasked
  cases h with
  | @prepared _ clearing creation cleared texture hclear hcreate =>
    rw [Backend.texture?_withTexture, if_pos rfl] at hafter
    cases hafter
    exact hcreate.paired.append
  | refused hclear hcreate => cases hsucceeds
  | unknown hshown habsent => cases hshown

theorem Turn.Moves.binds (h : turn.Moves) (hchained : Chained start earlier turn.before)
    (hempty : ∀ window, start.texture? window = none) :
    (texturing turn.before.renderer.texImage (turn.Held earlier) turn.Made).Accepts .free
      turn.trace .free := by
  apply Backend.Move.binds h
  · intro window t hwindow htexture
    exact ⟨window, hwindow, hchained.heldSince (hempty window) htexture⟩
  · intro window t hvacated htexture
    exact ⟨window, h.grants hvacated htexture⟩

theorem Chained.bindings_eq (h : Chained start turns finish)
    (hempty : ∀ window, start.texture? window = none) (hpast : bindings past = .free) :
    bindings (past ++ turns.flatMap Turn.trace) = .free := by
  induction turns using List.reverseRecOn generalizing finish with
  | nil => rwa [List.flatMap_nil, List.append_nil]
  | append_singleton turns turn ih =>
    obtain ⟨middle, hturns, rfl, hmoves, -⟩ := chained_append.1 h
    -- the last turn starts with nothing bound, since the earlier ones left nothing bound
    have hcareful := Texturing.careful_of_accepts (ih hturns) (hmoves.binds hturns hempty)
    have hends := hcareful.ends
    rwa [List.append_assoc, ← List.flatMap_singleton Turn.trace turn,
      ← List.flatMap_append] at hends

theorem Chained.texImage_eq (h : Chained start turns finish) :
    finish.renderer.texImage = start.renderer.texImage :=
  h.induction (motive := fun backend => backend.renderer.texImage = start.renderer.texImage) rfl
    fun _ _ hmoves hbefore => (Backend.Move.texImage_eq hmoves).trans hbefore

theorem Chained.careful (h : Chained start (earlier ++ turn :: later) finish)
    (hempty : ∀ window, start.texture? window = none) (hpast : bindings past = .free) :
    Careful start.renderer.texImage (turn.Held earlier) turn.Made
      (past ++ earlier.flatMap Turn.trace) turn.trace := by
  have hturn := h.moves.binds h.before hempty
  rw [h.before.texImage_eq] at hturn
  exact Texturing.careful_of_accepts (h.before.bindings_eq hempty hpast) hturn

theorem lookups_append (first rest : List Event) :
    lookups (first ++ rest) = lookups first ++ lookups rest :=
  List.filterMap_append

theorem lookups_eq_nil_of_all {p : Request → Bool}
    (hp : ∀ name, p (.display (.entryPoint name)) = false)
    (h : trace.all (fun event => event.request?.all p) = true) : lookups trace = [] := by
  rw [lookups, List.filterMap_eq_nil_iff]
  intro event hevent
  have hpasses := List.all_eq_true.1 h event hevent
  split
  · next name found =>
    have hname : p (.display (.entryPoint name)) = true := hpasses
    rw [hp name] at hname
    cases hname
  · rfl

theorem Renderer.SetsUp.lookups_eq (h : Renderer.SetsUp texImage trace) :
    lookups trace = [(Extension.bindTexImage, some texImage.bind),
      (Extension.releaseTexImage, some texImage.release)] := by
  obtain ⟨hfirst, hresolve, hrest⟩ := h
  rw [lookups_append, lookups_append, lookups_eq_nil_of_all (fun _ => rfl) hfirst,
    lookups_eq_nil_of_all (fun _ => rfl) hrest]
  cases hresolve with
  | found => rfl

namespace Session

variable {driver : Driver σ} {state : σ} {screen : Screen} {settings : Settings}
  {session : Session σ}

theorem lookups_life (h : start? driver state screen settings = some session)
    (operations : List Operation) (order : DrainOrder) (ending : Backend.Ending) :
    let played := session.play driver operations
    lookups (played.trace ++ (played.finish driver order ending).trace) =
      [(Extension.bindTexImage, some session.backend.renderer.texImage.bind),
        (Extension.releaseTexImage, some session.backend.renderer.texImage.release)] := by
  intro played
  have hopening := (setsUp_of_start? h).lookups_eq
  have htends : (played.turns.flatMap Turn.trace).all Event.tends = true :=
    (chained_play h operations).all_tends
  have hfinished : (played.finish driver order ending).trace.all Event.takesDown = true :=
    (finished_finish played order ending).2.all_takesDown
  rw [trace, opening_play, lookups_append, lookups_append, hopening,
    lookups_eq_nil_of_all (fun _ => rfl) htends, lookups_eq_nil_of_all (fun _ => rfl) hfinished]
  rfl

/-- Whatever the operations, each texture is bound, and nothing else is, while it is set up, while
it is refreshed and while it is released, and nothing is bound between operations and at the end.
Refreshing and releasing go through the entry points that were looked up for that, once. -/
theorem careful_play (h : start? driver state screen settings = some session)
    (operations : List Operation) :
    let played := session.play driver operations
    let texImage := session.backend.renderer.texImage
    played.turns.map Turn.operation = operations ∧
    (∀ turn ∈ played.turns, ∀ window t, turn.Grants window t → Paired turn.trace t) ∧
    (∀ earlier turn later, played.turns = earlier ++ turn :: later →
      Careful texImage (turn.Held earlier) turn.Made
        (session.opening ++ earlier.flatMap Turn.trace) turn.trace) ∧
    ∀ order ending,
      let finished := played.finish driver order ending
      finished.outcome = .ok () ∧
      Careful texImage (fun t => ∃ window, HeldSince played.turns window t) (fun _ => False)
        played.trace finished.trace ∧
      lookups (played.trace ++ finished.trace) =
        [(Extension.bindTexImage, some texImage.bind),
          (Extension.releaseTexImage, some texImage.release)] := by
  intro played texImage
  have hchained : Chained session.backend played.turns played.backend := chained_play h operations
  have hempty := texture?_of_start? h
  have hopening : bindings session.opening = .free :=
    Texturing.bindings_of_isPlain (setsUp_of_start? h).all_isPlain
  refine ⟨operations_play_of_start? h operations, ?_, ?_, ?_⟩
  · intro turn hturn window t hgrants
    obtain ⟨first, rest, hsplit⟩ := List.append_of_mem hturn
    rw [hsplit] at hchained
    exact hchained.moves.paired hgrants
  · intro earlier turn later hsplit
    rw [hsplit] at hchained
    exact hchained.careful hempty hopening
  · intro order ending finished
    have hfinish : finished.outcome = .ok () ∧
        played.backend.Finished order ending finished.trace :=
      finished_finish played order ending
    obtain ⟨houtcome, hfinished⟩ := hfinish
    have hplayed : bindings played.trace = .free := by
      rw [trace, opening_play]
      exact hchained.bindings_eq hempty hopening
    have hleft : (texturing played.backend.renderer.texImage
        (fun t => ∃ window, HeldSince played.turns window t) (fun _ => False)).Accepts .free
          finished.trace .free := by
      apply hfinished.binds
      intro window t htexture
      exact ⟨window, hchained.heldSince (hempty window) htexture⟩
    rw [hchained.texImage_eq] at hleft
    exact ⟨houtcome, Texturing.careful_of_accepts hplayed hleft,
      lookups_life h operations order ending⟩

theorem careful_play_granting :
    ∃ session, start? (.granting true) () .ofDepth24 {} = some session ∧
      let operations : List Operation :=
        [.prepare { id := 7, depth := 24, width := 10, height := 20 }, .render 7,
          .prepare { id := 7, depth := 32, width := 5, height := 5 },
          .prepare { id := 9, depth := 24, width := 5, height := 5 }, .render 9, .release 9,
          .prepare { id := 9, depth := 24, width := 5, height := 5 }]
      let played := session.play (.granting true) operations
      let texImage := session.backend.renderer.texImage
      played.turns.map Turn.operation = operations ∧
      (∀ turn ∈ played.turns, ∀ window t, turn.Grants window t → Paired turn.trace t) ∧
      (∀ earlier turn later, played.turns = earlier ++ turn :: later →
        Careful texImage (turn.Held earlier) turn.Made
          (session.opening ++ earlier.flatMap Turn.trace) turn.trace) ∧
      ∀ order ending,
        let finished := played.finish (.granting true) order ending
        finished.outcome = .ok () ∧
        Careful texImage (fun t => ∃ window, HeldSince played.turns window t) (fun _ => False)
          played.trace finished.trace ∧
        lookups (played.trace ++ finished.trace) =
          [(Extension.bindTexImage, some texImage.bind),
            (Extension.releaseTexImage, some texImage.release)] := by
  obtain ⟨session, hsession⟩ : ∃ session, start? (.granting true) () .ofDepth24 {} = some session :=
    Option.isSome_iff_exists.1 (by decide +kernel)
  exact ⟨session, hsession, careful_play hsession _⟩

end Session
end Compositor
