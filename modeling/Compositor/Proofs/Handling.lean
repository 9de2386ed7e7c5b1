import Compositor.Proofs.Teardown

namespace Compositor

/-- Whether something is given up that a texture holds: its image, its bridge, the texture itself or
its native pixmap. -/
def Request.givesUp : Request → Bool
  | .display (.releaseTexImage ..) | .display (.destroyBridge _) | .display (.freePixmap _)
  | .gl (.deleteTexture _) => true
  | _ => false

/-- What a trace gives up, in its order. -/
def givenUp (trace : List Event) : List Request := (requests trace).filter Request.givesUp

@[simp] theorem givenUp_append (first rest : List Event) :
    givenUp (first ++ rest) = givenUp first ++ givenUp rest := by
  simp only [givenUp, requests_append, List.filter_append]

theorem Request.givesUp_of_setsUp {request : Request} (h : request.setsUp = true) :
    request.givesUp = false := by
  unfold Request.givesUp
  split
  · cases h
  · cases h
  · cases h
  · cases h
  · rfl

theorem Gl.Emptied.givenUp_eq_nil {site : String} {trace : List Event}
    (h : Gl.Emptied site trace) : givenUp trace = [] :=
  filter_requests_eq_nil (fun _ => Request.givesUp_of_setsUp) h.all_setsUp

namespace WindowTexture

/-- What can be done with a texture until it is destroyed. -/
inductive Use where
  | refresh
  | release
  | compose (x y : Int32) (clip : Region)

def Use.isRelease : Use → Bool
  | release => true
  | _ => false

def use (t : WindowTexture) (renderer : Renderer) : Use → Program WindowTexture
  | .refresh => do
    t.refresh renderer
    return t
  | .release => t.release renderer
  | .compose x y clip => do
    t.compose renderer x y clip
    return t

/-- The texture without its bridge. -/
def bare (t : WindowTexture) : WindowTexture := { t with bridge := none }

/-- The events of a use, how it ends, and the texture afterwards. -/
inductive Used (renderer : Renderer) (t : WindowTexture) :
    Use → List Event → Except Fault Unit → WindowTexture → Prop
  | refreshed {bridge : BridgePixmap} {drain : List Event} (hbridge : t.bridge = some bridge)
    (hdrain : Gl.Emptied "bind pixmap" drain) :
    Used renderer t .refresh (t.refreshEvents renderer.texImage.bind bridge drain) (.ok ()) t
  | unbound (hbridge : t.bridge = none) : Used renderer t .refresh [] (.error .releasedTexture) t
  | released {drain : List Event} (hdrain : Gl.Emptied "release pixmap" drain) :
    Used renderer t .release
      (t.holdings.bridgeEvents renderer.texImage.release t.target ++ drain) (.ok ()) t.bare
  | composed {x y lower : Int32} {clip flipped : Region} (hbound : t.isBound = true)
    (hplace : Flip.place y t.height clip renderer.screen.height t.yInverted =
      .ok (lower, flipped)) :
    Used renderer t (.compose x y clip)
      [.call (.paint (.drawQuad (t.quad x lower) flipped)) ()] (.ok ()) t
  | overflowed {x y : Int32} {clip : Region} {e : Fault} (hbound : t.isBound = true)
    (hplace : Flip.place y t.height clip renderer.screen.height t.yInverted = .error e) :
    Used renderer t (.compose x y clip) [] (.error e) t
  | skipped {x y : Int32} {clip : Region} (hbound : t.isBound = false) :
    Used renderer t (.compose x y clip) [.note (.notBound t.window)] (.ok ()) t

theorem use_ensures (t : WindowTexture) (renderer : Renderer) (use : Use) :
    (t.use renderer use).Ensures fun trace outcome =>
      match outcome with
      | .ok next => Used renderer t use trace (.ok ()) next
      | .error e => Used renderer t use trace (.error e) t := by
  cases use with
  | refresh =>
    cases hbridge : t.bridge with
    | none =>
      simp only [WindowTexture.use, refresh, hbridge]
      exact .unbound hbridge
    | some bridge =>
      apply Program.Returns.bind (refresh_returns renderer hbridge)
      rintro trace _ ⟨drain, hdrain, rfl⟩
      change Used _ _ _ (_ ++ []) _ _
      rw [List.append_nil]
      exact .refreshed hbridge hdrain
  | release =>
    apply Program.Returns.bind (t.holdings.releaseBridge_returns renderer t.target)
    rintro trace _ ⟨drain, hdrain, rfl⟩
    change Used _ _ _ (_ ++ []) _ _
    rw [List.append_nil]
    exact .released hdrain
  | compose x y clip =>
    cases hbound : t.isBound with
    | false =>
      simp only [WindowTexture.use, compose, hbound]
      exact .skipped hbound
    | true =>
      simp only [WindowTexture.use, compose, hbound]
      cases hplace : Flip.place y t.height clip renderer.screen.height t.yInverted with
      | error e => exact .overflowed hbound hplace
      | ok placed => exact fun _ => .composed hbound hplace

/-- One use of a texture. -/
structure Step where
  before : WindowTexture
  use : Use
  trace : List Event
  outcome : Except Fault Unit
  after : WindowTexture

namespace Step

def Happens (step : Step) (renderer : Renderer) : Prop :=
  Used renderer step.before step.use step.trace step.outcome step.after

/-- A use of a texture that has its bridge. Refreshing binds the window's contents, releasing gives
up the image and the bridge, and painting paints one quad unless its place overflows. -/
structure Serves (step : Step) (renderer : Renderer) (t : WindowTexture) (bridge : BridgePixmap) :
    Prop where
  before : step.before = t
  bound : step.before.isBound = true
  does : match step.use with
    | .refresh => step.outcome = .ok () ∧ step.after = t ∧
      ∃ drain, Gl.Emptied "bind pixmap" drain ∧
        step.trace = [
          .call (.gl (.bindTexture t.target (some t.texture))) (),
          .call (.display (.bindTexImage renderer.texImage.bind bridge)) (),
          .call (.gl (.bindTexture t.target none)) ()] ++ drain
    | .release => step.outcome = .ok () ∧ step.after = t.bare ∧
      ∃ drain, Gl.Emptied "release pixmap" drain ∧
        step.trace = [
          .call (.gl (.bindTexture t.target (some t.texture))) (),
          .call (.display (.releaseTexImage renderer.texImage.release bridge)) (),
          .call (.gl (.bindTexture t.target none)) (),
          .call (.display (.destroyBridge bridge)) ()] ++ drain
    | .compose x y clip => step.after = t ∧
      match Flip.place y t.height clip renderer.screen.height t.yInverted with
      | .ok (lower, flipped) => step.outcome = .ok () ∧
        requests step.trace = [.paint (.drawQuad (t.quad x lower) flipped)]
      | .error e => step.outcome = .error e ∧ requests step.trace = []

/-- A use of a texture that was released, which stays as it is. Refreshing it is a fault, releasing
it looks at the errors, and painting it paints nothing. -/
structure Passes (step : Step) (t : WindowTexture) : Prop where
  before : step.before = t.bare
  unbound : step.before.isBound = false
  after : step.after = t.bare
  does : match step.use with
    | .refresh => step.outcome = .error .releasedTexture ∧ step.trace = []
    | .release => step.outcome = .ok () ∧ Gl.Emptied "release pixmap" step.trace
    | .compose .. => step.outcome = .ok () ∧ requests step.trace = []

variable {step : Step} {renderer : Renderer} {t : WindowTexture} {bridge : BridgePixmap}

theorem Happens.serves (h : step.Happens renderer) (hbefore : step.before = t)
    (hbridge : t.bridge = some bridge) : step.Serves renderer t bridge := by
  obtain ⟨before, use, trace, outcome, after⟩ := step
  subst hbefore
  have hbound : before.isBound = true := by
    rw [isBound, hbridge]
    rfl
  refine ⟨rfl, hbound, ?_⟩
  change Used renderer before use trace outcome after at h
  cases h with
  | refreshed hother hdrain =>
    cases hbridge.symm.trans hother
    exact ⟨rfl, rfl, _, hdrain, rfl⟩
  | unbound hnone => cases hbridge.symm.trans hnone
  | released hdrain =>
    refine ⟨rfl, rfl, _, hdrain, ?_⟩
    rw [holdings, hbridge]
    rfl
  | composed _ hplace =>
    refine ⟨rfl, ?_⟩
    rw [hplace]
    exact ⟨rfl, rfl⟩
  | overflowed _ hplace =>
    refine ⟨rfl, ?_⟩
    rw [hplace]
    exact ⟨rfl, rfl⟩
  | skipped hunbound => cases hbound.symm.trans hunbound

theorem Happens.passes (h : step.Happens renderer) (hbefore : step.before = t.bare) :
    step.Passes t := by
  obtain ⟨before, use, trace, outcome, after⟩ := step
  subst hbefore
  change Used renderer t.bare use trace outcome after at h
  cases h with
  | refreshed hbridge hdrain => cases hbridge
  | unbound _ => exact ⟨rfl, rfl, rfl, rfl, rfl⟩
  | released hdrain => exact ⟨rfl, rfl, rfl, rfl, hdrain⟩
  | composed hbound _ => cases hbound
  | overflowed hbound _ => cases hbound
  | skipped _ => exact ⟨rfl, rfl, rfl, rfl, rfl⟩

end Step

/-- What is asked for to give up the image and the bridge. -/
def bridgeEnding (release : EntryPoint) (bridge : BridgePixmap) : List Request :=
  [.display (.releaseTexImage release bridge), .display (.destroyBridge bridge)]

variable {renderer : Renderer} {t : WindowTexture} {bridge : BridgePixmap} {drain : List Event}

namespace Step

variable {step : Step}

theorem Serves.after_eq (h : step.Serves renderer t bridge) :
    step.after = if step.use.isRelease then t.bare else t := by
  have hdoes := h.does
  cases huse : step.use <;> simp only [huse] at hdoes
  case refresh => exact hdoes.2.1
  case release => exact hdoes.2.1
  case compose => exact hdoes.1

theorem Serves.givenUp_eq (h : step.Serves renderer t bridge) :
    givenUp step.trace =
      if step.use.isRelease then bridgeEnding renderer.texImage.release bridge else [] := by
  have hdoes := h.does
  cases huse : step.use <;> simp only [huse] at hdoes
  case refresh =>
    obtain ⟨-, -, drain, hdrain, htrace⟩ := hdoes
    rw [htrace, givenUp_append, hdrain.givenUp_eq_nil]
    rfl
  case release =>
    obtain ⟨-, -, drain, hdrain, htrace⟩ := hdoes
    rw [htrace, givenUp_append, hdrain.givenUp_eq_nil]
    rfl
  case compose =>
    have hpainted := hdoes.2
    split at hpainted
    · rw [givenUp, hpainted.2]
      rfl
    · rw [givenUp, hpainted.2]
      rfl

theorem Passes.givenUp_eq_nil (h : step.Passes t) : givenUp step.trace = [] := by
  have hdoes := h.does
  cases huse : step.use <;> simp only [huse] at hdoes
  case refresh =>
    rw [hdoes.2]
    rfl
  case release => exact hdoes.2.givenUp_eq_nil
  case compose =>
    rw [givenUp, hdoes.2]
    rfl

end Step

theorem givenUp_destroyEvents (t : WindowTexture) (release : EntryPoint)
    (hdrain : Gl.Emptied "release pixmap" drain) :
    givenUp (t.destroyEvents release drain) =
      t.bridge.elim [] (bridgeEnding release) ++
        .gl (.deleteTexture t.texture) :: t.pixmap.freeing := by
  obtain ⟨window, pixmap, bridge, texture, target, width, height, yInverted⟩ := t
  rw [destroyEvents, Holdings.giveBackEvents, givenUp_append, givenUp_append, givenUp_append,
    hdrain.givenUp_eq_nil]
  cases bridge <;> cases pixmap <;> rfl

theorem Created.givenUp_eq_nil {window : Window} {trace : List Event}
    (h : Created renderer window trace (.ok t)) : givenUp trace = [] := by
  cases h with
  | acquired hdepth hconfig hacquire =>
    cases hacquire with
    | whole hnaming => cases hnaming <;> rfl

end WindowTexture

open WindowTexture

/-- A texture that was created and what was done with it. -/
structure Handling (σ : Type) where
  creation : List Event
  steps : List Step
  texture : WindowTexture
  state : σ

namespace Handling

/-- A texture that is created for a window, unless it is not. -/
def start? (driver : Driver σ) (state : σ) (renderer : Renderer) (window : Window) :
    Option (Handling σ) :=
  let run := (create renderer window).run driver state
  match run.outcome with
  | .ok (.ok texture) => some ⟨run.trace, [], texture, run.state⟩
  | _ => none

def extend (handling : Handling σ) (step : Step) (state : σ) : Handling σ :=
  { handling with steps := handling.steps ++ [step], texture := step.after, state }

/-- Uses the texture. A fault ends the use and leaves the texture as it was. -/
def perform (driver : Driver σ) (renderer : Renderer) (handling : Handling σ) (use : Use) :
    Handling σ :=
  let run := (handling.texture.use renderer use).run driver handling.state
  let step : Step :=
    match run.outcome with
    | .ok after => ⟨handling.texture, use, run.trace, .ok (), after⟩
    | .error e => ⟨handling.texture, use, run.trace, .error e, handling.texture⟩
  handling.extend step run.state

def play (driver : Driver σ) (renderer : Renderer) (handling : Handling σ) (uses : List Use) :
    Handling σ :=
  uses.foldl (perform driver renderer) handling

def trace (handling : Handling σ) : List Event :=
  handling.creation ++ handling.steps.flatMap Step.trace

def finish (driver : Driver σ) (renderer : Renderer) (handling : Handling σ) : Run σ Unit :=
  (handling.texture.destroy renderer).run driver handling.state

variable {driver : Driver σ} {state : σ} {renderer : Renderer} {window : Window}
  {handling : Handling σ}

theorem start?_eq_some (h : start? driver state renderer window = some handling) :
    handling.steps = [] ∧ Created renderer window handling.creation (.ok handling.texture) := by
  obtain ⟨result, houtcome, hcreated⟩ := (create_returns renderer window).run driver state
  unfold start? at h
  dsimp only at h
  rw [houtcome] at h
  cases result with
  | error cause => cases h
  | ok texture =>
    cases h
    exact ⟨rfl, hcreated⟩

theorem perform_eq_extend (driver : Driver σ) (renderer : Renderer) (handling : Handling σ)
    (use : Use) :
    ∃ step state, handling.perform driver renderer use = handling.extend step state ∧
      step.before = handling.texture ∧ step.use = use ∧ step.Happens renderer := by
  have hused := (handling.texture.use_ensures renderer use).run driver handling.state
  refine ⟨_, _, rfl, ?_⟩
  cases houtcome : ((handling.texture.use renderer use).run driver handling.state).outcome with
  | ok after =>
    rw [houtcome] at hused
    exact ⟨rfl, rfl, hused⟩
  | error e =>
    rw [houtcome] at hused
    exact ⟨rfl, rfl, hused⟩

theorem play_induction {motive : Handling σ → Prop} (hstart : motive handling)
    (hstep : ∀ handling step state, motive handling → step.before = handling.texture →
      step.Happens renderer → motive (extend handling step state)) (uses : List Use) :
    motive (handling.play driver renderer uses) := by
  induction uses generalizing handling with
  | nil => exact hstart
  | cons use uses ih =>
    obtain ⟨step, state, hperform, hbefore, -, hhappens⟩ :=
      handling.perform_eq_extend driver renderer use
    have hnext := hstep handling step state hstart hbefore hhappens
    rw [← hperform] at hnext
    exact ih hnext

theorem uses_play (handling : Handling σ) (uses : List Use) :
    (handling.play driver renderer uses).steps.map Step.use =
      handling.steps.map Step.use ++ uses := by
  induction uses generalizing handling with
  | nil => exact (List.append_nil _).symm
  | cons use uses ih =>
    obtain ⟨step, state, hperform, -, huse, -⟩ := handling.perform_eq_extend driver renderer use
    have hnext := ih (handling.perform driver renderer use)
    change ((handling.perform driver renderer use).play driver renderer uses).steps.map _ = _
    rw [hnext, hperform]
    simp [extend, huse]

theorem trace_extend (handling : Handling σ) (step : Step) (state : σ) :
    (handling.extend step state).trace = handling.trace ++ step.trace := by
  simp [trace, extend]

/-- A texture serves up to its first release, and is passed over from then on. -/
structure Tracks (handling : Handling σ) (renderer : Renderer) (t : WindowTexture)
    (bridge : BridgePixmap) : Prop where
  texture_eq : handling.texture = if handling.steps.any (·.use.isRelease) then t.bare else t
  steps : ∀ earlier step later, handling.steps = earlier ++ step :: later →
    if earlier.any (·.use.isRelease) then step.Passes t else step.Serves renderer t bridge
  givenUp_eq : givenUp handling.trace =
    if handling.steps.any (·.use.isRelease) then bridgeEnding renderer.texImage.release bridge
    else []

theorem forall_split_snoc {P : List α → α → Prop} {xs : List α} {x : α}
    (h : ∀ earlier y later, xs = earlier ++ y :: later → P earlier y) (hx : P xs x) :
    ∀ earlier y later, xs ++ [x] = earlier ++ y :: later → P earlier y := by
  intro earlier y later hsplit
  rcases List.eq_nil_or_concat later with rfl | ⟨later, last, rfl⟩
  · obtain ⟨rfl, hy⟩ := List.append_inj' hsplit rfl
    cases hy
    exact hx
  · rw [List.concat_eq_append, ← List.cons_append, ← List.append_assoc] at hsplit
    obtain ⟨rfl, -⟩ := List.append_inj' hsplit rfl
    exact h earlier y later rfl

theorem Tracks.extend {t : WindowTexture} {bridge : BridgePixmap} {step : Step}
    (h : handling.Tracks renderer t bridge) (hbridge : t.bridge = some bridge)
    (hbefore : step.before = handling.texture) (hhappens : step.Happens renderer) (final : σ) :
    (handling.extend step final).Tracks renderer t bridge := by
  obtain ⟨htexture, hsteps, hgiven⟩ := h
  have hany : (handling.extend step final).steps.any (·.use.isRelease) =
      (handling.steps.any (·.use.isRelease) || step.use.isRelease) := by
    simp [Handling.extend]
  rw [htexture] at hbefore
  cases hreleased : handling.steps.any (·.use.isRelease) with
  | true =>
    rw [hreleased] at hbefore hgiven hany
    have hpasses := hhappens.passes hbefore
    constructor
    case texture_eq =>
      rw [hany]
      exact hpasses.after
    case steps =>
      apply forall_split_snoc hsteps
      rw [hreleased]
      exact hpasses
    case givenUp_eq =>
      rw [trace_extend, givenUp_append, hgiven, hpasses.givenUp_eq_nil, hany]
      exact List.append_nil _
  | false =>
    rw [hreleased] at hbefore hgiven hany
    have hserves := hhappens.serves hbefore hbridge
    constructor
    case texture_eq =>
      rw [hany]
      exact hserves.after_eq
    case steps =>
      apply forall_split_snoc hsteps
      rw [hreleased]
      exact hserves
    case givenUp_eq =>
      rw [trace_extend, givenUp_append, hgiven, hserves.givenUp_eq, hany]
      rfl

theorem tracks_of_start? (h : start? driver state renderer window = some handling)
    (bridge : BridgePixmap) : handling.Tracks renderer handling.texture bridge := by
  obtain ⟨creation, steps, texture, final⟩ := handling
  obtain ⟨rfl, hcreated⟩ := start?_eq_some h
  constructor
  case texture_eq => rfl
  case steps => simp
  case givenUp_eq =>
    rw [trace, givenUp_append, hcreated.givenUp_eq_nil]
    rfl

theorem finish_returns (driver : Driver σ) (renderer : Renderer) (handling : Handling σ) :
    (handling.finish driver renderer).outcome = .ok () ∧
      ∃ drain, Gl.Emptied "release pixmap" drain ∧ (handling.finish driver renderer).trace =
        handling.texture.destroyEvents renderer.texImage.release drain := by
  obtain ⟨_, houtcome, hdestroyed⟩ := (handling.texture.destroy_returns renderer).run driver
    handling.state
  exact ⟨houtcome, hdestroyed⟩

/-- Whatever the surroundings answer, and in whatever order a texture that was created is refreshed,
released and painted: it serves up to its first release, keeps its names all along, and at its end
what it holds has been given up once, the native pixmap only if it is owned. -/
theorem handled_play (h : start? driver state renderer window = some handling) (uses : List Use) :
    let t := handling.texture
    let played := handling.play driver renderer uses
    let finish := played.finish driver renderer
    ∃ bridge, t.bridge = some bridge ∧ played.steps.map Step.use = uses ∧
      (∀ earlier step later, played.steps = earlier ++ step :: later →
        if earlier.any (·.use.isRelease) then step.Passes t else step.Serves renderer t bridge) ∧
      played.texture.isBound = !uses.any Use.isRelease ∧
      played.texture.texture = t.texture ∧ played.texture.pixmap = t.pixmap ∧
      finish.outcome = .ok () ∧
      givenUp (played.trace ++ finish.trace) =
        [.display (.releaseTexImage renderer.texImage.release bridge),
          .display (.destroyBridge bridge), .gl (.deleteTexture t.texture)] ++
          t.pixmap.freeing := by
  intro t played finish
  obtain ⟨hnil, hcreated⟩ := start?_eq_some h
  obtain ⟨bridge, hbridge⟩ : ∃ bridge, t.bridge = some bridge :=
    Option.isSome_iff_exists.1 hcreated.isBound
  have huses : played.steps.map Step.use = uses := by
    rw [uses_play, hnil]
    rfl
  have htracks : played.Tracks renderer t bridge :=
    play_induction (motive := fun other => other.Tracks renderer t bridge)
      (tracks_of_start? h bridge)
      (fun _ _ final h hbefore hhappens => h.extend hbridge hbefore hhappens final) uses
  have hany : played.steps.any (·.use.isRelease) = uses.any Use.isRelease := by
    rw [← huses, List.any_map]
    rfl
  obtain ⟨htexture, hsteps, hgiven⟩ := htracks
  rw [hany] at htexture hgiven
  obtain ⟨houtcome, drain, hdrain, htrace⟩ := finish_returns driver renderer played
  have hended : givenUp finish.trace = played.texture.bridge.elim []
      (bridgeEnding renderer.texImage.release) ++
        .gl (.deleteTexture played.texture.texture) :: played.texture.pixmap.freeing := by
    rw [htrace, givenUp_destroyEvents _ _ hdrain]
  cases hreleased : uses.any Use.isRelease with
  | true =>
    rw [hreleased] at htexture hgiven
    rw [htexture] at hended
    rw [htexture, givenUp_append, hgiven, hended]
    exact ⟨bridge, hbridge, huses, hsteps, rfl, rfl, rfl, houtcome, rfl⟩
  | false =>
    rw [hreleased] at htexture hgiven
    rw [htexture] at hended
    rw [htexture, givenUp_append, hgiven, hended]
    refine ⟨bridge, hbridge, huses, hsteps, hcreated.isBound, rfl, rfl, houtcome, ?_⟩
    simp only [Bool.false_eq_true, if_false, hbridge]
    rfl

theorem handled_play_granting :
    let config : FbConfig := ⟨⟨0⟩, .rgb, ⟨1⟩, false, ⟨8, 0, 1, 0, 0, 0⟩⟩
    let renderer : Renderer := {
      context := ⟨1⟩
      anySize := true
      configs := ⟨32, .ofList [((24 : UInt8), config)]⟩
      texImage := ⟨⟨1⟩, ⟨2⟩⟩
      shaders := {}
      screen := .ofDepth24
      settings := {} }
    ∃ handling, start? (.granting true) () renderer ⟨7, 24, 10, 20, .solid, 1⟩ = some handling ∧
      let uses : List Use :=
        [.refresh, .compose 5 30 ⟨[]⟩, .compose 0 (-2147483648) ⟨[]⟩, .release, .compose 5 30 ⟨[]⟩,
          .refresh, .release]
      let t := handling.texture
      let played := handling.play (.granting true) renderer uses
      let finish := played.finish (.granting true) renderer
      ∃ bridge, t.bridge = some bridge ∧ played.steps.map Step.use = uses ∧
        (∀ earlier step later, played.steps = earlier ++ step :: later →
          if earlier.any (·.use.isRelease) then step.Passes t else step.Serves renderer t bridge) ∧
        played.texture.isBound = !uses.any Use.isRelease ∧
        played.texture.texture = t.texture ∧ played.texture.pixmap = t.pixmap ∧
        finish.outcome = .ok () ∧
        givenUp (played.trace ++ finish.trace) =
          [.display (.releaseTexImage renderer.texImage.release bridge),
            .display (.destroyBridge bridge), .gl (.deleteTexture t.texture)] ++
            t.pixmap.freeing := by
  intro config renderer
  obtain ⟨handling, hhandling⟩ : ∃ handling,
      start? (.granting true) () renderer ⟨7, 24, 10, 20, .solid, 1⟩ = some handling :=
    Option.isSome_iff_exists.1 (by decide +kernel)
  exact ⟨handling, hhandling, handled_play hhandling _⟩

end Handling
end Compositor
