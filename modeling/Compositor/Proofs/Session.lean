import Compositor.Proofs.Requests

namespace Compositor
namespace Backend

inductive Initialized (screen : Screen) (settings : Settings) :
    List Event → Except Fault (Except InitError Backend) → Prop
  | opened {trace : List Event} {renderer : Renderer}
    (hbringUp : Renderer.BroughtUp screen settings.glx trace (.ok (.ok renderer))) :
    Initialized screen settings (trace ++ [.note .backendReady])
      (.ok (.ok ⟨renderer, ∅, settings.glx.maxBufferAge⟩))
  | refused {trace : List Event} {cause : InitError}
    (hbringUp : Renderer.BroughtUp screen settings.glx trace (.ok (.error cause))) :
    Initialized screen settings trace (.ok (.error cause))
  | overflowed {trace : List Event} {e : Fault}
    (hbringUp : Renderer.BroughtUp screen settings.glx trace (.error e)) :
    Initialized screen settings trace (.error e)

theorem init_ensures (screen : Screen) (settings : Settings) :
    (init screen settings).Ensures (Initialized screen settings) := by
  apply Program.Ensures.bind (Renderer.bringUp_ensures screen settings.glx)
  · intro trace result h
    cases result with
    | error cause =>
      change Initialized screen settings (trace ++ []) _
      rw [List.append_nil]
      exact .refused h
    | ok renderer => exact .opened h
  · intro trace e h
    exact .overflowed h

inductive Ending where
  | deinit
  | drop

def Ending.notes (backend : Backend) : Ending → List Event
  | deinit => []
  | drop => [.note (.droppedWithoutDeinit backend.textures.size)]

def finish (backend : Backend) (order : DrainOrder) : Ending → Program Unit
  | .deinit => backend.shutDown order
  | .drop => backend.drop order

def Destroyed (backend : Backend) (texture : WindowTexture) (trace : List Event) : Prop :=
  ∃ drain, Gl.Emptied "release pixmap" drain ∧
    trace = texture.destroyEvents backend.renderer.texImage.release drain

theorem destructions_provides {backend : Backend} {textures : List WindowTexture}
    {destructions : List (List Event)} (h : List.Forall₂ backend.Destroyed textures destructions) :
    destructions.flatten.all Event.provides = true := by
  induction h with
  | nil => rfl
  | cons hfirst hrest ih =>
    obtain ⟨drain, hdrain, rfl⟩ := hfirst
    exact all_append_of (WindowTexture.destroyEvents_provides _ _ hdrain) ih

inductive Finished (backend : Backend) (order : DrainOrder) (ending : Ending) :
    List Event → Prop
  | intro {destructions : List (List Event)} {drain : List Event}
    (hdestroy : List.Forall₂ backend.Destroyed (order.arrange backend.textures.values)
      destructions)
    (hdrain : Gl.Emptied "GLX deinit" drain) :
    Finished backend order ending
      (ending.notes backend ++ (destructions.flatten ++
        .note (.windowsReleased backend.textures.size) ::
          (tearDownEvents backend.renderer.shaders backend.renderer.context drain ++
            [.note .backendDown])))

/-- The end asks for nothing else than what takes the backend down. -/
theorem Finished.all_takesDown {backend : Backend} {order : DrainOrder} {ending : Ending}
    {trace : List Event} (h : backend.Finished order ending trace) :
    trace.all Event.takesDown = true := by
  obtain ⟨hdestroy, hdrain⟩ := h
  have hnotes : (ending.notes backend).all Event.takesDown = true := by
    cases ending <;> rfl
  have hdestroyed := all_takesDown_of_provides (destructions_provides hdestroy)
  have hteardown :=
    tearDownEvents_takesDown backend.renderer.shaders backend.renderer.context hdrain
  exact all_append_of hnotes (all_append_of hdestroyed (all_append_of hteardown rfl))

theorem shutDown_returns (backend : Backend) (order : DrainOrder) :
    (backend.shutDown order).Returns fun trace _ => backend.Finished order .deinit trace := by
  have hdestroy := Program.Returns.forM (order.arrange backend.textures.values)
    fun texture => texture.destroy_returns backend.renderer
  apply Program.Returns.bind hdestroy
  intro trace _ h
  obtain ⟨destructions, hdestroy, rfl⟩ := h
  apply Program.Returns.log
  apply Program.Returns.bind (tearDown_some_returns _ _)
  intro teardown _ h
  obtain ⟨drain, hdrain, rfl⟩ := h
  exact ⟨(), rfl, .intro hdestroy hdrain⟩

theorem finish_returns (backend : Backend) (order : DrainOrder) (ending : Ending) :
    (backend.finish order ending).Returns fun trace _ => backend.Finished order ending trace := by
  cases ending with
  | deinit => exact backend.shutDown_returns order
  | drop =>
    apply Program.Returns.log
    apply (backend.shutDown_returns order).mono
    intro trace _ h
    obtain ⟨hdestroy, hdrain⟩ := h
    exact .intro hdestroy hdrain

end Backend

structure Turn where
  before : Backend
  operation : Operation
  trace : List Event
  outcome : Except Fault Reply
  after : Backend

def Turn.Moves (turn : Turn) : Prop :=
  turn.before.Move turn.operation turn.trace turn.outcome turn.after

/-- A backend that came up and what was done with it. -/
structure Session (σ : Type) where
  opening : List Event
  turns : List Turn
  backend : Backend
  state : σ

namespace Session

/-- A backend that comes up, unless it does not. -/
def start? (driver : Driver σ) (state : σ) (screen : Screen) (settings : Settings) :
    Option (Session σ) :=
  let run := (Backend.init screen settings).run driver state
  match run.outcome with
  | .ok (.ok backend) => some ⟨run.trace, [], backend, run.state⟩
  | _ => none

def extend (session : Session σ) (turn : Turn) (state : σ) : Session σ :=
  { session with turns := session.turns ++ [turn], backend := turn.after, state }

/-- Performs an operation. A fault ends it and leaves the backend as it was. -/
def perform (driver : Driver σ) (session : Session σ) (operation : Operation) : Session σ :=
  let run := (session.backend.perform operation).run driver session.state
  let turn : Turn :=
    match run.outcome with
    | .ok (reply, after) => ⟨session.backend, operation, run.trace, .ok reply, after⟩
    | .error e => ⟨session.backend, operation, run.trace, .error e, session.backend⟩
  session.extend turn run.state

def play (driver : Driver σ) (session : Session σ) (operations : List Operation) : Session σ :=
  operations.foldl (perform driver) session

def trace (session : Session σ) : List Event :=
  session.opening ++ session.turns.flatMap Turn.trace

def finish (driver : Driver σ) (session : Session σ) (order : DrainOrder)
    (ending : Backend.Ending) : Run σ Unit :=
  (session.backend.finish order ending).run driver session.state

/-- Everything that happens from bring-up to the end, which comes early if bring-up fails. -/
def life (driver : Driver σ) (state : σ) (screen : Screen) (settings : Settings)
    (operations : List Operation) (order : DrainOrder) (ending : Backend.Ending) : List Event :=
  match start? driver state screen settings with
  | none => ((Backend.init screen settings).run driver state).trace
  | some session =>
    let session := session.play driver operations
    session.trace ++ (session.finish driver order ending).trace

variable {driver : Driver σ} {state : σ} {screen : Screen} {settings : Settings}
  {session : Session σ}

theorem start?_eq_some (h : start? driver state screen settings = some session) :
    session.turns = [] ∧
      Backend.Initialized screen settings session.opening (.ok (.ok session.backend)) := by
  have hinit := (Backend.init_ensures screen settings).run driver state
  unfold start? at h
  dsimp only at h
  split at h
  · next backend houtcome =>
    cases h
    rw [houtcome] at hinit
    exact ⟨rfl, hinit⟩
  · cases h

theorem start?_eq_none (h : start? driver state screen settings = none) :
    ∃ outcome, Backend.Initialized screen settings
      ((Backend.init screen settings).run driver state).trace outcome ∧
        ∀ backend, outcome ≠ .ok (.ok backend) := by
  have hinit := (Backend.init_ensures screen settings).run driver state
  have hnone : ∀ backend, ((Backend.init screen settings).run driver state).outcome ≠
      .ok (.ok backend) := by
    intro backend houtcome
    simp only [start?, houtcome, reduceCtorEq] at h
  exact ⟨_, hinit, hnone⟩

theorem setsUp_of_start? (h : start? driver state screen settings = some session) :
    Renderer.SetsUp session.backend.renderer.texImage session.opening := by
  obtain ⟨opening, turns, backend, final⟩ := session
  obtain ⟨-, hinit⟩ := start?_eq_some h
  cases hinit with
  | opened hbringUp => exact hbringUp.setsUp.append rfl

theorem trace_extend (session : Session σ) (turn : Turn) (state : σ) :
    (session.extend turn state).trace = session.trace ++ turn.trace := by
  simp [trace, extend]

theorem exists_turn_perform (driver : Driver σ) (session : Session σ) (operation : Operation) :
    let run := (session.backend.perform operation).run driver session.state
    ∃ turn, session.perform driver operation = session.extend turn run.state ∧
      turn.trace = run.trace ∧ turn.before = session.backend ∧ turn.operation = operation ∧
      turn.Moves := by
  intro run
  have hmove := (session.backend.perform_ensures operation).run driver session.state
  refine ⟨_, rfl, ?_⟩
  cases houtcome : ((session.backend.perform operation).run driver session.state).outcome with
  | ok result =>
    rw [houtcome] at hmove
    exact ⟨rfl, rfl, rfl, hmove⟩
  | error e =>
    rw [houtcome] at hmove
    exact ⟨rfl, rfl, rfl, hmove⟩

theorem perform_eq_extend (driver : Driver σ) (session : Session σ) (operation : Operation) :
    ∃ turn state, session.perform driver operation = session.extend turn state ∧
      turn.before = session.backend ∧ turn.operation = operation ∧ turn.Moves := by
  obtain ⟨turn, hperform, -, hturn⟩ := session.exists_turn_perform driver operation
  exact ⟨turn, _, hperform, hturn⟩

/-- What every turn keeps is kept by any number of operations. -/
theorem play_induction {motive : Session σ → Prop} (hstart : motive session)
    (hturn : ∀ session turn state, motive session → turn.before = session.backend → turn.Moves →
      motive (extend session turn state)) (operations : List Operation) :
    motive (session.play driver operations) := by
  induction operations generalizing session with
  | nil => exact hstart
  | cons operation operations ih =>
    obtain ⟨turn, state, hperform, hbefore, -, hmoves⟩ :=
      session.perform_eq_extend driver operation
    have hnext := hturn session turn state hstart hbefore hmoves
    rw [← hperform] at hnext
    exact ih hnext

theorem opening_play (session : Session σ) (operations : List Operation) :
    (session.play driver operations).opening = session.opening :=
  play_induction (motive := fun other => other.opening = session.opening) rfl
    (fun _ _ _ h _ _ => h) operations

theorem operations_play (session : Session σ) (operations : List Operation) :
    (session.play driver operations).turns.map Turn.operation =
      session.turns.map Turn.operation ++ operations := by
  induction operations generalizing session with
  | nil => exact (List.append_nil _).symm
  | cons operation operations ih =>
    obtain ⟨turn, state, hperform, -, hoperation, -⟩ := session.perform_eq_extend driver operation
    have hnext := ih (session.perform driver operation)
    change ((session.perform driver operation).play driver operations).turns.map _ = _
    rw [hnext, hperform]
    simp [extend, hoperation]

theorem operations_play_of_start? (h : start? driver state screen settings = some session)
    (operations : List Operation) :
    (session.play driver operations).turns.map Turn.operation = operations := by
  rw [operations_play, (start?_eq_some h).1]
  rfl

theorem finished_finish (session : Session σ) (order : DrainOrder) (ending : Backend.Ending) :
    (session.finish driver order ending).outcome = .ok () ∧
      session.backend.Finished order ending (session.finish driver order ending).trace := by
  have hfinish := (session.backend.finish_returns order ending).run driver session.state
  obtain ⟨_, houtcome, hfinished⟩ := hfinish
  exact ⟨houtcome, hfinished⟩

end Session

/-- What a request is answered with where everything is to be had, but perhaps no context can be
made current. -/
def Request.granted (attaches : Bool) : (request : Request) → request.Answer
  | .display .queryExtension | .display .canNamePixmap | .gl .installDebugCallback => true
  | .display (.makeCurrent ..) => attaches
  | .display .extensions => some Extension.textureFromPixmap
  | .display (.visualInfo visual) => some ⟨visual.toNat⟩
  | .display (.visualAttribute ..) => some (1 : Int32)
  | .display .configs => [⟨0⟩]
  | .display (.configAttribute _ name) =>
    match name with
    | .samples | .alphaSize => some (0 : Int32)
    | .bufferSize => some (24 : Int32)
    | .redSize => some (8 : Int32)
    | _ => some (1 : Int32)
  | .display (.configVisualDepth _) => some (24 : Int32)
  | .display (.createContext _) => some ⟨1⟩
  | .display (.entryPoint _) => some ⟨1⟩
  | .display (.createBridge ..) => some ⟨1⟩
  | .display (.namePixmap window) => some window
  | .display (.bufferAge _) => (1 : UInt32)
  | .display (.freeVisual _) | .display (.destroyContext _) | .display (.bindTexImage ..)
  | .display (.releaseTexImage ..) | .display (.destroyBridge _) | .display (.freePixmap _)
  | .display (.swapBuffers _) => ()
  | .gl .extensions => Extension.nonPowerOfTwo
  | .gl (.getInteger _) => (8 : Int32)
  | .gl .getError => Gl.noError
  | .gl .generateTexture => some ⟨1⟩
  | .gl (.deleteTexture _) | .gl (.bindTexture ..) | .gl (.textureParameter ..)
  | .gl (.disable _) | .gl (.depthMask _) | .gl (.textureEnvironment _) | .gl (.clear _)
  | .gl (.clearColor ..) | .gl (.stencilMask _) | .gl (.stencilFunction ..) => ()
  | .paint _ => ()

def Driver.granting (attaches : Bool) : Driver Unit where
  respond _ request := (request.granted attaches, ())

/-- A screen of the depth that such surroundings have a configuration for. -/
def Screen.ofDepth24 : Screen := ⟨1, none, 33, 24, 640, 480⟩

end Compositor
