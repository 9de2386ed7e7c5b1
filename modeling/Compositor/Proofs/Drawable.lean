import Compositor.Proofs.CurrentContext
import Compositor.Proofs.Tenure
import Compositor.Proofs.WindowMap

namespace Compositor

/-- The drawable that a request attaches a context to, swaps or asks the age of. -/
def Request.drawable? : Request → Option XId
  | .display (.makeCurrent drawable _) | .display (.swapBuffers drawable)
  | .display (.bufferAge drawable) => some drawable
  | _ => none

/-- The requests of a trace that name a drawable. -/
def aims (trace : List Event) : List Request :=
  (requests trace).filter (·.drawable?.isSome)

variable {trace first rest : List Event} {screen : Screen}

@[simp] theorem aims_append (first rest : List Event) :
    aims (first ++ rest) = aims first ++ aims rest := by
  simp only [aims, requests_append, List.filter_append]

theorem mem_aims {request : Request} :
    request ∈ aims trace ↔ request ∈ requests trace ∧ request.drawable?.isSome = true :=
  List.mem_filter

theorem Request.isSome_drawable?_of_takesDown {request : Request} (h : request.takesDown = true) :
    request.drawable?.isSome = false := by
  unfold Request.drawable?
  split
  · cases h
  · cases h
  · cases h
  · rfl

theorem aims_eq_nil_of_takesDown (h : trace.all Event.takesDown = true) : aims trace = [] :=
  filter_requests_eq_nil (fun _ => Request.isSome_drawable?_of_takesDown) h

theorem aims_eq_nil_of_provides (h : trace.all Event.provides = true) : aims trace = [] :=
  aims_eq_nil_of_takesDown (all_takesDown_of_provides h)

/-- Whether a request attaches a context, be it refused. -/
def Request.attaches : Request → Bool
  | .display (.makeCurrent ..) => true
  | _ => false

theorem Request.attaches_or_of_setsUp {request : Request} (h : request.setsUp = true) :
    (request.attaches || !request.drawable?.isSome) = true := by
  unfold Request.drawable?
  split
  · rfl
  · cases h
  · cases h
  · exact Bool.or_true _

namespace Renderer

variable {settings : GlxSettings} {context : ContextHandle} {renderer : Renderer}

theorem SetsUp.aims_eq_nil {texImage : TexImage} {work : List Event} (h : SetsUp texImage trace)
    (hwork : work ⊆ trace) (hspares : work.all Event.sparesContext = true) : aims work = [] := by
  have hall := of_mem_requests (h.all_of (fun _ => Request.attaches_or_of_setsUp) fun _ => rfl)
  rw [aims, List.filter_eq_nil_iff]
  intro request hrequest
  obtain ⟨event, hevent, hasked⟩ := List.mem_filterMap.1 hrequest
  have hset := hall request (List.mem_filterMap.2 ⟨event, hwork hevent, hasked⟩)
  have hspared := List.all_eq_true.1 hspares event hevent
  cases event with
  | note notice => cases hasked
  | call other answer =>
    cases hasked
    have hattaches : request.attaches = false := by
      unfold Request.attaches
      split
      · cases hspared
      · rfl
    rw [hattaches, Bool.false_or, Bool.not_eq_true'] at hset
    rw [hset]
    exact Bool.false_ne_true

theorem BringUp.Acquired.aims_eq_nil (h : Acquired screen trace (.ok context)) :
    aims trace = [] := by
  cases h with
  | visual hcreate =>
    cases hcreate with
    | created huse hdouble hlisting =>
      cases hlisting with
      | found hlisted => rfl

theorem BringUp.Attached.aims_eq (h : Attached screen settings context trace (.ok (.ok renderer))) :
    aims trace = [.display (.makeCurrent screen.target context)] := by
  have hsets := h.setsUp
  obtain ⟨he, -⟩ | ⟨work, rfl, hspares⟩ := h.cases
  · cases he
  · have hwork := hsets.aims_eq_nil (List.subset_cons_self _ _) hspares
    exact congrArg (_ :: ·) hwork

theorem BroughtUp.aims_eq (h : BroughtUp screen settings trace (.ok (.ok renderer))) :
    aims trace = [.display (.makeCurrent screen.target renderer.context)] := by
  cases h with
  | ready hacquire hattach =>
    rw [hattach.context_eq, aims_append, aims_append, hacquire.aims_eq_nil, hattach.aims_eq]
    rfl

theorem BroughtUp.settings_eq (h : BroughtUp screen settings trace (.ok (.ok renderer))) :
    renderer.settings = settings := by
  cases h with
  | ready hacquire hattach =>
    cases hattach with
    | ready hequip hselect hdrain => rfl

end Renderer

namespace Backend

variable {backend next : Backend} {operation : Operation} {outcome : Except Fault Reply}

theorem Move.target_eq (h : backend.Move operation trace outcome next) :
    next.renderer.screen.target = backend.renderer.screen.target := by
  obtain ⟨shaders, width, height, hrenderer⟩ := h.renderer_eq
  rw [hrenderer]
  rfl

theorem Move.settings_eq (h : backend.Move operation trace outcome next) :
    next.renderer.settings = backend.renderer.settings := by
  obtain ⟨shaders, width, height, hrenderer⟩ := h.renderer_eq
  rw [hrenderer]

/-- Presenting and asking for the age apart, an operation names no drawable. -/
theorem Move.aims_eq_nil (h : backend.Move operation trace outcome next)
    (hpresent : operation ≠ .present) (hage : operation ≠ .bufferAge) : aims trace = [] := by
  have hvacated {window : XId} (hwindow : operation.vacated? = some window) : aims trace = [] :=
    aims_eq_nil_of_provides (h.all_provides hwindow)
  cases h with
  | prepared hclear hcreate => exact hvacated rfl
  | refused hclear hcreate => exact hvacated rfl
  | released htexture hdrain => exact hvacated rfl
  | rendered htexture hbridge hdrain =>
    rw [WindowTexture.refreshEvents, aims_append, aims_eq_nil_of_provides hdrain.all_provides]
    rfl
  | presented => exact absurd rfl hpresent
  | untracked hswap => exact absurd rfl hage
  | tracked hswap => exact absurd rfl hage
  | _ => rfl

end Backend

/-- What a turn does with a drawable, where this is the target and this the swap method. Presenting
swaps the target; its age is asked for where ages are tracked, and only an answer other than zero
counts; nothing else is asked for then. No other operation names a drawable. -/
def Turn.ShowsOn (turn : Turn) (method : SwapMethod) (target : XId) : Prop :=
  match turn.operation with
  | .present =>
    turn.outcome = .ok .done ∧ turn.after = turn.before ∧
      requests turn.trace = [.display (.swapBuffers target)]
  | .bufferAge =>
    requests turn.trace = (if method = .bufferAge then [.display (.bufferAge target)] else []) ∧
    turn.after = turn.before ∧
    ∃ age, turn.outcome = .ok (.age age) ∧
      (∀ frames, age.frames? = some frames ↔ method = .bufferAge ∧ frames ≠ 0 ∧
        .call (.display (.bufferAge target)) frames ∈ turn.trace) ∧
      (age.mustRepaintAll = true ↔
        method ≠ .bufferAge ∨ .call (.display (.bufferAge target)) (0 : UInt32) ∈ turn.trace)
  | _ => aims turn.trace = []

@[simp] theorem BufferAge.frames?_ofRaw_eq_some {answer frames : UInt32} :
    (ofRaw answer).frames? = some frames ↔ frames ≠ 0 ∧ answer = frames := by
  unfold ofRaw
  split
  · next hzero =>
    simp only [frames?, hzero]
    grind
  · next hage =>
    simp only [frames?, Option.some.injEq]
    grind

@[simp] theorem BufferAge.mustRepaintAll_ofRaw {answer : UInt32} :
    (ofRaw answer).mustRepaintAll = true ↔ answer = 0 := by
  unfold ofRaw
  split
  · next hzero => simp [mustRepaintAll, frames?, hzero]
  · next hage => simp [mustRepaintAll, frames?, hage]

namespace Turn

variable {turn : Turn}

theorem Moves.showsOn (h : turn.Moves) :
    turn.ShowsOn turn.before.renderer.settings.swapMethod turn.before.renderer.screen.target := by
  obtain ⟨backend, operation, trace, outcome, next⟩ := turn
  change backend.Move operation trace outcome next at h
  cases operation with
  | present =>
    cases h with
    | presented => exact ⟨rfl, rfl, rfl⟩
    | unknown hshown habsent => cases hshown
  | bufferAge =>
    cases h with
    | unknown hshown habsent => cases hshown
    | untracked hswap =>
      refine ⟨(if_neg hswap).symm, rfl, _, rfl, ?_, ?_⟩
      · intro frames
        simp [BufferAge.frames?, hswap]
      · simp [BufferAge.mustRepaintAll, BufferAge.frames?, hswap]
    | @tracked answer hswap =>
      have hanswer (frames : UInt32) :
          .call (.display (.bufferAge backend.renderer.screen.target)) frames ∈
            [Event.call (.display (.bufferAge backend.renderer.screen.target)) answer] ↔
              answer = frames := by
        simp [eq_comm]
      refine ⟨(if_pos hswap).symm, rfl, _, rfl, ?_, ?_⟩
      · intro frames
        rw [BufferAge.frames?_ofRaw_eq_some, hanswer]
        exact ⟨fun hknown => ⟨hswap, hknown⟩, fun hknown => hknown.2⟩
      · rw [BufferAge.mustRepaintAll_ofRaw, hanswer]
        exact ⟨.inr, fun hzero => hzero.resolve_left (not_not_intro hswap)⟩
  | _ => exact h.aims_eq_nil (by simp) (by simp)

theorem ShowsOn.drawable?_of_mem_aims {method : SwapMethod} {target : XId}
    (h : turn.ShowsOn method target) :
    ∀ request ∈ aims turn.trace, request.drawable? = some target := by
  obtain ⟨backend, operation, trace, outcome, next⟩ := turn
  intro request hrequest
  cases operation with
  | present =>
    rw [aims, h.2.2] at hrequest
    rw [List.mem_singleton.1 hrequest]
    rfl
  | bufferAge =>
    rw [aims, h.1] at hrequest
    split at hrequest
    · rw [List.mem_singleton.1 hrequest]
      rfl
    · cases hrequest
  | _ =>
    change aims trace = [] at h
    rw [h] at hrequest
    cases hrequest

end Turn

section

variable {start finish : Backend} {turns : List Turn}

theorem Chained.target_eq (h : Chained start turns finish) :
    finish.renderer.screen.target = start.renderer.screen.target :=
  h.induction (motive := fun backend =>
    backend.renderer.screen.target = start.renderer.screen.target) rfl
    fun _ _ hmoves hbefore => hmoves.target_eq.trans hbefore

theorem Chained.settings_eq (h : Chained start turns finish) :
    finish.renderer.settings = start.renderer.settings :=
  h.induction (motive := fun backend => backend.renderer.settings = start.renderer.settings) rfl
    fun _ _ hmoves hbefore => hmoves.settings_eq.trans hbefore

theorem Chained.showsOn (h : Chained start turns finish) :
    ∀ turn ∈ turns,
      turn.ShowsOn start.renderer.settings.swapMethod start.renderer.screen.target := by
  intro turn hturn
  obtain ⟨earlier, later, rfl⟩ := List.append_of_mem hturn
  have hshows := h.moves.showsOn
  rwa [h.before.target_eq, h.before.settings_eq] at hshows

end

namespace Session

variable {driver : Driver σ} {state : σ} {settings : Settings} {session : Session σ}

theorem aims_of_start? (h : start? driver state screen settings = some session) :
    aims session.opening =
      [.display (.makeCurrent screen.target session.backend.renderer.context)] := by
  obtain ⟨opening, turns, backend, final⟩ := session
  obtain ⟨-, hinit⟩ := start?_eq_some h
  cases hinit with
  | opened hbringUp =>
    change aims (_ ++ _) = _
    rw [aims_append, hbringUp.aims_eq]
    rfl

theorem renderer_of_start? (h : start? driver state screen settings = some session) :
    session.backend.renderer.screen = screen ∧
      session.backend.renderer.settings = settings.glx := by
  obtain ⟨opening, turns, backend, final⟩ := session
  obtain ⟨-, hinit⟩ := start?_eq_some h
  cases hinit with
  | opened hbringUp => exact ⟨hbringUp.screen_eq, hbringUp.settings_eq⟩

theorem aims_finish (session : Session σ) (order : DrainOrder) (ending : Backend.Ending) :
    aims (session.finish driver order ending).trace = [] :=
  aims_eq_nil_of_takesDown (session.finished_finish order ending).2.all_takesDown

theorem mem_aims_trace {request : Request} :
    request ∈ aims session.trace ↔
      request ∈ aims session.opening ∨ ∃ turn ∈ session.turns, request ∈ aims turn.trace := by
  rw [trace, aims_append, List.mem_append]
  apply or_congr_right
  simp only [mem_aims, requests, List.filterMap_flatMap, List.mem_flatMap]
  grind

/-- Whatever the surroundings answer and whatever is asked of it, a backend has the context attached
to one drawable, and that one is swapped and asked for its age until the end: the overlay that the
screen came up with, else the root window. -/
theorem one_drawable (h : start? driver state screen settings = some session)
    (operations : List Operation) (order : DrainOrder) (ending : Backend.Ending) :
    let played := session.play driver operations
    let target := screen.overlay.getD screen.root
    played.turns.map Turn.operation = operations ∧
    (∃ context, aims played.opening = [.display (.makeCurrent target context)]) ∧
    (∀ turn ∈ played.turns, turn.ShowsOn settings.glx.swapMethod target) ∧
    ∀ request ∈ aims (played.trace ++ (played.finish driver order ending).trace),
      request.drawable? = some target := by
  intro played target
  have hchained : Chained session.backend played.turns played.backend := chained_play h operations
  have hopening : aims played.opening =
      [.display (.makeCurrent target session.backend.renderer.context)] := by
    rw [opening_play]
    exact aims_of_start? h
  have hshows : ∀ turn ∈ played.turns, turn.ShowsOn settings.glx.swapMethod target := by
    obtain ⟨hscreen, hsettings⟩ := renderer_of_start? h
    have hshows := hchained.showsOn
    rwa [hscreen, hsettings] at hshows
  refine ⟨operations_play_of_start? h operations, ⟨_, hopening⟩, hshows, ?_⟩
  intro request hrequest
  rw [aims_append, aims_finish, List.append_nil, mem_aims_trace, hopening] at hrequest
  rcases hrequest with hrequest | ⟨turn, hturn, hrequest⟩
  · rw [List.mem_singleton.1 hrequest]
    rfl
  · exact (hshows turn hturn).drawable?_of_mem_aims request hrequest

theorem one_drawable_granting :
    ∃ session, start? (.granting true) () { Screen.ofDepth24 with overlay := some 5 }
        { glx := { swapMethod := .bufferAge } } = some session ∧
      let operations : List Operation :=
        [.present, .bufferAge, .resize 800 600,
          .prepare { id := 7, depth := 24, width := 10, height := 20 }, .render 7, .present,
          .bufferAge]
      let played := session.play (.granting true) operations
      played.turns.map Turn.operation = operations ∧
      (∃ context, aims played.opening = [.display (.makeCurrent 5 context)]) ∧
      (∀ turn ∈ played.turns, turn.ShowsOn .bufferAge 5) ∧
      ∀ request ∈ aims (played.trace ++ (played.finish (.granting true) .byTexture .drop).trace),
        request.drawable? = some 5 := by
  obtain ⟨session, hsession⟩ : ∃ session, start? (.granting true) ()
      { Screen.ofDepth24 with overlay := some 5 } { glx := { swapMethod := .bufferAge } } =
        some session :=
    Option.isSome_iff_exists.1 (by decide +kernel)
  exact ⟨session, hsession, one_drawable hsession _ _ _⟩

end Session
end Compositor
