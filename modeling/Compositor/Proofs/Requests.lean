import Compositor.Proofs.BringUp
import Compositor.Proofs.Operation

namespace Compositor

def Event.request? : Event → Option Request
  | .call request _ => some request
  | .note _ => none

/-- What an event asks for, unless it only looks at the error queue. -/
def Event.action? : Event → Option Request
  | .call (.gl .getError) _ | .note _ => none
  | .call request _ => some request

def requests (trace : List Event) : List Request := trace.filterMap Event.request?

def actions (trace : List Event) : List Request := trace.filterMap Event.action?

/-- Whether something is asked for to set a renderer up. Its entry points are looked up apart from
that. -/
def Request.setsUp : Request → Bool
  | .display .queryExtension | .display .extensions | .display (.visualInfo _)
  | .display (.visualAttribute ..) | .display (.freeVisual _) | .display .configs
  | .display (.configAttribute ..) | .display (.configVisualDepth _)
  | .display (.createContext _) | .display (.makeCurrent ..) => true
  | .gl .extensions | .gl (.getInteger _) | .gl .getError | .gl (.disable _) | .gl (.depthMask _)
  | .gl (.textureEnvironment _) | .gl (.clear _) | .gl (.clearColor ..) | .gl (.stencilMask _)
  | .gl (.stencilFunction ..) | .gl .installDebugCallback => true
  | .paint (.resize ..) => true
  | _ => false

/-- Whether something is asked for to give a window its texture, or to take it away. -/
def Request.provides : Request → Bool
  | .display (.releaseTexImage ..) | .display (.createBridge ..) | .display (.destroyBridge _)
  | .display .canNamePixmap | .display (.namePixmap _) | .display (.freePixmap _) => true
  | .gl .getError | .gl .generateTexture | .gl (.deleteTexture _) | .gl (.bindTexture ..)
  | .gl (.textureParameter ..) => true
  | _ => false

/-- Whether something is asked for to tend the windows of a backend. -/
def Request.tends : Request → Bool
  | .display (.bindTexImage ..) | .display (.swapBuffers _) | .display (.bufferAge _)
  | .paint (.resize ..) | .paint (.drawQuad ..) => true
  | request => request.provides

/-- Whether something is asked for to take a backend down. -/
def Request.takesDown : Request → Bool
  | .paint (.freeBlurProgram _) | .paint (.freeWindowProgram _)
  | .display (.destroyContext _) => true
  | request => request.provides

def Event.setsUp (event : Event) : Bool := event.request?.all Request.setsUp

def Event.provides (event : Event) : Bool := event.request?.all Request.provides

def Event.tends (event : Event) : Bool := event.request?.all Request.tends

def Event.takesDown (event : Event) : Bool := event.request?.all Request.takesDown

variable {trace first rest drain : List Event} {site : String}

theorem all_append_of {p : Event → Bool} (hfirst : first.all p = true)
    (hrest : rest.all p = true) : (first ++ rest).all p = true := by
  rw [List.all_append, hfirst, hrest]
  rfl

@[simp] theorem requests_append (first rest : List Event) :
    requests (first ++ rest) = requests first ++ requests rest :=
  List.filterMap_append

@[simp] theorem actions_append (first rest : List Event) :
    actions (first ++ rest) = actions first ++ actions rest :=
  List.filterMap_append

theorem mem_requests_of_mem_actions {request : Request} (h : request ∈ actions trace) :
    request ∈ requests trace := by
  obtain ⟨event, hevent, haction⟩ := List.mem_filterMap.1 h
  refine List.mem_filterMap.2 ⟨event, hevent, ?_⟩
  unfold Event.action? at haction
  split at haction
  · cases haction
  · cases haction
  · exact haction

theorem of_mem_requests {p : Request → Bool}
    (h : trace.all (fun event => event.request?.all p) = true) :
    ∀ request ∈ requests trace, p request = true := by
  intro request hrequest
  obtain ⟨event, hevent, hasked⟩ := List.mem_filterMap.1 hrequest
  have hp := List.all_eq_true.1 h event hevent
  rw [hasked] at hp
  exact hp

theorem filter_requests_eq_nil {p q : Request → Bool}
    (hpq : ∀ request, p request = true → q request = false)
    (h : trace.all (fun event => event.request?.all p) = true) :
    (requests trace).filter q = [] := by
  rw [List.filter_eq_nil_iff]
  intro request hrequest
  rw [hpq request (of_mem_requests h request hrequest)]
  exact Bool.false_ne_true

theorem Request.tends_of_provides {request : Request} (h : request.provides = true) :
    request.tends = true := by
  unfold Request.tends
  split
  · rfl
  · rfl
  · rfl
  · rfl
  · rfl
  · exact h

theorem Request.takesDown_of_provides {request : Request} (h : request.provides = true) :
    request.takesDown = true := by
  unfold Request.takesDown
  split
  · rfl
  · rfl
  · rfl
  · exact h

theorem all_request?_mono {p q : Request → Bool}
    (hpq : ∀ request, p request = true → q request = true)
    (h : trace.all (fun event => event.request?.all p) = true) :
    trace.all (fun event => event.request?.all q) = true := by
  rw [List.all_eq_true] at h ⊢
  intro event hevent
  have hp := h event hevent
  cases event with
  | note notice => rfl
  | call request answer => exact hpq request hp

theorem all_tends_of_provides (h : trace.all Event.provides = true) :
    trace.all Event.tends = true :=
  all_request?_mono (fun _ => Request.tends_of_provides) h

theorem all_takesDown_of_provides (h : trace.all Event.provides = true) :
    trace.all Event.takesDown = true :=
  all_request?_mono (fun _ => Request.takesDown_of_provides) h

theorem Gl.Emptied.actions_eq_nil (h : Gl.Emptied site trace) : actions trace = [] := by
  rw [actions, List.filterMap_eq_nil_iff]
  exact h.forall_mem (fun _ => rfl) fun _ => rfl

theorem Gl.Emptied.all_setsUp (h : Gl.Emptied site trace) : trace.all Event.setsUp = true := by
  rw [List.all_eq_true]
  exact h.forall_mem (fun _ => rfl) fun _ => rfl

theorem Gl.Emptied.all_provides (h : Gl.Emptied site trace) :
    trace.all Event.provides = true := by
  rw [List.all_eq_true]
  exact h.forall_mem (fun _ => rfl) fun _ => rfl

theorem tearDownEvents_takesDown (shaders : Shaders) (context : ContextHandle)
    (hdrain : Gl.Emptied "GLX deinit" drain) :
    (tearDownEvents shaders context drain).all Event.takesDown = true := by
  have hfree : shaders.freeEvents.all Event.takesDown = true := by
    rw [List.all_eq_true]
    exact shaders.forall_mem_freeEvents (fun _ => rfl) fun _ => rfl
  exact all_append_of (all_append_of hfree (all_takesDown_of_provides hdrain.all_provides)) rfl

theorem Glx.Listed.all_setsUp {name : String} {listed : Bool} (h : Glx.Listed name trace listed) :
    trace.all Event.setsUp = true := by
  cases h <;> rfl

theorem Selection.Inquiry.setsUp {event : Event} (h : Selection.Inquiry event) :
    event.setsUp = true :=
  h.elim (fun _ => rfl) (fun _ _ _ => rfl) (fun _ _ => rfl) fun _ => rfl

theorem Selection.Selected.all_setsUp {depth : UInt8}
    {outcome : Except Fault (Except InitError DepthTable)}
    (h : Selection.Selected depth trace outcome) : trace.all Event.setsUp = true := by
  rw [List.all_eq_true]
  intro event hevent
  exact (h.inquires event hevent).setsUp

namespace Renderer

variable {screen : Screen} {settings : GlxSettings}

/-- What a trace of bringing a renderer up asks for: only what sets it up, and in the middle the two
entry points. -/
inductive SetsUp (texImage : TexImage) : List Event → Prop
  | intro {first resolution rest : List Event} (hfirst : first.all Event.setsUp = true)
    (hresolve : Glx.Resolved resolution (.ok texImage)) (hrest : rest.all Event.setsUp = true) :
    SetsUp texImage (first ++ (resolution ++ rest))

theorem SetsUp.append {texImage : TexImage} (h : SetsUp texImage trace)
    (hrest : rest.all Event.setsUp = true) : SetsUp texImage (trace ++ rest) := by
  obtain ⟨hfirst, hresolve, hlater⟩ := h
  rw [List.append_assoc, List.append_assoc]
  exact .intro hfirst hresolve (all_append_of hlater hrest)

theorem SetsUp.after {texImage : TexImage} (h : SetsUp texImage trace)
    (hfirst : first.all Event.setsUp = true) : SetsUp texImage (first ++ trace) := by
  obtain ⟨hlater, hresolve, hrest⟩ := h
  rw [← List.append_assoc]
  exact .intro (all_append_of hfirst hlater) hresolve hrest

/-- What passes the requests that set a renderer up, and any look for an entry point, passes them
all. -/
theorem SetsUp.all_of {texImage : TexImage} {p : Request → Bool} (h : SetsUp texImage trace)
    (hset : ∀ request, request.setsUp = true → p request = true)
    (hentry : ∀ name, p (.display (.entryPoint name)) = true) :
    trace.all (fun event => event.request?.all p) = true := by
  obtain ⟨hfirst, hresolve, hrest⟩ := h
  have hbefore := all_request?_mono hset hfirst
  have hafter := all_request?_mono hset hrest
  cases hresolve with
  | found =>
    apply all_append_of hbefore
    apply all_append_of _ hafter
    rw [List.all_cons, List.all_cons]
    exact Bool.and_eq_true_iff.2 ⟨hentry _, Bool.and_eq_true_iff.2 ⟨hentry _, rfl⟩⟩

namespace BringUp

theorem Created.all_setsUp {visual : VisualHandle} {context : ContextHandle}
    (h : Created visual trace (.ok context)) : trace.all Event.setsUp = true := by
  cases h with
  | created huse hdouble hlisting =>
    rw [List.all_cons, List.all_cons, all_append_of hlisting.all_setsUp rfl]
    rfl

theorem Acquired.all_setsUp {context : ContextHandle} (h : Acquired screen trace (.ok context)) :
    trace.all Event.setsUp = true := by
  cases h with
  | visual hcreate =>
    rw [List.all_cons, List.all_cons, all_append_of hcreate.all_setsUp rfl]
    rfl

theorem Debugged.all_setsUp (h : Debugged settings trace) : trace.all Event.setsUp = true := by
  cases h <;> rfl

theorem Stenciled.all_setsUp {usable : Bool} (h : Stenciled settings trace usable) :
    trace.all Event.setsUp = true := by
  cases h <;> rfl

theorem Equipped.setsUp {anySize : Bool} {texImage : TexImage}
    (h : Equipped settings trace anySize texImage) : SetsUp texImage trace := by
  cases h with
  | @intro debugging stencil resolution names _ hdebug hstencil hresolve =>
    have hresolved : SetsUp texImage ([] ++ (resolution ++ [])) := .intro rfl hresolve rfl
    rw [List.nil_append, List.append_nil] at hresolved
    have hnames : [.call (.gl .extensions) names].all Event.setsUp = true := rfl
    have hlisted := hresolved.after hnames
    exact (hlisted.after hstencil.all_setsUp).after hdebug.all_setsUp

theorem renderStateEvents_setsUp {drain : List Event}
    (hdrain : Gl.Emptied "render state setup" drain) :
    (renderStateEvents screen settings drain).all Event.setsUp = true := by
  cases hstencil : settings.noStencil with
  | true =>
    simp only [renderStateEvents, hstencil, if_true]
    exact hdrain.all_setsUp
  | false =>
    simp only [renderStateEvents, hstencil]
    exact hdrain.all_setsUp

theorem Attached.setsUp {context : ContextHandle} {renderer : Renderer}
    (h : Attached screen settings context trace (.ok (.ok renderer))) :
    SetsUp renderer.texImage trace := by
  cases h with
  | ready hequip hselect hdrain =>
    have hattached : [.call (.display (.makeCurrent screen.target context)) true].all
        Event.setsUp = true := rfl
    have hequipped := hequip.setsUp.after hattached
    exact hequipped.append (all_append_of hselect.all_setsUp (renderStateEvents_setsUp hdrain))

end BringUp

theorem BroughtUp.setsUp {renderer : Renderer}
    (h : BroughtUp screen settings trace (.ok (.ok renderer))) :
    SetsUp renderer.texImage trace := by
  cases h with
  | ready hacquire hattach => exact (hattach.setsUp.append rfl).after hacquire.all_setsUp

end Renderer

namespace Holdings

theorem giveBackEvents_provides (held : Holdings) (release : EntryPoint) (target : TextureTarget)
    {drain : List Event} (hdrain : Gl.Emptied "release pixmap" drain) :
    (held.giveBackEvents release target drain).all Event.provides = true := by
  obtain ⟨pixmap, bridge, texture⟩ := held
  have hbridge : (bridgeEvents ⟨pixmap, bridge, texture⟩ release target).all
      Event.provides = true := by
    cases bridge <;> cases texture <;> rfl
  have htexture : (textureEvents ⟨pixmap, bridge, texture⟩).all Event.provides = true := by
    cases texture <;> rfl
  have hpixmap : (pixmapEvents ⟨pixmap, bridge, texture⟩).all Event.provides = true := by
    rcases pixmap with _ | pixmap | window <;> rfl
  exact all_append_of (all_append_of hbridge hdrain.all_provides) (all_append_of htexture hpixmap)

end Holdings

namespace WindowTexture

theorem Named.all_provides {window : XId} {pixmap : Option NativePixmap}
    (h : Named window trace pixmap) : trace.all Event.provides = true := by
  cases h <;> rfl

theorem Acquired.all_provides {renderer : Renderer} {window : Window} {config : FbConfig}
    {target : TextureTarget} {result : Except WindowError WindowTexture}
    (h : Acquired renderer window config target trace result) :
    trace.all Event.provides = true := by
  cases h with
  | noPixmap hnaming hdrain =>
    exact all_append_of hnaming.all_provides (Holdings.giveBackEvents_provides _ _ _ hdrain)
  | noBridge hnaming hdrain =>
    exact all_append_of hnaming.all_provides (Holdings.giveBackEvents_provides _ _ _ hdrain)
  | noTexture hnaming hdrain =>
    exact all_append_of hnaming.all_provides (Holdings.giveBackEvents_provides _ _ _ hdrain)
  | whole hnaming => exact all_append_of hnaming.all_provides rfl

theorem Created.all_provides {renderer : Renderer} {window : Window}
    {result : Except WindowError WindowTexture} (h : Created renderer window trace result) :
    trace.all Event.provides = true := by
  cases h with
  | tooDeep hdepth => rfl
  | noConfig hdepth hconfig => rfl
  | acquired hdepth hconfig h => exact h.all_provides

theorem destroyEvents_provides (t : WindowTexture) (release : EntryPoint) {drain : List Event}
    (hdrain : Gl.Emptied "release pixmap" drain) :
    (t.destroyEvents release drain).all Event.provides = true :=
  all_append_of (Holdings.giveBackEvents_provides t.holdings release t.target hdrain) rfl

end WindowTexture

namespace Backend

theorem Cleared.all_provides {backend cleared : Backend} {window : XId}
    (h : backend.Cleared window trace cleared) : trace.all Event.provides = true := by
  cases h with
  | absent habsent => rfl
  | stale htexture hdrain => exact WindowTexture.destroyEvents_provides _ _ hdrain

/-- Preparing or releasing a window asks for nothing else than what it takes to give it a texture or
to take one away. -/
theorem Move.all_provides {backend next : Backend} {operation : Operation}
    {outcome : Except Fault Reply} {window : XId}
    (h : backend.Move operation trace outcome next)
    (hvacated : operation.vacated? = some window) : trace.all Event.provides = true := by
  cases h with
  | prepared hclear hcreate => exact all_append_of hclear.all_provides hcreate.all_provides
  | refused hclear hcreate => exact all_append_of hclear.all_provides hcreate.all_provides
  | unknown hshown habsent => rfl
  | released htexture hdrain => exact WindowTexture.destroyEvents_provides _ _ hdrain
  | _ => cases hvacated

theorem Move.all_tends {backend next : Backend} {operation : Operation}
    {outcome : Except Fault Reply} (h : backend.Move operation trace outcome next) :
    trace.all Event.tends = true := by
  cases h with
  | prepared hclear hcreate =>
    exact all_tends_of_provides (all_append_of hclear.all_provides hcreate.all_provides)
  | refused hclear hcreate =>
    exact all_tends_of_provides (all_append_of hclear.all_provides hcreate.all_provides)
  | rendered htexture hbridge hdrain =>
    exact all_append_of rfl (all_tends_of_provides hdrain.all_provides)
  | released htexture hdrain =>
    exact all_tends_of_provides (WindowTexture.destroyEvents_provides _ _ hdrain)
  | _ => rfl

end Backend
end Compositor
