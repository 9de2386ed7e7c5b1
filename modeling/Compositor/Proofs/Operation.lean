import Compositor.Backend.Basic
import Compositor.Proofs.Lifecycle

namespace Compositor

inductive Operation where
  | prepare (window : Window)
  | render (window : XId)
  | release (window : XId)
  | compose (window : XId) (x y : Int32) (clip : Region)
  | present
  | bufferAge
  | resize (width height : UInt32)
  /-- Puts other shader programs in the place of the renderer's. -/
  | keepShaders (shaders : Shaders)

/-- The window that has to have a texture already. -/
def Operation.shown? : Operation → Option XId
  | .render window | .release window | .compose window .. => some window
  | _ => none

/-- The window that an operation takes the texture from, if it has one. -/
def Operation.vacated? : Operation → Option XId
  | .prepare window => some window.id
  | .release window => some window
  | _ => none

inductive Reply where
  | window (result : Except WindowError Unit)
  | age (age : BufferAge)
  | done

namespace Backend

def perform (backend : Backend) : Operation → Program (Reply × Backend)
  | .prepare window => do
    let (result, backend) ← backend.prepare window
    return (.window result, backend)
  | .render window => do return (.window (← backend.render window), backend)
  | .release window => do
    let (result, backend) ← backend.release window
    return (.window result, backend)
  | .compose window x y clip => do return (.window (← backend.compose window x y clip), backend)
  | .present => do
    backend.present
    return (.done, backend)
  | .bufferAge => do return (.age (← backend.bufferAge), backend)
  | .resize width height => do return (.done, ← backend.resize width height)
  | .keepShaders shaders =>
    return (.done, { backend with renderer := { backend.renderer with shaders } })

def without (backend : Backend) (window : XId) : Backend :=
  { backend with textures := backend.textures.erase window }

def withTexture (backend : Backend) (window : XId) (texture : WindowTexture) : Backend :=
  { backend with textures := backend.textures.insert window texture }

theorem texture?_without (backend : Backend) (window other : XId) :
    (backend.without window).texture? other =
      if window = other then none else backend.texture? other := by
  simp only [texture?, without, Std.TreeMap.getElem?_erase, Std.compare_eq_iff_eq]

theorem texture?_withTexture (backend : Backend) (window other : XId) (texture : WindowTexture) :
    (backend.withTexture window texture).texture? other =
      if window = other then some texture else backend.texture? other := by
  simp only [texture?, withTexture, Std.TreeMap.getElem?_insert, Std.compare_eq_iff_eq]

/-- The events of destroying a texture that a window may still have, and what is left. -/
inductive Cleared (backend : Backend) (window : XId) : List Event → Backend → Prop
  | absent (habsent : backend.texture? window = none) : Cleared backend window [] backend
  | stale {texture : WindowTexture} {drain : List Event}
    (htexture : backend.texture? window = some texture)
    (hdrain : Gl.Emptied "release pixmap" drain) :
    Cleared backend window
      (.note (.replacingTexture window) ::
        texture.destroyEvents backend.renderer.texImage.release drain)
      (backend.without window)

/-- The events of an operation, how it ends, and the backend afterwards. -/
inductive Move (backend : Backend) :
    Operation → List Event → Except Fault Reply → Backend → Prop
  | prepared {window : Window} {clearing creation : List Event} {cleared : Backend}
    {texture : WindowTexture} (hclear : backend.Cleared window.id clearing cleared)
    (hcreate : WindowTexture.Created backend.renderer window creation (.ok texture)) :
    Move backend (.prepare window) (clearing ++ creation) (.ok (.window (.ok ())))
      (cleared.withTexture window.id texture)
  | refused {window : Window} {clearing creation : List Event} {cleared : Backend}
    {cause : WindowError} (hclear : backend.Cleared window.id clearing cleared)
    (hcreate : WindowTexture.Created backend.renderer window creation (.error cause)) :
    Move backend (.prepare window) (clearing ++ creation) (.ok (.window (.error cause))) cleared
  | unknown {operation : Operation} {window : XId} (hshown : operation.shown? = some window)
    (habsent : backend.texture? window = none) :
    Move backend operation [] (.ok (.window (.error (.unknownWindow window)))) backend
  | rendered {window : XId} {texture : WindowTexture} {bridge : BridgePixmap} {drain : List Event}
    (htexture : backend.texture? window = some texture) (hbridge : texture.bridge = some bridge)
    (hdrain : Gl.Emptied "bind pixmap" drain) :
    Move backend (.render window)
      (texture.refreshEvents backend.renderer.texImage.bind bridge drain) (.ok (.window (.ok ())))
      backend
  | unbound {window : XId} {texture : WindowTexture}
    (htexture : backend.texture? window = some texture) (hbridge : texture.bridge = none) :
    Move backend (.render window) [] (.error .releasedTexture) backend
  | released {window : XId} {texture : WindowTexture} {drain : List Event}
    (htexture : backend.texture? window = some texture)
    (hdrain : Gl.Emptied "release pixmap" drain) :
    Move backend (.release window)
      (texture.destroyEvents backend.renderer.texImage.release drain) (.ok (.window (.ok ())))
      (backend.without window)
  | composed {window : XId} {x y lower : Int32} {clip flipped : Region} {texture : WindowTexture}
    (htexture : backend.texture? window = some texture) (hbound : texture.isBound = true)
    (hplace : Flip.place y texture.height clip backend.renderer.screen.height texture.yInverted =
      .ok (lower, flipped)) :
    Move backend (.compose window x y clip)
      [.call (.paint (.drawQuad (texture.quad x lower) flipped)) ()] (.ok (.window (.ok ())))
      backend
  | overflowed {window : XId} {x y : Int32} {clip : Region} {texture : WindowTexture} {e : Fault}
    (htexture : backend.texture? window = some texture) (hbound : texture.isBound = true)
    (hplace : Flip.place y texture.height clip backend.renderer.screen.height texture.yInverted =
      .error e) :
    Move backend (.compose window x y clip) [] (.error e) backend
  | skipped {window : XId} {x y : Int32} {clip : Region} {texture : WindowTexture}
    (htexture : backend.texture? window = some texture) (hbound : texture.isBound = false) :
    Move backend (.compose window x y clip) [.note (.notBound texture.window)]
      (.ok (.window (.ok ()))) backend
  | presented :
    Move backend .present
      [.note (.swapping backend.renderer.screen.target),
        .call (.display (.swapBuffers backend.renderer.screen.target)) ()]
      (.ok .done) backend
  | untracked (hswap : backend.renderer.settings.swapMethod ≠ .bufferAge) :
    Move backend .bufferAge [] (.ok (.age .unknown)) backend
  | tracked {frames : UInt32} (hswap : backend.renderer.settings.swapMethod = .bufferAge) :
    Move backend .bufferAge
      [.call (.display (.bufferAge backend.renderer.screen.target)) frames]
      (.ok (.age (.ofRaw frames))) backend
  | resized {width height : UInt32} :
    Move backend (.resize width height)
      [.note (.targetResized width height), .call (.paint (.resize width height)) ()] (.ok .done)
      { backend with
        renderer :=
          { backend.renderer with screen := { backend.renderer.screen with width, height } } }
  | kept {shaders : Shaders} :
    Move backend (.keepShaders shaders) [] (.ok .done)
      { backend with renderer := { backend.renderer with shaders } }

theorem Cleared.renderer_eq {backend cleared : Backend} {window : XId} {clearing : List Event}
    (h : backend.Cleared window clearing cleared) : cleared.renderer = backend.renderer := by
  cases h with
  | absent habsent => rfl
  | stale htexture hdrain => rfl

/-- Of the renderer an operation changes the shader programs and the size of the screen at most. -/
theorem Move.renderer_eq {backend next : Backend} {operation : Operation} {trace : List Event}
    {outcome : Except Fault Reply} (h : backend.Move operation trace outcome next) :
    ∃ shaders width height,
      next.renderer = { backend.renderer with
        shaders, screen := { backend.renderer.screen with width, height } } := by
  cases h with
  | prepared hclear hcreate => exact ⟨_, _, _, hclear.renderer_eq⟩
  | refused hclear hcreate => exact ⟨_, _, _, hclear.renderer_eq⟩
  | _ => exact ⟨_, _, _, rfl⟩

/-- With what the window had out of the way, its new texture decides how preparing it ends. -/
theorem create_returns_of_cleared {backend cleared : Backend} {window : Window}
    {clearing : List Event} (hclear : backend.Cleared window.id clearing cleared) :
    Program.Returns (do
      match ← WindowTexture.create backend.renderer window with
      | .error cause => return (.error cause, cleared)
      | .ok texture => return (.ok (), cleared.withTexture window.id texture))
      fun creation result =>
        backend.Move (.prepare window) (clearing ++ creation) (.ok (.window result.1))
          result.2 := by
  apply Program.Returns.bind (WindowTexture.create_returns backend.renderer window)
  intro creation result hcreate
  cases result with
  | error cause =>
    have hmove : backend.Move (.prepare window) (clearing ++ creation) _ _ :=
      .refused hclear hcreate
    rw [← List.append_nil creation] at hmove
    exact ⟨_, rfl, hmove⟩
  | ok texture =>
    have hmove : backend.Move (.prepare window) (clearing ++ creation) _ _ :=
      .prepared hclear hcreate
    rw [← List.append_nil creation] at hmove
    exact ⟨_, rfl, hmove⟩

theorem prepare_returns (backend : Backend) (window : Window) :
    (backend.prepare window).Returns fun trace result =>
      backend.Move (.prepare window) trace (.ok (.window result.1)) result.2 := by
  unfold prepare
  cases htexture : backend.texture? window.id with
  | none => exact create_returns_of_cleared (.absent htexture)
  | some stale =>
    apply Program.Returns.log
    apply Program.Returns.bind (stale.destroy_returns backend.renderer)
    intro trace _ h
    obtain ⟨drain, hdrain, rfl⟩ := h
    exact create_returns_of_cleared (.stale htexture hdrain)

theorem render_ensures (backend : Backend) (window : XId) :
    (backend.render window).Ensures fun trace outcome =>
      backend.Move (.render window) trace (outcome.map .window) backend := by
  unfold render
  cases htexture : backend.texture? window with
  | none => exact .unknown rfl htexture
  | some texture =>
    cases hbridge : texture.bridge with
    | none =>
      simp only [WindowTexture.refresh, hbridge]
      exact .unbound htexture hbridge
    | some bridge =>
      apply Program.Returns.bind (WindowTexture.refresh_returns backend.renderer hbridge)
      intro trace _ h
      obtain ⟨drain, hdrain, rfl⟩ := h
      have hmove : backend.Move (.render window) _ _ _ := .rendered htexture hbridge hdrain
      rw [← List.append_nil (WindowTexture.refreshEvents ..)] at hmove
      exact hmove

theorem release_returns (backend : Backend) (window : XId) :
    (backend.release window).Returns fun trace result =>
      backend.Move (.release window) trace (.ok (.window result.1)) result.2 := by
  unfold release
  cases htexture : backend.texture? window with
  | none => exact ⟨_, rfl, .unknown rfl htexture⟩
  | some texture =>
    apply Program.Returns.bind (texture.destroy_returns backend.renderer)
    intro trace _ h
    obtain ⟨drain, hdrain, rfl⟩ := h
    have hmove : backend.Move (.release window) _ _ _ := .released htexture hdrain
    rw [← List.append_nil (WindowTexture.destroyEvents ..)] at hmove
    exact ⟨_, rfl, hmove⟩

theorem compose_ensures (backend : Backend) (window : XId) (x y : Int32) (clip : Region) :
    (backend.compose window x y clip).Ensures fun trace outcome =>
      backend.Move (.compose window x y clip) trace (outcome.map .window) backend := by
  unfold compose
  cases htexture : backend.texture? window with
  | none => exact .unknown rfl htexture
  | some texture =>
    cases hbound : texture.isBound with
    | false =>
      simp only [WindowTexture.compose, hbound]
      exact .skipped htexture hbound
    | true =>
      simp only [WindowTexture.compose, hbound]
      cases hplace : Flip.place y texture.height clip backend.renderer.screen.height
          texture.yInverted with
      | error e => exact .overflowed htexture hbound hplace
      | ok placed => exact fun _ => .composed htexture hbound hplace

theorem present_returns (backend : Backend) :
    backend.present.Returns fun trace _ => backend.Move .present trace (.ok .done) backend :=
  fun _ => ⟨(), rfl, .presented⟩

theorem bufferAge_returns (backend : Backend) :
    backend.bufferAge.Returns fun trace age =>
      backend.Move .bufferAge trace (.ok (.age age)) backend := by
  unfold bufferAge Renderer.bufferAge
  by_cases hswap : backend.renderer.settings.swapMethod = .bufferAge
  · rw [if_neg (not_not_intro hswap)]
    exact fun _ => ⟨_, rfl, .tracked hswap⟩
  · rw [if_pos hswap]
    exact ⟨_, rfl, .untracked hswap⟩

theorem resize_returns (backend : Backend) (width height : UInt32) :
    (backend.resize width height).Returns fun trace next =>
      backend.Move (.resize width height) trace (.ok .done) next :=
  fun _ => ⟨_, rfl, .resized⟩

theorem perform_ensures (backend : Backend) (operation : Operation) :
    (backend.perform operation).Ensures fun trace outcome =>
      match outcome with
      | .ok (reply, next) => backend.Move operation trace (.ok reply) next
      | .error e => backend.Move operation trace (.error e) backend := by
  cases operation with
  | prepare window =>
    apply Program.Returns.bind (backend.prepare_returns window)
    intro trace result h
    change backend.Move _ (trace ++ []) _ _
    rwa [List.append_nil]
  | render window =>
    apply Program.Ensures.map
    apply (backend.render_ensures window).mono
    intro trace outcome h
    cases outcome with
    | ok result => exact h
    | error e => exact h
  | release window =>
    apply Program.Returns.bind (backend.release_returns window)
    intro trace result h
    change backend.Move _ (trace ++ []) _ _
    rwa [List.append_nil]
  | compose window x y clip =>
    apply Program.Ensures.map
    apply (backend.compose_ensures window x y clip).mono
    intro trace outcome h
    cases outcome with
    | ok result => exact h
    | error e => exact h
  | present =>
    apply Program.Ensures.map
    apply backend.present_returns.ensures
    intro trace _ h
    exact h
  | bufferAge =>
    apply Program.Ensures.map
    apply backend.bufferAge_returns.ensures
    intro trace age h
    exact h
  | resize width height =>
    apply Program.Ensures.map
    apply (backend.resize_returns width height).ensures
    intro trace next h
    exact h
  | keepShaders shaders => exact .kept

end Backend
end Compositor
