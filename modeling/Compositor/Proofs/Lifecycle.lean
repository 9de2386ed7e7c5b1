import Compositor.Proofs.ErrorDrain
import Compositor.WindowTexture.Lifecycle

namespace Compositor
namespace Holdings

def bridgeEvents (held : Holdings) (release : EntryPoint) (target : TextureTarget) : List Event :=
  match held.bridge, held.texture with
  | some bridge, some texture =>
    [.call (.gl (.bindTexture target (some texture))) (),
      .call (.display (.releaseTexImage release bridge)) (),
      .call (.gl (.bindTexture target none)) (),
      .call (.display (.destroyBridge bridge)) ()]
  | some bridge, none => [.call (.display (.destroyBridge bridge)) ()]
  | none, _ => []

def textureEvents (held : Holdings) : List Event :=
  match held.texture with
  | some texture => [.call (.gl (.deleteTexture texture)) ()]
  | none => []

def pixmapEvents (held : Holdings) : List Event :=
  match held.pixmap with
  | some (.owned pixmap) => [.call (.display (.freePixmap pixmap)) ()]
  | _ => []

def giveBackEvents (held : Holdings) (release : EntryPoint) (target : TextureTarget)
    (drain : List Event) : List Event :=
  held.bridgeEvents release target ++ drain ++ (held.textureEvents ++ held.pixmapEvents)

theorem releaseBridge_returns (held : Holdings) (renderer : Renderer) (target : TextureTarget) :
    (held.releaseBridge renderer target).Returns fun trace _ =>
      ∃ drain, Gl.Emptied "release pixmap" drain ∧
        trace = held.bridgeEvents renderer.texImage.release target ++ drain := by
  obtain ⟨pixmap, bridge, texture⟩ := held
  cases bridge with
  | none =>
    apply Program.Returns.bind (Gl.drainErrors_returns _)
    intro drain count h
    exact ⟨(), rfl, drain, h, List.append_nil drain⟩
  | some bridge =>
    cases texture with
    | none =>
      intro _
      apply Program.Returns.bind (Gl.drainErrors_returns _)
      intro drain count h
      exact ⟨(), rfl, drain, h, congrArg _ (List.append_nil drain)⟩
    | some texture =>
      intro _ _ _ _
      apply Program.Returns.bind (Gl.drainErrors_returns _)
      intro drain count h
      have htrace := congrArg (bridgeEvents ⟨pixmap, some bridge, some texture⟩
        renderer.texImage.release target ++ ·) (List.append_nil drain)
      exact ⟨(), rfl, drain, h, htrace⟩

theorem giveBack_returns (held : Holdings) (renderer : Renderer) (target : TextureTarget) :
    (held.giveBack renderer target).Returns fun trace _ =>
      ∃ drain, Gl.Emptied "release pixmap" drain ∧
        trace = held.giveBackEvents renderer.texImage.release target drain := by
  apply Program.Returns.bind (held.releaseBridge_returns renderer target)
  intro trace _ hrelease
  obtain ⟨drain, h, rfl⟩ := hrelease
  obtain ⟨pixmap, bridge, texture⟩ := held
  cases texture with
  | none =>
    rcases pixmap with _ | pixmap | window
    · exact ⟨(), rfl, drain, h, rfl⟩
    · exact fun _ => ⟨(), rfl, drain, h, rfl⟩
    · exact ⟨(), rfl, drain, h, rfl⟩
  | some texture =>
    rcases pixmap with _ | pixmap | window
    · exact fun _ => ⟨(), rfl, drain, h, rfl⟩
    · exact fun _ _ => ⟨(), rfl, drain, h, rfl⟩
    · exact fun _ => ⟨(), rfl, drain, h, rfl⟩

end Holdings

namespace WindowTexture

inductive Named (window : XId) : List Event → Option NativePixmap → Prop
  | owned {pixmap : XId} (hid : pixmap ≠ 0) :
    Named window [.call (.display .canNamePixmap) true,
      .call (.display (.namePixmap window)) (some pixmap)] (some (.owned pixmap))
  | zero :
    Named window [.call (.display .canNamePixmap) true,
      .call (.display (.namePixmap window)) (some 0)] none
  | failed :
    Named window [.call (.display .canNamePixmap) true,
      .call (.display (.namePixmap window)) none] none
  | borrowed (hid : window ≠ 0) :
    Named window [.call (.display .canNamePixmap) false] (some (.borrowed window))
  | noWindow (hid : window = 0) :
    Named window [.call (.display .canNamePixmap) false] none

theorem nativePixmap_returns (window : XId) : (nativePixmap window).Returns (Named window) := by
  intro canName
  cases canName with
  | false =>
    by_cases hid : window = 0
    · exact ⟨none, by simp [NativePixmap.id, hid], .noWindow hid⟩
    · exact ⟨some (.borrowed window), by simp [NativePixmap.id, hid], .borrowed hid⟩
  | true =>
    intro pixmap
    cases pixmap with
    | none => exact ⟨none, rfl, .failed⟩
    | some pixmap =>
      by_cases hid : pixmap = 0
      · subst hid
        exact ⟨none, rfl, .zero⟩
      · exact ⟨some (.owned pixmap), by simp [NativePixmap.id, hid], .owned hid⟩

def prepareEvents (texture : TextureId) (target : TextureTarget) : List Event :=
  [.call (.gl (.bindTexture target (some texture))) (),
    .call (.gl (.textureParameter target Gl.textureMinFilter Gl.nearest)) (),
    .call (.gl (.textureParameter target Gl.textureMagFilter Gl.nearest)) (),
    .call (.gl (.textureParameter target Gl.textureWrapS Gl.clampToEdge)) (),
    .call (.gl (.textureParameter target Gl.textureWrapT Gl.clampToEdge)) (),
    .call (.gl (.bindTexture target none)) ()]

theorem prepareTexture_returns (texture : TextureId) (target : TextureTarget) :
    (prepareTexture texture target).Returns fun trace _ =>
      trace = prepareEvents texture target :=
  fun _ _ _ _ _ _ => ⟨(), rfl, rfl⟩

theorem abandon_returns (renderer : Renderer) (target : TextureTarget) (notice : Notice)
    (cause : WindowError) (held : Holdings) :
    (abandon renderer target notice cause held).Returns fun trace result =>
      ∃ drain, Gl.Emptied "release pixmap" drain ∧ result = .error cause ∧
        trace = .note notice :: held.giveBackEvents renderer.texImage.release target drain := by
  apply Program.Returns.bind (held.giveBack_returns renderer target)
  intro trace _ hgive
  obtain ⟨drain, h, rfl⟩ := hgive
  exact ⟨_, rfl, drain, h, rfl, congrArg _ (List.append_nil _)⟩

/-- The texture that a window gets with a configuration. -/
def ofParts (window : Window) (config : FbConfig) (target : TextureTarget)
    (pixmap : NativePixmap) (bridge : BridgePixmap) (texture : TextureId) : WindowTexture where
  window := window.id
  pixmap := pixmap
  bridge := some bridge
  texture := texture
  target := target
  width := window.width
  height := window.height
  yInverted := config.yInverted

inductive Acquired (renderer : Renderer) (window : Window) (config : FbConfig)
    (target : TextureTarget) : List Event → Except WindowError WindowTexture → Prop
  | noPixmap {naming drain : List Event} (hnaming : Named window.id naming none)
    (hdrain : Gl.Emptied "release pixmap" drain) :
    Acquired renderer window config target
      (naming ++ .note (.noPixmap window.id) ::
        Holdings.giveBackEvents {} renderer.texImage.release target drain)
      (.error (.pixmapUnavailable window.id))
  | noBridge {naming drain : List Event} {pixmap : NativePixmap}
    (hnaming : Named window.id naming (some pixmap)) (hdrain : Gl.Emptied "release pixmap" drain) :
    Acquired renderer window config target
      (naming ++
        .call (.display (.createBridge config.handle pixmap.id config.format target)) none ::
        .note (.noBridge window.id) ::
        Holdings.giveBackEvents { pixmap := some pixmap } renderer.texImage.release target drain)
      (.error (.bridgeCreationFailed window.id))
  | noTexture {naming drain : List Event} {pixmap : NativePixmap} {bridge : BridgePixmap}
    (hnaming : Named window.id naming (some pixmap)) (hdrain : Gl.Emptied "release pixmap" drain) :
    Acquired renderer window config target
      (naming ++ .call (.display (.createBridge config.handle pixmap.id config.format target))
          (some bridge) ::
        .call (.gl .generateTexture) none :: .note (.noTexture window.id) ::
        Holdings.giveBackEvents { pixmap := some pixmap, bridge := some bridge }
          renderer.texImage.release target drain)
      (.error (.textureCreationFailed window.id))
  | whole {naming : List Event} {pixmap : NativePixmap} {bridge : BridgePixmap}
    {texture : TextureId} (hnaming : Named window.id naming (some pixmap)) :
    Acquired renderer window config target
      (naming ++ .call (.display (.createBridge config.handle pixmap.id config.format target))
          (some bridge) ::
        .call (.gl .generateTexture) (some texture) :: prepareEvents texture target)
      (.ok (ofParts window config target pixmap bridge texture))

theorem acquire_returns (renderer : Renderer) (window : Window) (config : FbConfig)
    (target : TextureTarget) :
    (acquire renderer window config target).Returns (Acquired renderer window config target) := by
  apply Program.Returns.bind (nativePixmap_returns window.id)
  intro naming pixmap hnaming
  cases pixmap with
  | none =>
    apply (abandon_returns ..).mono
    intro trace result h
    obtain ⟨drain, hdrain, rfl, rfl⟩ := h
    exact .noPixmap hnaming hdrain
  | some pixmap =>
    intro bridge
    cases bridge with
    | none =>
      apply (abandon_returns ..).mono
      intro trace result h
      obtain ⟨drain, hdrain, rfl, rfl⟩ := h
      exact .noBridge hnaming hdrain
    | some bridge =>
      intro texture
      cases texture with
      | none =>
        apply (abandon_returns ..).mono
        intro trace result h
        obtain ⟨drain, hdrain, rfl, rfl⟩ := h
        exact .noTexture hnaming hdrain
      | some texture =>
        apply Program.Returns.bind (prepareTexture_returns texture target)
        intro trace _ h
        subst h
        have hwhole : Acquired renderer window config target _
            (.ok (ofParts window config target pixmap bridge texture)) := .whole hnaming
        rw [← List.append_nil (prepareEvents ..)] at hwhole
        exact ⟨_, rfl, hwhole⟩

inductive Created (renderer : Renderer) (window : Window) :
    List Event → Except WindowError WindowTexture → Prop
  | tooDeep (hdepth : 32 < window.depth) :
    Created renderer window [.note (.depthTooHigh window.depth 32)]
      (.error (.unsupportedDepth window.depth))
  | noConfig (hdepth : window.depth ≤ 32)
    (hconfig : renderer.configs.get? window.depth = none) :
    Created renderer window [.note (.noConfigForWindow window.depth)]
      (.error (.unsupportedDepth window.depth))
  | acquired {config : FbConfig} {trace : List Event} {result : Except WindowError WindowTexture}
    (hdepth : window.depth ≤ 32)
    (hconfig : renderer.configs.get? window.depth = some config)
    (h : Acquired renderer window config (config.targets.choose renderer.anySize) trace result) :
    Created renderer window
      (.note (.textureChosen window.depth (config.targets.choose renderer.anySize) config.format) ::
        trace)
      result

theorem create_returns (renderer : Renderer) (window : Window) :
    (create renderer window).Returns (Created renderer window) := by
  unfold create
  rw [DepthTable.depthLimit_eq]
  by_cases hdepth : window.depth > 32
  · rw [if_pos hdepth]
    exact ⟨_, rfl, .tooDeep hdepth⟩
  · rw [if_neg hdepth]
    have hdepth := UInt8.not_lt.1 hdepth
    cases hconfig : renderer.configs.get? window.depth with
    | none => exact ⟨_, rfl, .noConfig hdepth hconfig⟩
    | some config =>
      apply Program.Returns.log
      apply (acquire_returns renderer window config _).mono
      intro trace result h
      exact .acquired hdepth hconfig h

def refreshEvents (t : WindowTexture) (bind : EntryPoint) (bridge : BridgePixmap)
    (drain : List Event) : List Event :=
  [.call (.gl (.bindTexture t.target (some t.texture))) (),
    .call (.display (.bindTexImage bind bridge)) (),
    .call (.gl (.bindTexture t.target none)) ()] ++ drain

theorem refresh_returns (renderer : Renderer) {t : WindowTexture} {bridge : BridgePixmap}
    (hbridge : t.bridge = some bridge) :
    (t.refresh renderer).Returns fun trace _ =>
      ∃ drain, Gl.Emptied "bind pixmap" drain ∧
        trace = t.refreshEvents renderer.texImage.bind bridge drain := by
  unfold refresh
  rw [hbridge]
  intro _ _ _
  apply Program.Returns.bind (Gl.drainErrors_returns _)
  intro drain count h
  have htrace := congrArg (t.refreshEvents renderer.texImage.bind bridge) (List.append_nil drain)
  exact ⟨(), rfl, drain, h, htrace⟩

def destroyEvents (t : WindowTexture) (release : EntryPoint) (drain : List Event) : List Event :=
  t.holdings.giveBackEvents release t.target drain ++ [.note (.textureReleased t.window)]

theorem destroy_returns (t : WindowTexture) (renderer : Renderer) :
    (t.destroy renderer).Returns fun trace _ =>
      ∃ drain, Gl.Emptied "release pixmap" drain ∧
        trace = t.destroyEvents renderer.texImage.release drain := by
  apply Program.Returns.bind (t.holdings.giveBack_returns renderer t.target)
  intro trace _ hgive
  obtain ⟨drain, h, rfl⟩ := hgive
  exact ⟨(), rfl, drain, h, rfl⟩

end WindowTexture
end Compositor
