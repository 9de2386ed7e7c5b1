import Compositor.Proofs.Enumeration
import Compositor.Proofs.Footprint
import Compositor.Proofs.Texturing

namespace Compositor

/-- What a bridge is asked for with. -/
structure Bridging where
  config : ConfigHandle
  format : TextureFormat
  target : TextureTarget
deriving DecidableEq

def Event.bridging? : Event → Option Bridging
  | .call (.display (.createBridge config _ format target)) _ => some ⟨config, format, target⟩
  | _ => none

/-- The target that a request names. -/
def Request.target? : Request → Option TextureTarget
  | .display (.createBridge _ _ _ target) | .gl (.bindTexture target _)
  | .gl (.textureParameter target ..) => some target
  | .paint (.drawQuad quad _) => some quad.target
  | _ => none

def Event.target? (event : Event) : Option TextureTarget := event.request?.bind Request.target?

def bridgings (trace : List Event) : List Bridging := trace.filterMap Event.bridging?

def targets (trace : List Event) : List TextureTarget := trace.filterMap Event.target?

/-- No request of a trace names another target than this. -/
def Aimed (target : TextureTarget) (trace : List Event) : Prop :=
  ∀ other ∈ targets trace, other = target

def TextureTarget.mask : TextureTarget → TargetMask
  | .twoDimensional => .twoDimensional
  | .rectangle => .rectangle

/-- A target that a mask has, if it has any. It is two-dimensional where the mask has that and,
unless it has nothing else, textures of any size work. -/
structure TargetMask.Picks (mask : TargetMask) (anySize : Bool) (target : TextureTarget) :
    Prop where
  advertised : mask.contains .twoDimensional = true ∨ mask.contains .rectangle = true →
    mask.contains target.mask = true
  twoDimensional_iff : target = .twoDimensional ↔
    mask.contains .twoDimensional = true ∧ (anySize = true ∨ mask.contains .rectangle = false)

/-- A bridge for a window of some depth is asked for with the configuration for the depth, as the
display answers about it. -/
structure Bridging.Suits (b : Bridging) (c : Catalogue) (renderer : Renderer) (depth : UInt8) :
    Prop where
  inRange : depth ≤ 32
  chosen : ∃ config, renderer.configs.get? depth = some config ∧ config.handle = b.config
  rgba_iff : b.format = .rgba ↔ depth = 32
  rgb_iff : b.format = .rgb ↔ depth < 32
  picks : ∃ bits, c.value b.config .bindToTextureTargets = some bits ∧
    (TargetMask.mk bits.toUInt32).Picks renderer.anySize b.target

/-- A turn about a window names one target for the texture that the window has, and one for the
texture that the window is to have next. -/
structure Turn.Aims (turn : Turn) (window : XId) (old new : List Event) : Prop where
  whole : turn.trace = old ++ new
  held : ∀ t, turn.before.texture? window = some t → Aimed t.target old
  unheld : turn.before.texture? window = none → old = []
  prepares : new = [] ∨ ∃ wanted target, turn.operation = .prepare wanted ∧ Aimed target new
  granted : ∀ t, turn.Grants window t → Aimed t.target new ∧ Paired new t

/-- At the end of a backend the target of each texture that is left is named to take it away, and
none is named for anything else. -/
inductive Backend.PartsWith (backend : Backend) (order : DrainOrder) : List Event → Prop
  | intro {opening closing : List Event} {endings : List (List Event)}
    (hopening : targets opening = [])
    (hendings : List.Forall₂ (fun t ending => Aimed t.target ending)
      (order.arrange backend.textures.values) endings)
    (hclosing : targets closing = []) :
    PartsWith backend order (opening ++ (endings.flatten ++ closing))

variable {trace first rest drain : List Event} {site : String} {target : TextureTarget}

@[simp] theorem bridgings_append (first rest : List Event) :
    bridgings (first ++ rest) = bridgings first ++ bridgings rest :=
  List.filterMap_append

@[simp] theorem targets_append (first rest : List Event) :
    targets (first ++ rest) = targets first ++ targets rest :=
  List.filterMap_append

theorem bridgings_eq_nil (h : targets trace = []) : bridgings trace = [] := by
  rw [targets, List.filterMap_eq_nil_iff] at h
  rw [bridgings, List.filterMap_eq_nil_iff]
  intro event hevent
  have hnone := h event hevent
  unfold Event.bridging?
  split
  · cases hnone
  · rfl

theorem Aimed.of_nil (h : targets trace = []) : Aimed target trace := by
  intro other hother
  rw [h] at hother
  cases hother

theorem Aimed.append (hfirst : Aimed target first) (hrest : Aimed target rest) :
    Aimed target (first ++ rest) := by
  intro other hother
  rw [targets_append] at hother
  rcases List.mem_append.1 hother with hother | hother
  · exact hfirst other hother
  · exact hrest other hother

theorem Gl.Emptied.targets_eq_nil (h : Gl.Emptied site trace) : targets trace = [] :=
  List.filterMap_eq_nil_iff.2 (h.forall_mem (fun _ => rfl) fun _ => rfl)

theorem targets_eq_nil_of_all {p : Request → Bool}
    (hp : ∀ request, p request = true → request.target? = none)
    (h : trace.all (fun event => event.request?.all p) = true) : targets trace = [] := by
  rw [targets, List.filterMap_eq_nil_iff]
  intro event hevent
  have hevent := List.all_eq_true.1 h event hevent
  cases event with
  | note notice => rfl
  | call request answer => exact hp request hevent

theorem Request.target?_of_setsUp {request : Request} (h : request.setsUp = true) :
    request.target? = none := by
  unfold Request.target?
  split
  · cases h
  · cases h
  · cases h
  · cases h
  · rfl

theorem Renderer.SetsUp.targets_eq_nil {texImage : TexImage}
    (h : Renderer.SetsUp texImage trace) : targets trace = [] := by
  apply targets_eq_nil_of_all (fun _ => Option.isNone_iff_eq_none.1)
  exact h.all_of (fun _ hset => Option.isNone_iff_eq_none.2 (Request.target?_of_setsUp hset))
    fun _ => rfl

theorem TargetMask.picks_choose (mask : TargetMask) (anySize : Bool) :
    mask.Picks anySize (mask.choose anySize) := by
  constructor
  all_goals
    unfold choose
    cases htwo : mask.contains .twoDimensional <;> cases hrect : mask.contains .rectangle <;>
      cases anySize <;> simp [TextureTarget.mask, htwo, hrect]

namespace Holdings

theorem giveBackEvents_aimed (held : Holdings) (release : EntryPoint) (target : TextureTarget)
    (hdrain : Gl.Emptied "release pixmap" drain) :
    Aimed target (held.giveBackEvents release target drain) := by
  obtain ⟨pixmap, bridge, texture⟩ := held
  have hbridge : Aimed target (bridgeEvents ⟨pixmap, bridge, texture⟩ release target) := by
    rcases bridge with _ | bridge
    · exact .of_nil rfl
    rcases texture with _ | texture
    · exact .of_nil rfl
    · exact fun _ => List.eq_of_mem_replicate (n := 2)
  have htexture : targets (textureEvents ⟨pixmap, bridge, texture⟩) = [] := by
    cases texture <;> rfl
  have hpixmap : targets (pixmapEvents ⟨pixmap, bridge, texture⟩) = [] := by
    rcases pixmap with _ | pixmap | window <;> rfl
  exact (hbridge.append (.of_nil hdrain.targets_eq_nil)).append
    (Aimed.append (.of_nil htexture) (.of_nil hpixmap))

theorem bridgings_giveBackEvents (held : Holdings) (release : EntryPoint) (target : TextureTarget)
    (hdrain : Gl.Emptied "release pixmap" drain) :
    bridgings (held.giveBackEvents release target drain) = [] := by
  obtain ⟨pixmap, bridge, texture⟩ := held
  have hbridge : bridgings (bridgeEvents ⟨pixmap, bridge, texture⟩ release target) = [] := by
    cases bridge <;> cases texture <;> rfl
  have htexture : bridgings (textureEvents ⟨pixmap, bridge, texture⟩) = [] := by
    cases texture <;> rfl
  have hpixmap : bridgings (pixmapEvents ⟨pixmap, bridge, texture⟩) = [] := by
    rcases pixmap with _ | pixmap | window <;> rfl
  simp only [giveBackEvents, bridgings_append, hbridge, htexture, hpixmap,
    bridgings_eq_nil hdrain.targets_eq_nil, List.append_nil]

end Holdings

namespace WindowTexture

variable {renderer : Renderer} {window : Window} {config : FbConfig} {t : WindowTexture}
  {result : Except WindowError WindowTexture}

theorem destroyEvents_aimed (t : WindowTexture) (release : EntryPoint)
    (hdrain : Gl.Emptied "release pixmap" drain) :
    Aimed t.target (t.destroyEvents release drain) :=
  (t.holdings.giveBackEvents_aimed release t.target hdrain).append (.of_nil rfl)

theorem bridgings_destroyEvents (t : WindowTexture) (release : EntryPoint)
    (hdrain : Gl.Emptied "release pixmap" drain) :
    bridgings (t.destroyEvents release drain) = [] := by
  rw [destroyEvents, bridgings_append, Holdings.bridgings_giveBackEvents _ _ _ hdrain]
  rfl

theorem refreshEvents_aimed (t : WindowTexture) (bind : EntryPoint) (bridge : BridgePixmap)
    (hdrain : Gl.Emptied "bind pixmap" drain) :
    Aimed t.target (t.refreshEvents bind bridge drain) := by
  apply Aimed.append
  · exact fun _ => List.eq_of_mem_replicate (n := 2)
  · exact .of_nil hdrain.targets_eq_nil

theorem prepareEvents_aimed (texture : TextureId) (target : TextureTarget) :
    Aimed target (prepareEvents texture target) :=
  fun _ => List.eq_of_mem_replicate (n := 6)

theorem Named.targets_eq_nil {window : XId} {pixmap : Option NativePixmap}
    (h : Named window trace pixmap) : targets trace = [] := by
  cases h <;> rfl

theorem Acquired.aimed (h : Acquired renderer window config target trace result) :
    Aimed target trace := by
  have hasked {naming rest : List Event} {pixmap : Option NativePixmap} {id : XId}
      {answer : Option BridgePixmap} (hnaming : Named window.id naming pixmap)
      (hrest : Aimed target rest) : Aimed target (naming ++
        .call (.display (.createBridge config.handle id config.format target)) answer :: rest) := by
    apply Aimed.append (.of_nil hnaming.targets_eq_nil)
    intro other hother
    rcases List.mem_cons.1 hother with rfl | hother
    · rfl
    · exact hrest other hother
  cases h with
  | noPixmap hnaming hdrain =>
    exact Aimed.append (.of_nil hnaming.targets_eq_nil) (Holdings.giveBackEvents_aimed _ _ _ hdrain)
  | noBridge hnaming hdrain => exact hasked hnaming (Holdings.giveBackEvents_aimed _ _ _ hdrain)
  | noTexture hnaming hdrain => exact hasked hnaming (Holdings.giveBackEvents_aimed _ _ _ hdrain)
  | @whole naming pixmap bridge texture hnaming =>
    exact hasked hnaming (prepareEvents_aimed texture target)

theorem Acquired.bridgings_eq (h : Acquired renderer window config target trace result) :
    bridgings trace = [] ∨ bridgings trace = [⟨config.handle, config.format, target⟩] := by
  have hasked {naming rest : List Event} {pixmap : Option NativePixmap} {id : XId}
      {answer : Option BridgePixmap} (hnaming : Named window.id naming pixmap)
      (hrest : bridgings rest = []) : bridgings (naming ++
        .call (.display (.createBridge config.handle id config.format target)) answer :: rest) =
        [⟨config.handle, config.format, target⟩] := by
    rw [bridgings_append, bridgings_eq_nil hnaming.targets_eq_nil]
    exact congrArg (List.cons _) hrest
  cases h with
  | noPixmap hnaming hdrain =>
    left
    rw [bridgings_append, bridgings_eq_nil hnaming.targets_eq_nil]
    exact Holdings.bridgings_giveBackEvents _ _ _ hdrain
  | noBridge hnaming hdrain =>
    exact .inr (hasked hnaming (Holdings.bridgings_giveBackEvents _ _ _ hdrain))
  | noTexture hnaming hdrain =>
    exact .inr (hasked hnaming (Holdings.bridgings_giveBackEvents _ _ _ hdrain))
  | whole hnaming => exact .inr (hasked hnaming rfl)

theorem Created.aimed (h : Created renderer window trace (.ok t)) : Aimed t.target trace := by
  cases h with
  | acquired hdepth hconfig hacquire =>
    have htrace := hacquire.aimed
    cases hacquire with
    | whole hnaming => exact htrace

theorem Created.exists_aimed (h : Created renderer window trace result) :
    ∃ target, Aimed target trace := by
  cases h with
  | tooDeep hdepth => exact ⟨.rectangle, .of_nil rfl⟩
  | noConfig hdepth hconfig => exact ⟨.rectangle, .of_nil rfl⟩
  | acquired hdepth hconfig hacquire => exact ⟨_, hacquire.aimed⟩

/-- A bridge is asked for with what the table has for the window's depth. -/
theorem Created.bridges (h : Created renderer window trace result) {b : Bridging}
    (hb : b ∈ bridgings trace) :
    window.depth ≤ 32 ∧
      ∃ config, renderer.configs.get? window.depth = some config ∧
        b = ⟨config.handle, config.format, config.targets.choose renderer.anySize⟩ := by
  cases h with
  | tooDeep hdepth => cases hb
  | noConfig hdepth hconfig => cases hb
  | @acquired config acquisition _ hdepth hconfig hacquire =>
    refine ⟨hdepth, config, hconfig, ?_⟩
    change b ∈ bridgings acquisition at hb
    rcases hacquire.bridgings_eq with hnone | hone
    · rw [hnone] at hb
      cases hb
    · rw [hone] at hb
      exact List.mem_singleton.1 hb

end WindowTexture

namespace Backend

variable {backend next cleared : Backend} {window : XId} {operation : Operation}
  {outcome : Except Fault Reply} {t : WindowTexture}

theorem Cleared.aimed (h : backend.Cleared window trace cleared)
    (htexture : backend.texture? window = some t) : Aimed t.target trace := by
  cases h with
  | absent habsent =>
    rw [htexture] at habsent
    cases habsent
  | stale hfound hdrain =>
    rw [htexture] at hfound
    cases hfound
    exact t.destroyEvents_aimed _ hdrain

theorem Cleared.eq_nil (h : backend.Cleared window trace cleared)
    (habsent : backend.texture? window = none) : trace = [] := by
  cases h with
  | absent _ => rfl
  | stale hfound hdrain =>
    rw [habsent] at hfound
    cases hfound

theorem Cleared.bridgings_eq_nil (h : backend.Cleared window trace cleared) :
    bridgings trace = [] := by
  cases h with
  | absent habsent => rfl
  | stale hfound hdrain => exact WindowTexture.bridgings_destroyEvents _ _ hdrain

/-- A bridge is asked for to prepare a window, with what the table has for its depth. -/
theorem Move.bridges (h : backend.Move operation trace outcome next) {b : Bridging}
    (hb : b ∈ bridgings trace) :
    ∃ wanted, operation = .prepare wanted ∧ wanted.depth ≤ 32 ∧
      ∃ config, backend.renderer.configs.get? wanted.depth = some config ∧
        b = ⟨config.handle, config.format, config.targets.choose backend.renderer.anySize⟩ := by
  cases h with
  | prepared hclear hcreate =>
    rw [bridgings_append, hclear.bridgings_eq_nil] at hb
    exact ⟨_, rfl, hcreate.bridges hb⟩
  | refused hclear hcreate =>
    rw [bridgings_append, hclear.bridgings_eq_nil] at hb
    exact ⟨_, rfl, hcreate.bridges hb⟩
  | rendered htexture hbridge hdrain =>
    change b ∈ bridgings _ at hb
    rw [WindowTexture.refreshEvents, bridgings_append,
      Compositor.bridgings_eq_nil hdrain.targets_eq_nil] at hb
    cases hb
  | released htexture hdrain =>
    rw [WindowTexture.bridgings_destroyEvents _ _ hdrain] at hb
    cases hb
  | _ => cases hb

theorem Move.targets_eq_nil (h : backend.Move operation trace outcome next)
    (hsubject : operation.subject? = none) : targets trace = [] := by
  cases h with
  | prepared hclear hcreate => cases hsubject
  | refused hclear hcreate => cases hsubject
  | rendered htexture hbridge hdrain => cases hsubject
  | released htexture hdrain => cases hsubject
  | composed htexture hbound hplace => cases hsubject
  | _ => rfl

end Backend

variable {turn : Turn} {window : XId} {t : WindowTexture}

theorem Turn.aims_of_aimed (hprepare : ∀ wanted, turn.operation ≠ .prepare wanted)
    (htexture : turn.before.texture? window = some t) (haimed : Aimed t.target turn.trace) :
    turn.Aims window turn.trace [] where
  whole := (List.append_nil _).symm
  held := by
    intro other hother
    rw [htexture] at hother
    cases hother
    exact haimed
  unheld := by
    intro habsent
    rw [htexture] at habsent
    cases habsent
  prepares := .inl rfl
  granted := by
    intro other hgrants
    obtain ⟨wanted, -, hasked⟩ := hgrants.asked
    exact absurd hasked (hprepare wanted)

theorem Turn.Moves.aims (h : turn.Moves) (hsubject : turn.operation.subject? = some window) :
    ∃ old new, turn.Aims window old new := by
  obtain ⟨backend, operation, trace, outcome, next⟩ := turn
  change backend.Move operation trace outcome next at h
  cases h with
  | @prepared wanted clearing creation cleared texture hclear hcreate =>
    cases hsubject
    refine ⟨clearing, creation, rfl, fun _ => hclear.aimed, hclear.eq_nil,
      .inr ⟨wanted, texture.target, rfl, hcreate.aimed⟩, ?_⟩
    intro t hgrants
    have hafter : (cleared.withTexture wanted.id texture).texture? wanted.id = some t :=
      hgrants.after
    rw [Backend.texture?_withTexture, if_pos rfl] at hafter
    cases hafter
    exact ⟨hcreate.aimed, hcreate.paired⟩
  | @refused wanted clearing creation cleared cause hclear hcreate =>
    cases hsubject
    obtain ⟨target, haimed⟩ := hcreate.exists_aimed
    refine ⟨clearing, creation, rfl, fun _ => hclear.aimed, hclear.eq_nil,
      .inr ⟨wanted, target, rfl, haimed⟩, ?_⟩
    intro t hgrants
    cases hgrants.succeeds
  | unknown hshown habsent =>
    refine ⟨[], [], rfl, fun _ _ => .of_nil rfl, fun _ => rfl, .inl rfl, ?_⟩
    intro t hgrants
    obtain ⟨wanted, -, rfl⟩ := hgrants.asked
    cases hshown
  | rendered htexture hbridge hdrain =>
    cases hsubject
    exact ⟨_, _, aims_of_aimed nofun htexture (WindowTexture.refreshEvents_aimed _ _ _ hdrain)⟩
  | unbound htexture hbridge =>
    cases hsubject
    exact ⟨_, _, aims_of_aimed nofun htexture (.of_nil rfl)⟩
  | released htexture hdrain =>
    cases hsubject
    exact ⟨_, _, aims_of_aimed nofun htexture (WindowTexture.destroyEvents_aimed _ _ hdrain)⟩
  | composed htexture hbound hplace =>
    cases hsubject
    exact ⟨_, _, aims_of_aimed nofun htexture fun _ => List.mem_singleton.1⟩
  | overflowed htexture hbound hplace =>
    cases hsubject
    exact ⟨_, _, aims_of_aimed nofun htexture (.of_nil rfl)⟩
  | skipped htexture hbound =>
    cases hsubject
    exact ⟨_, _, aims_of_aimed nofun htexture (.of_nil rfl)⟩
  | _ => cases hsubject

/-- Neither what was chosen for the depths nor whether textures can have any size ever changes. -/
theorem Chained.choices_eq {start finish : Backend} {turns : List Turn}
    (h : Chained start turns finish) :
    finish.renderer.configs = start.renderer.configs ∧
      finish.renderer.anySize = start.renderer.anySize := by
  apply h.induction (motive := fun backend => backend.renderer.configs = start.renderer.configs ∧
    backend.renderer.anySize = start.renderer.anySize) ⟨rfl, rfl⟩
  intro turn _ hmoves hbefore
  obtain ⟨shaders, width, height, hrenderer⟩ := Backend.Move.renderer_eq hmoves
  rw [hrenderer]
  exact hbefore

namespace Catalogue

variable {c : Catalogue} {handles : List ConfigHandle}
  {entries : List (Option (UInt8 × FbConfig))} {table : DepthTable} {depth : UInt8}
  {config : FbConfig}

theorem Qualifies.targets {handle : ConfigHandle} {depth : Int} {format : TextureFormat}
    (h : c.Qualifies handle depth format) :
    ∃ bits, c.value handle .bindToTextureTargets = some bits := by
  cases h with
  | rgb heligible hcolors hvisual hdepth hbinds => exact ⟨_, heligible.targets⟩
  | rgba heligible hbuffer hvisual hdepth halpha hbinds => exact ⟨_, heligible.targets⟩

theorem Qualifies.format {handle : ConfigHandle} {depth : Int} {format : TextureFormat}
    (h : c.Qualifies handle depth format) :
    format = .rgba ∧ 32 ≤ depth ∨ format = .rgb ∧ depth < 32 := by
  cases h with
  | rgb heligible hcolors hvisual hdepth hbinds => exact .inr ⟨rfl, hdepth⟩
  | rgba heligible hbuffer hvisual hdepth halpha hbinds => exact .inl ⟨rfl, hdepth⟩

theorem Filled.suits
    (h : c.Filled (.empty DepthTable.depthLimit) handles entries (.ok table)) {renderer : Renderer}
    (htable : renderer.configs = table) (hconfig : renderer.configs.get? depth = some config) :
    Bridging.Suits ⟨config.handle, config.format, config.targets.choose renderer.anySize⟩ c renderer
      depth := by
  have hstored := hconfig
  rw [htable] at hstored
  obtain ⟨hdepth, handle, -, format, hqualifies, rfl⟩ := h.get?_eq_of_empty hstored
  obtain ⟨bits, hbits⟩ := hqualifies.targets
  have hupper : depth.toNat ≤ 32 := UInt8.le_iff_toNat_le.1 hdepth
  constructor
  case inRange => exact hdepth
  case chosen => exact ⟨_, hconfig, rfl⟩
  case rgba_iff =>
    change format = .rgba ↔ depth = 32
    rw [← UInt8.toNat_inj]
    change format = .rgba ↔ depth.toNat = 32
    rcases hqualifies.format with ⟨rfl, hlower⟩ | ⟨rfl, hless⟩
    · simp; omega
    · simp; omega
  case rgb_iff =>
    change format = .rgb ↔ depth < 32
    rw [UInt8.lt_iff_toNat_lt]
    change format = .rgb ↔ depth.toNat < 32
    rcases hqualifies.format with ⟨rfl, hlower⟩ | ⟨rfl, hless⟩
    · simp; omega
    · simp; omega
  case picks =>
    refine ⟨bits, hbits, ?_⟩
    have hmask : (c.config handle format).targets = ⟨bits.toUInt32⟩ := by
      rw [config, hbits]
      rfl
    rw [hmask]
    exact TargetMask.picks_choose _ _

end Catalogue

namespace Backend

variable {backend : Backend} {order : DrainOrder} {ending : Ending}

theorem destructions_aimed {textures : List WindowTexture} {destructions : List (List Event)}
    (h : List.Forall₂ backend.Destroyed textures destructions) :
    List.Forall₂ (fun t ending => Aimed t.target ending) textures destructions := by
  apply h.imp
  intro t ending hdestroyed
  obtain ⟨drain, hdrain, rfl⟩ := hdestroyed
  exact t.destroyEvents_aimed _ hdrain

theorem bridgings_destructions {textures : List WindowTexture} {destructions : List (List Event)}
    (h : List.Forall₂ backend.Destroyed textures destructions) :
    bridgings destructions.flatten = [] := by
  induction h with
  | nil => rfl
  | cons hfirst hrest ih =>
    obtain ⟨drain, hdrain, rfl⟩ := hfirst
    rw [List.flatten_cons, bridgings_append, ih, WindowTexture.bridgings_destroyEvents _ _ hdrain]
    rfl

theorem targets_tearDownEvents (shaders : Shaders) (context : ContextHandle)
    (hdrain : Gl.Emptied "GLX deinit" drain) :
    targets (tearDownEvents shaders context drain) = [] := by
  have hfree : targets shaders.freeEvents = [] :=
    List.filterMap_eq_nil_iff.2 (shaders.forall_mem_freeEvents (fun _ => rfl) fun _ => rfl)
  rw [tearDownEvents, targets_append, targets_append, hfree, hdrain.targets_eq_nil]
  rfl

theorem Finished.partsWith (h : backend.Finished order ending trace) :
    backend.PartsWith order trace ∧ bridgings trace = [] := by
  cases h with
  | @intro destructions drain hdestroy hdrain =>
    have hopening : targets (ending.notes backend) = [] := by cases ending <;> rfl
    have hclosing : targets (.note (.windowsReleased backend.textures.size) ::
        (tearDownEvents backend.renderer.shaders backend.renderer.context drain ++
          [.note .backendDown])) = [] := by
      change targets (_ ++ _) = []
      rw [targets_append, targets_tearDownEvents _ _ hdrain]
      rfl
    refine ⟨.intro hopening (destructions_aimed hdestroy) hclosing, ?_⟩
    rw [bridgings_append, bridgings_append, bridgings_eq_nil hopening,
      bridgings_destructions hdestroy, bridgings_eq_nil hclosing]
    rfl

end Backend

/-- What a renderer that came up was chosen by can be told from the trace. -/
theorem Renderer.BroughtUp.chooses {screen : Screen} {settings : GlxSettings} {renderer : Renderer}
    (h : Renderer.BroughtUp screen settings trace (.ok (.ok renderer))) :
    (∃ names, .call (.gl .extensions) names ∈ trace ∧
      renderer.anySize = Extension.isListed names Extension.nonPowerOfTwo) ∧
    ∃ enumeration, enumeration ⊆ trace ∧
      Selection.Enumerated enumeration (.ok renderer.configs) := by
  cases h with
  | ready hacquire hattach =>
    cases hattach with
    | ready hequip hselect hdrain =>
      cases hequip with
      | @intro debugging stencil resolution names _ hdebug hstencil hresolve =>
        cases hselect with
        | @found enumeration notes _ henumerated hdepth hnotes =>
          refine ⟨⟨names, by simp, rfl⟩, enumeration, ?_, henumerated⟩
          intro event hevent
          simp [hevent]

namespace Session

variable {driver : Driver σ} {state : σ} {screen : Screen} {settings : Settings}
  {session : Session σ} {c : Catalogue}

theorem agrees_of_start? (hfollows : driver.Follows c)
    (h : start? driver state screen settings = some session) :
    ∀ event ∈ session.opening, c.Agrees event := by
  unfold start? at h
  dsimp only at h
  split at h
  · cases h
    exact Catalogue.agrees_of_follows hfollows _ _
  · cases h

/-- What the renderer goes by was found out as it came up. -/
theorem chosen_of_start? (hfollows : driver.Follows c)
    (h : start? driver state screen settings = some session) :
    (∃ names, .call (.gl .extensions) names ∈ session.opening ∧
      session.backend.renderer.anySize = Extension.isListed names Extension.nonPowerOfTwo) ∧
    ∃ handles entries, c.Filled (.empty DepthTable.depthLimit) handles entries
      (.ok session.backend.renderer.configs) := by
  have hagrees := agrees_of_start? hfollows h
  obtain ⟨opening, turns, backend, final⟩ := session
  obtain ⟨-, hinit⟩ := start?_eq_some h
  cases hinit with
  | opened hbringUp =>
    obtain ⟨⟨names, hmem, hnames⟩, enumeration, hsubset, henumerated⟩ := hbringUp.chooses
    refine ⟨⟨names, List.mem_append_left _ hmem, hnames⟩, ?_⟩
    apply henumerated.filled
    intro event hevent
    exact hagrees event (List.mem_append_left _ (hsubset hevent))

theorem targets_of_start? (h : start? driver state screen settings = some session) :
    targets session.opening = [] :=
  (setsUp_of_start? h).targets_eq_nil

/-- On a display that answers about a configuration the same every time, bridges are asked for to
prepare windows and for nothing else, each with the configuration, the format and a target for the
depth of its window; the target of the texture that comes of it is the one that is named for the
window from then on, until the texture is taken away, be it at the end. -/
theorem bridged_play (hfollows : driver.Follows c)
    (h : start? driver state screen settings = some session) (operations : List Operation) :
    let played := session.play driver operations
    let renderer := session.backend.renderer
    played.turns.map Turn.operation = operations ∧
    (∃ names, .call (.gl .extensions) names ∈ session.opening ∧
      renderer.anySize = Extension.isListed names Extension.nonPowerOfTwo) ∧
    bridgings session.opening = [] ∧
    (∀ turn ∈ played.turns, ∀ b ∈ bridgings turn.trace,
      ∃ wanted, turn.operation = .prepare wanted ∧ b.Suits c renderer wanted.depth) ∧
    (∀ earlier turn later, played.turns = earlier ++ turn :: later →
      (∀ window t, turn.before.texture? window = some t ↔ HeldSince earlier window t) ∧
      (turn.operation.subject? = none → targets turn.trace = []) ∧
      ∀ window, turn.operation.subject? = some window → ∃ old new, turn.Aims window old new) ∧
    ∀ order ending,
      let finished := played.finish driver order ending
      finished.outcome = .ok () ∧ bridgings finished.trace = [] ∧
      played.backend.PartsWith order finished.trace ∧
      ∀ t ∈ played.backend.textures.values, ∃ window, HeldSince played.turns window t := by
  intro played renderer
  have hchained : Chained session.backend played.turns played.backend := chained_play h operations
  have hempty := texture?_of_start? h
  obtain ⟨hnames, handles, entries, hfilled⟩ := chosen_of_start? hfollows h
  refine ⟨operations_play_of_start? h operations, hnames, bridgings_eq_nil (targets_of_start? h),
    ?_, ?_, ?_⟩
  · intro turn hturn b hb
    obtain ⟨earlier, later, hsplit⟩ := List.append_of_mem hturn
    rw [hsplit] at hchained
    obtain ⟨hconfigs, hanySize⟩ := hchained.before.choices_eq
    obtain ⟨wanted, hasked, -, config, hconfig, rfl⟩ := Backend.Move.bridges hchained.moves hb
    rw [hconfigs] at hconfig
    rw [hanySize]
    exact ⟨wanted, hasked, hfilled.suits rfl hconfig⟩
  · intro earlier turn later hsplit
    rw [hsplit] at hchained
    refine ⟨?_, hchained.moves.targets_eq_nil, fun window => hchained.moves.aims⟩
    intro window t
    constructor
    · exact hchained.before.heldSince (hempty window)
    · exact fun hheld => hheld.texture?_eq hchained.before
  · intro order ending finished
    have hfinish : finished.outcome = .ok () ∧
        played.backend.Finished order ending finished.trace :=
      finished_finish played order ending
    obtain ⟨houtcome, hfinished⟩ := hfinish
    obtain ⟨hparts, hnone⟩ := hfinished.partsWith
    refine ⟨houtcome, hnone, hparts, ?_⟩
    intro t ht
    obtain ⟨window, htexture⟩ := Backend.exists_texture?_of_mem_values ht
    exact ⟨window, hchained.heldSince (hempty window) htexture⟩

/-- A configuration without alpha that binds to either target, and one with alpha that binds to
rectangles only: windows with alpha get a rectangle, and one that is too deep gets nothing. -/
theorem bridged_play_listing :
    let c : Catalogue := {
      value := fun handle name =>
        match handle.id, name with
        | _, .samples | _, .yInverted | 0, .alphaSize => some 0
        | 0, .bufferSize => some 24
        | 0, .bindToTextureTargets => some 6
        | _, .bufferSize => some 32
        | _, .bindToTextureTargets => some 4
        | _, .redSize | _, .alphaSize => some 8
        | _, _ => some 1
      visualDepth := fun handle => if handle.id = 0 then some 24 else some 32 }
    let driver := (Driver.granting true).listing c [⟨1⟩, ⟨0⟩]
    driver.Follows c ∧ ∃ session, start? driver () .ofDepth24 {} = some session ∧
      let operations : List Operation :=
        [.prepare { id := 7, depth := 24, width := 10, height := 20 }, .render 7,
          .prepare { id := 9, depth := 32, width := 5, height := 5 }, .render 9,
          .compose 7 0 0 ⟨[]⟩, .prepare { id := 7, depth := 32, width := 5, height := 5 },
          .prepare { id := 5, depth := 33, width := 5, height := 5 }, .release 9]
      let played := session.play driver operations
      let renderer := session.backend.renderer
      bridgings played.trace = [⟨⟨0⟩, .rgb, .twoDimensional⟩, ⟨⟨1⟩, .rgba, .rectangle⟩,
        ⟨⟨1⟩, .rgba, .rectangle⟩] ∧
      played.turns.map Turn.operation = operations ∧
      (∃ names, .call (.gl .extensions) names ∈ session.opening ∧
        renderer.anySize = Extension.isListed names Extension.nonPowerOfTwo) ∧
      bridgings session.opening = [] ∧
      (∀ turn ∈ played.turns, ∀ b ∈ bridgings turn.trace,
        ∃ wanted, turn.operation = .prepare wanted ∧ b.Suits c renderer wanted.depth) ∧
      (∀ earlier turn later, played.turns = earlier ++ turn :: later →
        (∀ window t, turn.before.texture? window = some t ↔ HeldSince earlier window t) ∧
        (turn.operation.subject? = none → targets turn.trace = []) ∧
        ∀ window, turn.operation.subject? = some window → ∃ old new, turn.Aims window old new) ∧
      ∀ order ending,
        let finished := played.finish driver order ending
        finished.outcome = .ok () ∧ bridgings finished.trace = [] ∧
        played.backend.PartsWith order finished.trace ∧
        ∀ t ∈ played.backend.textures.values, ∃ window, HeldSince played.turns window t := by
  intro c driver
  have hfollows : driver.Follows c := Driver.listing_follows _ _ _
  have hasked : ((start? driver () .ofDepth24 {}).map fun session =>
      bridgings (session.play driver [.prepare { id := 7, depth := 24, width := 10, height := 20 },
        .render 7, .prepare { id := 9, depth := 32, width := 5, height := 5 }, .render 9,
        .compose 7 0 0 ⟨[]⟩, .prepare { id := 7, depth := 32, width := 5, height := 5 },
        .prepare { id := 5, depth := 33, width := 5, height := 5 }, .release 9]).trace) =
      some [⟨⟨0⟩, .rgb, .twoDimensional⟩, ⟨⟨1⟩, .rgba, .rectangle⟩, ⟨⟨1⟩, .rgba, .rectangle⟩] := by
    decide +kernel
  obtain ⟨session, hsession, hbridgings⟩ := Option.map_eq_some_iff.1 hasked
  exact ⟨hfollows, session, hsession, hbridgings, bridged_play hfollows hsession _⟩

end Session
end Compositor
