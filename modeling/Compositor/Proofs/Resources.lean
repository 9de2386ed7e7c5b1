import Mathlib.Algebra.BigOperators.Group.List.Basic
import Compositor.Proofs.Ledger
import Compositor.Proofs.Operation

namespace Compositor

variable {start finish : Multiset Resource}

theorem Gl.Emptied.accepts (h : Gl.Emptied site drain) : ledger.Accepts start drain start := by
  apply Ledger.idle
  exact h.forall_mem (fun _ => ⟨rfl, rfl, rfl⟩) fun _ => ⟨rfl, rfl, rfl⟩

/-- What a native pixmap has to be freed for: only an owned one is. -/
def NativePixmap.resources : NativePixmap → Multiset Resource
  | .owned pixmap => {.pixmap pixmap}
  | .borrowed _ => 0

namespace Holdings

def bridgeResources (held : Holdings) : Multiset Resource :=
  held.bridge.elim 0 fun bridge => {.bridge bridge}

def textureResources (held : Holdings) : Multiset Resource :=
  held.texture.elim 0 fun texture => {.texture texture}

def pixmapResources (held : Holdings) : Multiset Resource :=
  held.pixmap.elim 0 NativePixmap.resources

def resources (held : Holdings) : Multiset Resource :=
  held.bridgeResources + held.textureResources + held.pixmapResources

theorem bridgeEvents_accepts (held : Holdings) (start : Multiset Resource) (release : EntryPoint)
    (target : TextureTarget) :
    ledger.Accepts (held.bridgeResources + (held.textureResources + start))
      (held.bridgeEvents release target) (held.textureResources + start) := by
  obtain ⟨pixmap, bridge, texture⟩ := held
  cases bridge with
  | none =>
    simp only [bridgeResources, Option.elim_none, zero_add]
    exact Monitor.accepts_nil
  | some bridge =>
    cases texture with
    | none => exact Ledger.destroy rfl rfl rfl Monitor.accepts_nil
    | some texture =>
      have htexture : Resource.texture texture ∈
          ({.bridge bridge} + ({.texture texture} + start) : Multiset Resource) := by simp
      have hbridge : Resource.bridge bridge ∈
          ({.bridge bridge} + ({.texture texture} + start) : Multiset Resource) := by simp
      apply Ledger.use rfl rfl rfl htexture
      apply Ledger.use rfl rfl rfl hbridge
      apply Ledger.skip ⟨rfl, rfl, rfl⟩
      exact Ledger.destroy rfl rfl rfl Monitor.accepts_nil

theorem textureEvents_accepts (held : Holdings) (start : Multiset Resource) :
    ledger.Accepts (held.textureResources + start) held.textureEvents start := by
  obtain ⟨pixmap, bridge, texture⟩ := held
  cases texture with
  | none =>
    simp only [textureResources, Option.elim_none, zero_add]
    exact Monitor.accepts_nil
  | some texture => exact Ledger.destroy rfl rfl rfl Monitor.accepts_nil

theorem pixmapEvents_accepts (held : Holdings) (start : Multiset Resource) :
    ledger.Accepts (held.pixmapResources + start) held.pixmapEvents start := by
  obtain ⟨pixmap, bridge, texture⟩ := held
  rcases pixmap with _ | pixmap | window
  · simp only [pixmapResources, Option.elim_none, zero_add]
    exact Monitor.accepts_nil
  · exact Ledger.destroy rfl rfl rfl Monitor.accepts_nil
  · simp only [pixmapResources, Option.elim_some, NativePixmap.resources, zero_add]
    exact Monitor.accepts_nil

theorem giveBackEvents_accepts (held : Holdings) (start : Multiset Resource)
    (release : EntryPoint) (target : TextureTarget) (hdrain : Gl.Emptied "release pixmap" drain) :
    ledger.Accepts (held.resources + start) (held.giveBackEvents release target drain) start := by
  have hbridge := held.bridgeEvents_accepts (held.pixmapResources + start) release target
  have htexture := held.textureEvents_accepts (held.pixmapResources + start)
  have hpixmap := held.pixmapEvents_accepts start
  simp only [resources, add_assoc]
  exact (hbridge.append hdrain.accepts).append (htexture.append hpixmap)

end Holdings

namespace WindowTexture

/-- What a texture keeps live: its bridge, the texture, and the native pixmap if it is owned. -/
def resources (t : WindowTexture) : Multiset Resource := t.holdings.resources

theorem texture_mem_resources (t : WindowTexture) : .texture t.texture ∈ t.resources := by
  simp [resources, holdings, Holdings.resources, Holdings.textureResources]

theorem bridge_mem_resources {t : WindowTexture} {bridge : BridgePixmap}
    (hbridge : t.bridge = some bridge) : .bridge bridge ∈ t.resources := by
  simp [resources, holdings, Holdings.resources, Holdings.bridgeResources, hbridge]

theorem Named.accepts {window : XId} {naming : List Event} {pixmap : Option NativePixmap}
    (h : Named window naming pixmap) :
    ledger.Accepts start naming (pixmap.elim 0 NativePixmap.resources + start) := by
  cases h with
  | @owned pixmap hid =>
    apply Ledger.skip ⟨rfl, rfl, rfl⟩
    have hcreated : Event.created? (.call (.display (.namePixmap window)) (some pixmap)) =
        some (.pixmap pixmap) := by
      simp [Event.created?, hid]
    exact Ledger.create_of_unused hcreated rfl Monitor.accepts_nil
  | zero =>
    rw [Option.elim_none, zero_add]
    exact Ledger.skip ⟨rfl, rfl, rfl⟩ (Ledger.single ⟨rfl, rfl, rfl⟩)
  | failed =>
    rw [Option.elim_none, zero_add]
    exact Ledger.skip ⟨rfl, rfl, rfl⟩ (Ledger.single ⟨rfl, rfl, rfl⟩)
  | borrowed hid =>
    rw [Option.elim_some, NativePixmap.resources, zero_add]
    exact Ledger.single ⟨rfl, rfl, rfl⟩
  | noWindow hid =>
    rw [Option.elim_none, zero_add]
    exact Ledger.single ⟨rfl, rfl, rfl⟩

theorem prepareEvents_accepts {texture : TextureId} (target : TextureTarget)
    (hlive : .texture texture ∈ start) :
    ledger.Accepts start (prepareEvents texture target) start := by
  apply Ledger.use rfl rfl rfl hlive
  apply Ledger.idle
  intro event hevent
  simp only [List.mem_cons, List.not_mem_nil, or_false] at hevent
  rcases hevent with rfl | rfl | rfl | rfl | rfl <;> exact ⟨rfl, rfl, rfl⟩

def resultResources : Except WindowError WindowTexture → Multiset Resource
  | .ok texture => texture.resources
  | .error _ => 0

theorem Acquired.accepts {renderer : Renderer} {window : Window} {config : FbConfig}
    {target : TextureTarget} {trace : List Event} {result : Except WindowError WindowTexture}
    (h : Acquired renderer window config target trace result) :
    ledger.Accepts start trace (resultResources result + start) := by
  cases h with
  | noPixmap hnaming hdrain =>
    have hgive := Holdings.giveBackEvents_accepts {} start renderer.texImage.release target hdrain
    apply hnaming.accepts.append
    simp only [resultResources, zero_add]
    exact Ledger.skip ⟨rfl, rfl, rfl⟩ hgive
  | @noBridge naming drain pixmap hnaming hdrain =>
    have hgive := Holdings.giveBackEvents_accepts { pixmap := some pixmap } start
      renderer.texImage.release target hdrain
    simp only [Holdings.resources, Holdings.bridgeResources, Holdings.textureResources,
      Option.elim_none, zero_add] at hgive
    apply hnaming.accepts.append
    rw [resultResources, zero_add]
    apply Ledger.skip ⟨rfl, rfl, rfl⟩
    exact Ledger.skip ⟨rfl, rfl, rfl⟩ hgive
  | @noTexture naming drain pixmap bridge hnaming hdrain =>
    have hgive := Holdings.giveBackEvents_accepts { pixmap := some pixmap, bridge := some bridge }
      start renderer.texImage.release target hdrain
    simp only [Holdings.resources, Holdings.textureResources, Option.elim_none, add_zero,
      add_assoc] at hgive
    apply hnaming.accepts.append
    rw [resultResources, zero_add]
    apply Ledger.create_of_unused rfl rfl
    apply Ledger.skip ⟨rfl, rfl, rfl⟩
    exact Ledger.skip ⟨rfl, rfl, rfl⟩ hgive
  | @whole naming pixmap bridge texture hnaming =>
    have hresources : resultResources (.ok (ofParts window config target pixmap bridge texture)) +
        start = .texture texture ::ₘ .bridge bridge ::ₘ (pixmap.resources + start) := by
      change {.bridge bridge} + {.texture texture} + pixmap.resources + start = _
      rw [add_comm {_}, add_assoc, add_assoc]
      rfl
    apply hnaming.accepts.append
    apply Ledger.create_of_unused rfl rfl
    apply Ledger.create_of_unused rfl rfl
    rw [hresources]
    exact prepareEvents_accepts target (Multiset.mem_cons_self _ _)

theorem Created.accepts {renderer : Renderer} {window : Window} {trace : List Event}
    {result : Except WindowError WindowTexture} (h : Created renderer window trace result) :
    ledger.Accepts start trace (resultResources result + start) := by
  cases h with
  | tooDeep hdepth =>
    rw [resultResources, zero_add]
    exact Ledger.single ⟨rfl, rfl, rfl⟩
  | noConfig hdepth hconfig =>
    rw [resultResources, zero_add]
    exact Ledger.single ⟨rfl, rfl, rfl⟩
  | acquired hdepth hconfig h => exact Ledger.skip ⟨rfl, rfl, rfl⟩ h.accepts

theorem Created.isBound {renderer : Renderer} {window : Window} {trace : List Event}
    {texture : WindowTexture} (h : Created renderer window trace (.ok texture)) :
    texture.isBound = true := by
  cases h with
  | acquired hdepth hconfig h =>
    cases h with
    | whole hnaming => rfl

theorem refreshEvents_accepts {t : WindowTexture} {bridge : BridgePixmap} (bind : EntryPoint)
    (htexture : .texture t.texture ∈ start) (hbridge : .bridge bridge ∈ start)
    (hdrain : Gl.Emptied "bind pixmap" drain) :
    ledger.Accepts start (t.refreshEvents bind bridge drain) start := by
  apply Ledger.use rfl rfl rfl htexture
  apply Ledger.use rfl rfl rfl hbridge
  exact Ledger.skip ⟨rfl, rfl, rfl⟩ hdrain.accepts

theorem destroyEvents_accepts (t : WindowTexture) (start : Multiset Resource)
    (release : EntryPoint) (hdrain : Gl.Emptied "release pixmap" drain) :
    ledger.Accepts (t.resources + start) (t.destroyEvents release drain) start := by
  have hgive := t.holdings.giveBackEvents_accepts start release t.target hdrain
  exact hgive.append (Ledger.single ⟨rfl, rfl, rfl⟩)

end WindowTexture

namespace Backend

/-- What is live between operations: the context, and what the textures hold. -/
def resources (backend : Backend) : Multiset Resource :=
  .context backend.renderer.context ::ₘ
    (backend.textures.values.map WindowTexture.resources).sum

theorem values_eq_map_toList (textures : Std.TreeMap XId WindowTexture) :
    textures.values = textures.toList.map Prod.snd := by
  change textures.inner.inner.values =
    (Std.DTreeMap.Internal.Impl.Const.toList textures.inner.inner).map Prod.snd
  rw [Std.DTreeMap.Internal.Impl.values_eq_map_snd,
    Std.DTreeMap.Internal.Impl.Const.toList_eq_toListModel_map, List.map_map]
  rfl

theorem exists_texture?_of_mem_values {backend : Backend} {texture : WindowTexture}
    (htexture : texture ∈ backend.textures.values) :
    ∃ window, backend.texture? window = some texture := by
  rw [values_eq_map_toList] at htexture
  obtain ⟨entry, hentry, rfl⟩ := List.mem_map.1 htexture
  exact ⟨entry.1, Std.TreeMap.mem_toList_iff_getElem?_eq_some.1 hentry⟩

theorem values_withTexture {backend : Backend} {window : XId} (texture : WindowTexture)
    (habsent : backend.texture? window = none) :
    (backend.withTexture window texture).textures.values.Perm
      (texture :: backend.textures.values) := by
  have hinsert := Std.TreeMap.toList_insert_perm (t := backend.textures) (k := window)
    (v := texture)
  have hother : backend.textures.toList.filter (¬window == ·.1) = backend.textures.toList := by
    apply List.filter_eq_self.2
    intro entry hentry
    have hfound := Std.TreeMap.mem_toList_iff_getElem?_eq_some.1 hentry
    by_cases hkey : window = entry.1
    · rw [← hkey] at hfound
      rw [texture?, hfound] at habsent
      cases habsent
    · simp [hkey]
  rw [hother] at hinsert
  rw [values_eq_map_toList, values_eq_map_toList]
  exact hinsert.map Prod.snd

theorem values_of_texture? {backend : Backend} {window : XId} {texture : WindowTexture}
    (htexture : backend.texture? window = some texture) :
    backend.textures.values.Perm (texture :: (backend.without window).textures.values) := by
  have habsent : (backend.without window).texture? window = none := by
    rw [texture?_without, if_pos rfl]
  have hequiv : ((backend.without window).withTexture window texture).textures.Equiv
      backend.textures := by
    apply Std.TreeMap.Equiv.of_forall_constGet?_eq
    intro other
    change ((backend.without window).withTexture window texture).texture? other =
      backend.texture? other
    rw [texture?_withTexture, texture?_without]
    split
    · next hother => rw [← hother, htexture]
    · rfl
  rw [← hequiv.values_eq]
  exact values_withTexture texture habsent

theorem resources_withTexture {backend : Backend} {window : XId} (texture : WindowTexture)
    (habsent : backend.texture? window = none) :
    (backend.withTexture window texture).resources = texture.resources + backend.resources := by
  have hvalues := (values_withTexture texture habsent).map WindowTexture.resources
  rw [resources, hvalues.sum_eq, List.map_cons, List.sum_cons, ← Multiset.add_cons]
  rfl

theorem resources_of_texture? {backend : Backend} {window : XId} {texture : WindowTexture}
    (htexture : backend.texture? window = some texture) :
    backend.resources = texture.resources + (backend.without window).resources := by
  have hvalues := (values_of_texture? htexture).map WindowTexture.resources
  rw [resources, hvalues.sum_eq, List.map_cons, List.sum_cons, ← Multiset.add_cons]
  rfl

theorem Cleared.accepts {backend cleared : Backend} {window : XId} {trace : List Event}
    (h : backend.Cleared window trace cleared) :
    ledger.Accepts backend.resources trace cleared.resources := by
  cases h with
  | absent habsent => exact Monitor.accepts_nil
  | stale htexture hdrain =>
    rw [resources_of_texture? htexture]
    apply Ledger.skip ⟨rfl, rfl, rfl⟩
    exact WindowTexture.destroyEvents_accepts _ _ _ hdrain

theorem Cleared.texture?_eq_none {backend cleared : Backend} {window : XId} {trace : List Event}
    (h : backend.Cleared window trace cleared) : cleared.texture? window = none := by
  cases h with
  | absent habsent => exact habsent
  | stale htexture hdrain => rw [texture?_without, if_pos rfl]

theorem mem_resources_of_texture? {backend : Backend} {window : XId} {texture : WindowTexture}
    {r : Resource} (htexture : backend.texture? window = some texture)
    (hr : r ∈ texture.resources) : r ∈ backend.resources := by
  rw [resources_of_texture? htexture]
  exact Multiset.mem_add.2 (.inl hr)

/-- Every operation leads from what was live before it to what is live after it. -/
theorem Move.accepts {backend next : Backend} {operation : Operation} {trace : List Event}
    {outcome : Except Fault Reply} (h : backend.Move operation trace outcome next) :
    ledger.Accepts backend.resources trace next.resources := by
  cases h with
  | prepared hclear hcreate =>
    rw [resources_withTexture _ hclear.texture?_eq_none]
    exact hclear.accepts.append hcreate.accepts
  | refused hclear hcreate =>
    have hnothing : ledger.Accepts next.resources _ (0 + next.resources) := hcreate.accepts
    rw [zero_add] at hnothing
    exact hclear.accepts.append hnothing
  | unknown hshown habsent => exact Monitor.accepts_nil
  | rendered htexture hbridge hdrain =>
    apply WindowTexture.refreshEvents_accepts
    · exact mem_resources_of_texture? htexture (WindowTexture.texture_mem_resources _)
    · exact mem_resources_of_texture? htexture (WindowTexture.bridge_mem_resources hbridge)
    · exact hdrain
  | unbound htexture hbridge => exact Monitor.accepts_nil
  | released htexture hdrain =>
    rw [resources_of_texture? htexture]
    exact WindowTexture.destroyEvents_accepts _ _ _ hdrain
  | composed htexture hbound hplace =>
    have hlive := mem_resources_of_texture? htexture (WindowTexture.texture_mem_resources _)
    exact Ledger.use rfl rfl rfl hlive Monitor.accepts_nil
  | overflowed htexture hbound hplace => exact Monitor.accepts_nil
  | skipped htexture hbound => exact Ledger.single ⟨rfl, rfl, rfl⟩
  | presented =>
    apply Ledger.skip ⟨rfl, rfl, rfl⟩
    exact Ledger.single ⟨rfl, rfl, rfl⟩
  | untracked hswap => exact Monitor.accepts_nil
  | tracked hswap => exact Ledger.single ⟨rfl, rfl, rfl⟩
  | resized =>
    apply Ledger.skip ⟨rfl, rfl, rfl⟩
    exact Ledger.single ⟨rfl, rfl, rfl⟩
  | kept => exact Monitor.accepts_nil

/-- Every texture can be refreshed. -/
def AllBound (backend : Backend) : Prop :=
  ∀ window texture, backend.texture? window = some texture → texture.isBound = true

theorem AllBound.without {backend : Backend} (h : backend.AllBound) (window : XId) :
    (backend.without window).AllBound := by
  intro other texture htexture
  rw [texture?_without] at htexture
  split at htexture
  · cases htexture
  · exact h other texture htexture

theorem AllBound.withTexture {backend : Backend} (h : backend.AllBound) (window : XId)
    {texture : WindowTexture} (hbound : texture.isBound = true) :
    (backend.withTexture window texture).AllBound := by
  intro other texture' htexture
  rw [texture?_withTexture] at htexture
  split at htexture
  · cases htexture
    exact hbound
  · exact h other texture' htexture

theorem AllBound.cleared {backend cleared : Backend} {window : XId} {trace : List Event}
    (h : backend.AllBound) (hclear : backend.Cleared window trace cleared) : cleared.AllBound := by
  cases hclear with
  | absent habsent => exact h
  | stale htexture hdrain => exact h.without window

theorem Move.allBound {backend next : Backend} {operation : Operation} {trace : List Event}
    {outcome : Except Fault Reply} (h : backend.Move operation trace outcome next)
    (hbound : backend.AllBound) : next.AllBound := by
  cases h with
  | @prepared window clearing creation cleared texture hclear hcreate =>
    exact (hbound.cleared hclear).withTexture window.id hcreate.isBound
  | refused hclear hcreate => exact hbound.cleared hclear
  | released htexture hdrain => exact hbound.without _
  | _ => exact hbound

end Backend

end Compositor
