import Compositor.Proofs.Texturing

namespace Compositor

/-- What a texture takes, in the order in which it is acquired. -/
inductive Need where
  | pixmap
  | bridge
  | texture

/-- Which need an event is about, and whether it is met. A window that cannot be named does for its
own pixmap; an identifier of zero counts as none. -/
def Event.attempt? (window : XId) : Event → Option (Need × Bool)
  | .call (.display .canNamePixmap) names => if names then none else some (.pixmap, window ≠ 0)
  | .call (.display (.namePixmap _)) pixmap => some (.pixmap, pixmap.any (· ≠ 0))
  | .call (.display (.createBridge ..)) bridge => some (.bridge, bridge.isSome)
  | .call (.gl .generateTexture) texture => some (.texture, texture.isSome)
  | _ => none

/-- The needs that a trace sees to, and whether they are met. -/
def attempts (window : XId) (trace : List Event) : List (Need × Bool) :=
  trace.filterMap (Event.attempt? window)

variable {trace first rest drain naming : List Event} {site : String} {window : XId}

@[simp] theorem attempts_append (window : XId) (first rest : List Event) :
    attempts window (first ++ rest) = attempts window first ++ attempts window rest :=
  List.filterMap_append

theorem Gl.Emptied.attempts_eq_nil (h : Gl.Emptied site trace) : attempts window trace = [] :=
  List.filterMap_eq_nil_iff.2 (h.forall_mem (fun _ => rfl) fun _ => rfl)

theorem Gl.Emptied.created_eq_nil (h : Gl.Emptied site trace) :
    trace.filterMap Event.created? = [] :=
  List.filterMap_eq_nil_iff.2 (h.forall_mem (fun _ => rfl) fun _ => rfl)

theorem Gl.Emptied.destroyed_eq_nil (h : Gl.Emptied site trace) :
    trace.filterMap Event.destroyed? = [] :=
  List.filterMap_eq_nil_iff.2 (h.forall_mem (fun _ => rfl) fun _ => rfl)

theorem Bindings.foldl_next_of_isPlain (h : trace.all Event.isPlain = true) (bindings : Bindings) :
    trace.foldl Bindings.next bindings = bindings := by
  induction trace with
  | nil => rfl
  | cons event trace ih =>
    obtain ⟨hevent, hrest⟩ := Bool.and_eq_true_iff.1 h
    rw [List.foldl_cons, Event.next_of_isPlain hevent]
    exact ih hrest

namespace Holdings

/-- What is held that has to be given back, in the order in which it is acquired. -/
def parts (held : Holdings) : List Resource :=
  (match held.pixmap with
    | some (.owned pixmap) => [.pixmap pixmap]
    | _ => []) ++
  held.bridge.toList.map .bridge ++ held.texture.toList.map .texture

variable {held : Holdings}

theorem pixmap_mem_parts {pixmap : XId} :
    .pixmap pixmap ∈ held.parts ↔ held.pixmap = some (.owned pixmap) := by
  obtain ⟨native, bridge, texture⟩ := held
  rcases native with _ | native | window <;> simp [parts, eq_comm]

theorem attempts_giveBackEvents (release : EntryPoint) (target : TextureTarget)
    (hdrain : Gl.Emptied "release pixmap" drain) :
    attempts window (held.giveBackEvents release target drain) = [] := by
  obtain ⟨pixmap, bridge, texture⟩ := held
  rw [giveBackEvents, attempts_append, attempts_append, hdrain.attempts_eq_nil]
  rcases pixmap with _ | pixmap | window <;> cases bridge <;> cases texture <;> rfl

theorem created_giveBackEvents (release : EntryPoint) (target : TextureTarget)
    (hdrain : Gl.Emptied "release pixmap" drain) :
    (held.giveBackEvents release target drain).filterMap Event.created? = [] := by
  obtain ⟨pixmap, bridge, texture⟩ := held
  rw [giveBackEvents, List.filterMap_append, List.filterMap_append, hdrain.created_eq_nil]
  rcases pixmap with _ | pixmap | window <;> cases bridge <;> cases texture <;> rfl

theorem destroyed_giveBackEvents (htexture : held.texture = none) (release : EntryPoint)
    (target : TextureTarget) (hdrain : Gl.Emptied "release pixmap" drain) :
    (held.giveBackEvents release target drain).filterMap Event.destroyed? = held.parts.reverse := by
  obtain ⟨pixmap, bridge, _⟩ := held
  cases htexture
  rw [giveBackEvents, List.filterMap_append, List.filterMap_append, hdrain.destroyed_eq_nil]
  rcases pixmap with _ | pixmap | window <;> cases bridge <;> rfl

end Holdings

namespace WindowTexture

/-- How creation ends, by the needs that were seen to. -/
inductive Verdict (window : Window) : List (Need × Bool) → Except WindowError WindowTexture → Prop
  | noPixmap : Verdict window [(.pixmap, false)] (.error (.pixmapUnavailable window.id))
  | noBridge :
    Verdict window [(.pixmap, true), (.bridge, false)] (.error (.bridgeCreationFailed window.id))
  | noTexture :
    Verdict window [(.pixmap, true), (.bridge, true), (.texture, false)]
      (.error (.textureCreationFailed window.id))
  | whole {t : WindowTexture} :
    Verdict window [(.pixmap, true), (.bridge, true), (.texture, true)] (.ok t)

/-- A failed creation leaves nothing. What it handed out was taken back in the opposite order, and
of the pixmaps only such that it named; no texture was bound, and no image. -/
structure Undone (window : XId) (trace : List Event) : Prop where
  returned : trace.filterMap Event.destroyed? = (trace.filterMap Event.created?).reverse
  named : ∀ pixmap, .pixmap pixmap ∈ trace.filterMap Event.destroyed? →
    pixmap ≠ 0 ∧ .call (.display (.namePixmap window)) (some pixmap) ∈ trace
  plain : trace.all Event.isPlain = true

/-- A texture that was created has all that was handed out, and what was bound was unbound. -/
structure Yielded (renderer : Renderer) (window : Window) (trace : List Event) (t : WindowTexture) :
    Prop where
  made : ∃ config naming pixmap bridge texture,
    renderer.configs.get? window.depth = some config ∧
    t = ofParts window config (config.targets.choose renderer.anySize) pixmap bridge texture ∧
    Named window.id naming (some pixmap) ∧ naming ⊆ trace ∧
    .call (.display (.createBridge config.handle pixmap.id config.format t.target)) (some bridge) ∈
      trace ∧
    .call (.gl .generateTexture) (some texture) ∈ trace
  created : trace.filterMap Event.created? = t.holdings.parts
  kept : trace.filterMap Event.destroyed? = []
  unbound : ∀ bindings : Bindings, trace.foldl Bindings.next bindings = bindings.bind t.target none

variable {pixmap : Option NativePixmap} {renderer : Renderer} {wanted : Window} {config : FbConfig}
  {target : TextureTarget} {result : Except WindowError WindowTexture} {cause : WindowError}
  {t : WindowTexture}

theorem Named.attempts_eq (h : Named window naming pixmap) :
    attempts window naming = [(.pixmap, pixmap.isSome)] := by
  cases h with
  | owned hid => simp [attempts, Event.attempt?, hid]
  | zero => rfl
  | failed => rfl
  | borrowed hid => simp [attempts, Event.attempt?, hid]
  | noWindow hid => simp [attempts, Event.attempt?, hid]

theorem Named.created_eq (h : Named window naming pixmap) :
    naming.filterMap Event.created? = Holdings.parts { pixmap } := by
  cases h with
  | @owned pixmap hid =>
    have hcreated : Event.created? (.call (.display (.namePixmap window)) (some pixmap)) =
        some (.pixmap pixmap) := by
      simp [Event.created?, hid]
    rw [List.filterMap_cons_none rfl, List.filterMap_cons_some hcreated]
    rfl
  | _ => rfl

theorem Named.destroyed_eq_nil (h : Named window naming pixmap) :
    naming.filterMap Event.destroyed? = [] := by
  cases h <;> rfl

theorem Named.of_owned {pixmap : XId} (h : Named window naming (some (.owned pixmap))) :
    pixmap ≠ 0 ∧ .call (.display (.namePixmap window)) (some pixmap) ∈ naming := by
  cases h with
  | owned hid => exact ⟨hid, List.mem_cons_of_mem _ List.mem_cons_self⟩

theorem Acquired.verdict (h : Acquired renderer wanted config target trace result) :
    Verdict wanted (attempts wanted.id trace) result := by
  have hgive {held : Holdings} {drain : List Event} {notice : Notice}
      (hdrain : Gl.Emptied "release pixmap" drain) :
      attempts wanted.id
        (.note notice :: held.giveBackEvents renderer.texImage.release target drain) = [] :=
    Holdings.attempts_giveBackEvents _ _ hdrain
  cases h with
  | noPixmap hnaming hdrain =>
    rw [attempts_append, hnaming.attempts_eq, hgive hdrain]
    exact .noPixmap
  | noBridge hnaming hdrain =>
    rw [attempts_append, hnaming.attempts_eq]
    change Verdict wanted (_ ++ _ :: attempts _ _) _
    rw [hgive hdrain]
    exact .noBridge
  | noTexture hnaming hdrain =>
    rw [attempts_append, hnaming.attempts_eq]
    change Verdict wanted (_ ++ _ :: _ :: attempts _ _) _
    rw [hgive hdrain]
    exact .noTexture
  | whole hnaming =>
    rw [attempts_append, hnaming.attempts_eq]
    exact .whole

/-- Whatever was acquired after the pixmap, giving it back undoes it, as long as there is no
texture yet. -/
theorem Named.undone (held : Holdings) (steps : List Event)
    (h : Named window naming held.pixmap)
    (hbridge : steps.filterMap Event.created? = held.bridge.toList.map .bridge)
    (hsteps : steps.filterMap Event.destroyed? = []) (hplain : steps.all Event.isPlain = true)
    (htexture : held.texture = none) (release : EntryPoint)
    (hdrain : Gl.Emptied "release pixmap" drain) :
    Undone window (naming ++ (steps ++ held.giveBackEvents release target drain)) := by
  have hparts : naming.filterMap Event.created? ++ steps.filterMap Event.created? = held.parts := by
    rw [h.created_eq, hbridge]
    obtain ⟨pixmap, bridge, _⟩ := held
    cases htexture
    simp [Holdings.parts]
  have hdestroyed : (naming ++ (steps ++ held.giveBackEvents release target drain)).filterMap
      Event.destroyed? = held.parts.reverse := by
    rw [List.filterMap_append, List.filterMap_append, h.destroyed_eq_nil, hsteps,
      Holdings.destroyed_giveBackEvents htexture release target hdrain]
    rfl
  constructor
  case returned =>
    rw [hdestroyed, List.filterMap_append, List.filterMap_append,
      Holdings.created_giveBackEvents release target hdrain, List.append_nil, hparts]
  case named =>
    intro pixmap hpixmap
    rw [hdestroyed, List.mem_reverse, Holdings.pixmap_mem_parts] at hpixmap
    rw [hpixmap] at h
    obtain ⟨hid, hnamed⟩ := h.of_owned
    exact ⟨hid, List.mem_append_left _ hnamed⟩
  case plain =>
    exact all_append_of h.all_isPlain
      (all_append_of hplain (Holdings.giveBackEvents_isPlain htexture release target hdrain))

theorem Acquired.undone (h : Acquired renderer wanted config target trace (.error cause)) :
    Undone wanted.id trace := by
  cases h with
  | noPixmap hnaming hdrain =>
    exact hnaming.undone {} [_] rfl rfl rfl rfl _ hdrain
  | noBridge hnaming hdrain =>
    exact hnaming.undone { pixmap := some _ } [_, _] rfl rfl rfl rfl _ hdrain
  | noTexture hnaming hdrain =>
    exact hnaming.undone { pixmap := some _, bridge := some _ } [_, _, _] rfl rfl rfl rfl _ hdrain

theorem foldl_next_prepareEvents (texture : TextureId) (target : TextureTarget)
    (bindings : Bindings) :
    (prepareEvents texture target).foldl Bindings.next bindings = bindings.bind target none :=
  bindings.bind_bind target (some texture) none

theorem Acquired.yielded
    (h : Acquired renderer wanted config (config.targets.choose renderer.anySize) trace (.ok t))
    (hconfig : renderer.configs.get? wanted.depth = some config) :
    Yielded renderer wanted trace t := by
  cases h with
  | @whole naming pixmap bridge texture hnaming =>
    constructor
    case made =>
      refine ⟨config, naming, pixmap, bridge, texture, hconfig, rfl, hnaming,
        List.subset_append_left _ _, ?_, ?_⟩
      · exact List.mem_append_right _ List.mem_cons_self
      · exact List.mem_append_right _ (List.mem_cons_of_mem _ List.mem_cons_self)
    case created =>
      rw [List.filterMap_append, hnaming.created_eq]
      cases pixmap <;> rfl
    case kept =>
      rw [List.filterMap_append, hnaming.destroyed_eq_nil]
      rfl
    case unbound =>
      intro bindings
      rw [List.foldl_append, Bindings.foldl_next_of_isPlain hnaming.all_isPlain]
      exact foldl_next_prepareEvents _ _ _

/-- How creation ends: which requirement of the window decides, and which of its needs. -/
structure Decided (renderer : Renderer) (window : Window) (trace : List Event)
    (result : Except WindowError WindowTexture) : Prop where
  unsupported : result = .error (.unsupportedDepth window.depth) ↔
    32 < window.depth ∨ renderer.configs.get? window.depth = none
  unasked : result = .error (.unsupportedDepth window.depth) → requests trace = []
  noPixmap : result = .error (.pixmapUnavailable window.id) ↔
    attempts window.id trace = [(.pixmap, false)]
  noBridge : result = .error (.bridgeCreationFailed window.id) ↔
    attempts window.id trace = [(.pixmap, true), (.bridge, false)]
  noTexture : result = .error (.textureCreationFailed window.id) ↔
    attempts window.id trace = [(.pixmap, true), (.bridge, true), (.texture, false)]
  whole : (∃ t, result = .ok t) ↔
    attempts window.id trace = [(.pixmap, true), (.bridge, true), (.texture, true)]
  named : ∀ cause, result = .error cause →
    cause = .unsupportedDepth window.depth ∨ cause = .pixmapUnavailable window.id ∨
      cause = .bridgeCreationFailed window.id ∨ cause = .textureCreationFailed window.id

/-- Without a configuration for its depth, a window is turned down before anything is asked for. -/
theorem decided_of_unsupported (hdepth : 32 < wanted.depth ∨
      renderer.configs.get? wanted.depth = none) (notice : Notice) :
    Decided renderer wanted [.note notice] (.error (.unsupportedDepth wanted.depth)) := by
  have hattempts : attempts wanted.id [.note notice] = [] := rfl
  constructor
  case unsupported => exact ⟨fun _ => hdepth, fun _ => rfl⟩
  case unasked => exact fun _ => rfl
  case named => exact fun cause hcause => .inl (Except.error.inj hcause).symm
  all_goals simp [hattempts]

theorem Verdict.decided (h : Verdict wanted (attempts wanted.id trace) result)
    (hdepth : wanted.depth ≤ 32)
    (hconfig : renderer.configs.get? wanted.depth = some config) :
    Decided renderer wanted trace result := by
  have hsupported : ¬ (32 < wanted.depth ∨
      renderer.configs.get? wanted.depth = none) := by
    simp [UInt8.not_lt.2 hdepth, hconfig]
  generalize hattempts : attempts wanted.id trace = list at h
  cases h <;> constructor <;> simp [hattempts, hsupported]

theorem Created.decided (h : Created renderer wanted trace result) :
    Decided renderer wanted trace result := by
  cases h with
  | tooDeep hdepth => exact decided_of_unsupported (.inl hdepth) _
  | noConfig hdepth hconfig => exact decided_of_unsupported (.inr hconfig) _
  | @acquired config events _ hdepth hconfig hacquire =>
    have hattempts (notice : Notice) :
        attempts wanted.id (.note notice :: events) = attempts wanted.id events := rfl
    have hverdict := hacquire.verdict
    rw [← hattempts] at hverdict
    exact hverdict.decided hdepth hconfig

theorem undone_nil : Undone window [] := ⟨rfl, nofun, rfl⟩

theorem Undone.note (h : Undone window trace) (notice : Notice) :
    Undone window (.note notice :: trace) := by
  constructor
  case returned => exact h.returned
  case named =>
    intro pixmap hpixmap
    obtain ⟨hid, hnamed⟩ := h.named pixmap hpixmap
    exact ⟨hid, List.mem_cons_of_mem _ hnamed⟩
  case plain => exact h.plain

theorem Yielded.note (h : Yielded renderer wanted trace t) (notice : Notice) :
    Yielded renderer wanted (.note notice :: trace) t := by
  obtain ⟨⟨config, naming, pixmap, bridge, texture, hconfig, ht, hnaming, hsubset, hbridge,
    htexture⟩, hcreated, hkept, hunbound⟩ := h
  exact ⟨⟨config, naming, pixmap, bridge, texture, hconfig, ht, hnaming,
    List.subset_cons_of_subset _ hsubset, List.mem_cons_of_mem _ hbridge,
    List.mem_cons_of_mem _ htexture⟩, hcreated, hkept, hunbound⟩

theorem Created.undone (h : Created renderer wanted trace (.error cause)) :
    Undone wanted.id trace := by
  cases h with
  | tooDeep hdepth => exact undone_nil.note _
  | noConfig hdepth hconfig => exact undone_nil.note _
  | acquired hdepth hconfig hacquire => exact hacquire.undone.note _

theorem Created.yielded (h : Created renderer wanted trace (.ok t)) :
    Yielded renderer wanted trace t := by
  cases h with
  | acquired hdepth hconfig hacquire => exact (hacquire.yielded hconfig).note _

/-- For any renderer and any window, and whatever the surroundings answer, creating a texture
returns what the window's depth and the needs of the texture decide. Where that is an error, all
that was handed out has been given back; where it is a texture, the texture has all of it. -/
theorem create_decided (renderer : Renderer) (window : Window) (driver : Driver σ) (state : σ) :
    let run := (create renderer window).run driver state
    ∃ result, run.outcome = .ok result ∧
      Decided renderer window run.trace result ∧
      Sound run.trace ∧ live run.trace = resultResources result ∧
      (∀ cause, result = .error cause → Undone window.id run.trace) ∧
      ∀ t, result = .ok t → Yielded renderer window run.trace t := by
  intro run
  obtain ⟨result, houtcome, hcreated⟩ := (create_returns renderer window).run driver state
  have haccepts : ledger.Accepts 0 run.trace (resultResources result + 0) := hcreated.accepts
  rw [add_zero] at haccepts
  refine ⟨result, houtcome, hcreated.decided, Ledger.sound haccepts, Ledger.live_eq haccepts,
    ?_, ?_⟩
  · rintro cause rfl
    exact hcreated.undone
  · rintro t rfl
    exact hcreated.yielded

end WindowTexture
end Compositor
