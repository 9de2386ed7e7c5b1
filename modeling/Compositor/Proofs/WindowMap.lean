import Mathlib.Data.Finmap
import Compositor.Proofs.Conservation

namespace Compositor

/-- What a window is painted with. -/
structure WindowEntry where
  width : UInt32
  height : UInt32
  target : TextureTarget
  yInverted : Bool
deriving DecidableEq

def WindowTexture.entry (t : WindowTexture) : WindowEntry where
  width := t.width
  height := t.height
  target := t.target
  yInverted := t.yInverted

/-- The windows that can be painted, and the size of what they are painted on. -/
structure WindowMap where
  entries : Finmap fun _ : XId => WindowEntry
  width : UInt32
  height : UInt32

namespace WindowMap

def without (map : WindowMap) (window : XId) : WindowMap :=
  { map with entries := map.entries.erase window }

def withEntry (map : WindowMap) (window : XId) (entry : WindowEntry) : WindowMap :=
  { map with entries := map.entries.insert window entry }

def entryFor (window : Window) (config : FbConfig) (anySize : Bool) : WindowEntry where
  width := window.width
  height := window.height
  target := config.targets.choose anySize
  yInverted := config.yInverted

/-- The quad that shows an entry whole, with its lower left corner at a place. -/
def quad (entry : WindowEntry) (texture : TextureId) (x lower : Int32) : Quad where
  texture := texture
  target := entry.target
  srcX := 0
  srcY := 0
  dstX := x
  dstY := lower
  width := entry.width
  height := entry.height
  opacity := 1000
  yInverted := entry.yInverted
  dualTexture := false

/-- What an operation asks and how it ends, for the map it is performed on, and the map afterwards.
The surroundings decide whether a window can be prepared; all else follows from the map. -/
inductive Step (configs : DepthTable) (anySize : Bool) (textures : XId → Option TextureId)
    (map : WindowMap) : Operation → List Event → Except Fault Reply → WindowMap → Prop
  | prepared {window : Window} {config : FbConfig} {trace : List Event}
    (hconfig : configs.get? window.depth = some config) :
    Step configs anySize textures map (.prepare window) trace (.ok (.window (.ok ())))
      ((map.without window.id).withEntry window.id (entryFor window config anySize))
  | refused {window : Window} {cause : WindowError} {trace : List Event} :
    Step configs anySize textures map (.prepare window) trace (.ok (.window (.error cause)))
      (map.without window.id)
  | unknown {operation : Operation} {window : XId} (hshown : operation.shown? = some window)
    (habsent : map.entries.lookup window = none) :
    Step configs anySize textures map operation [] (.ok (.window (.error (.unknownWindow window))))
      map
  | rendered {window : XId} {trace : List Event} (hpresent : window ∈ map.entries) :
    Step configs anySize textures map (.render window) trace (.ok (.window (.ok ()))) map
  | released {window : XId} {trace : List Event} (hpresent : window ∈ map.entries) :
    Step configs anySize textures map (.release window) trace (.ok (.window (.ok ())))
      (map.without window)
  | composed {window : XId} {x y lower : Int32} {clip flipped : Region} {entry : WindowEntry}
    {texture : TextureId} (hentry : map.entries.lookup window = some entry)
    (htexture : textures window = some texture)
    (hplace : Flip.place y entry.height clip map.height entry.yInverted = .ok (lower, flipped)) :
    Step configs anySize textures map (.compose window x y clip)
      [.call (.paint (.drawQuad (quad entry texture x lower) flipped)) ()] (.ok (.window (.ok ())))
      map
  | overflowed {window : XId} {x y : Int32} {clip : Region} {entry : WindowEntry} {e : Fault}
    (hentry : map.entries.lookup window = some entry)
    (hplace : Flip.place y entry.height clip map.height entry.yInverted = .error e) :
    Step configs anySize textures map (.compose window x y clip) [] (.error e) map
  | presented {trace : List Event} :
    Step configs anySize textures map .present trace (.ok .done) map
  | aged {trace : List Event} {age : BufferAge} :
    Step configs anySize textures map .bufferAge trace (.ok (.age age)) map
  | resized {width height : UInt32} :
    Step configs anySize textures map (.resize width height)
      [.note (.targetResized width height), .call (.paint (.resize width height)) ()] (.ok .done)
      { map with width, height }
  | kept {shaders : Shaders} :
    Step configs anySize textures map (.keepShaders shaders) [] (.ok .done) map

/-- The map holds what the backend's textures are painted with, and the size of its screen. -/
structure Matches (map : WindowMap) (backend : Backend) : Prop where
  lookup : ∀ window, map.entries.lookup window = (backend.texture? window).map WindowTexture.entry
  card : map.entries.keys.card = backend.liveTextures
  width : map.width = backend.renderer.screen.width
  height : map.height = backend.renderer.screen.height

/-- The turns of a backend are steps of the map, which holds the backend's textures before and after
each of them. -/
inductive Explains (configs : DepthTable) (anySize : Bool) (start : WindowMap) :
    List Turn → WindowMap → Prop
  | nil : Explains configs anySize start [] start
  | snoc {turns : List Turn} {turn : Turn} {map next : WindowMap}
    (hturns : Explains configs anySize start turns map) (hbefore : map.Matches turn.before)
    (hstep : Step configs anySize
      (fun window => (turn.before.texture? window).map WindowTexture.texture) map turn.operation
      turn.trace turn.outcome next)
    (hafter : next.Matches turn.after) : Explains configs anySize start (turns ++ [turn]) next

theorem keys_card_eq {entries : Finmap fun _ : XId => WindowEntry} {backend : Backend}
    (h : ∀ window, entries.lookup window = (backend.texture? window).map WindowTexture.entry) :
    entries.keys.card = backend.liveTextures := by
  have hkeys : entries.keys = backend.textures.keys.toFinset := by
    ext window
    rw [Finmap.mem_keys, List.mem_toFinset, Std.TreeMap.mem_keys, ← Finmap.lookup_isSome, h,
      Option.isSome_map, Std.TreeMap.mem_iff_isSome_getElem?]
    rfl
  rw [hkeys, List.toFinset_card_of_nodup Std.TreeMap.nodup_keys, Std.TreeMap.length_keys]
  rfl

theorem Matches.without {map : WindowMap} {backend : Backend} (h : map.Matches backend)
    (window : XId) : (map.without window).Matches (backend.without window) := by
  have hlookup (other : XId) : (map.without window).entries.lookup other =
      ((backend.without window).texture? other).map WindowTexture.entry := by
    rw [Backend.texture?_without]
    by_cases hother : window = other
    · subst hother
      rw [if_pos rfl]
      exact Finmap.lookup_erase window map.entries
    · rw [if_neg hother, ← h.lookup]
      exact Finmap.lookup_erase_ne (Ne.symm hother)
  exact ⟨hlookup, keys_card_eq hlookup, h.width, h.height⟩

theorem Matches.withTexture {map : WindowMap} {backend : Backend} (h : map.Matches backend)
    (window : XId) (texture : WindowTexture) :
    (map.withEntry window texture.entry).Matches (backend.withTexture window texture) := by
  have hlookup (other : XId) : (map.withEntry window texture.entry).entries.lookup other =
      ((backend.withTexture window texture).texture? other).map WindowTexture.entry := by
    rw [Backend.texture?_withTexture]
    by_cases hother : window = other
    · subst hother
      rw [if_pos rfl]
      exact Finmap.lookup_insert map.entries
    · rw [if_neg hother, ← h.lookup]
      exact Finmap.lookup_insert_of_ne map.entries (Ne.symm hother)
  exact ⟨hlookup, keys_card_eq hlookup, h.width, h.height⟩

theorem Matches.cleared {map : WindowMap} {backend cleared : Backend} {window : XId}
    {trace : List Event} (h : map.Matches backend) (hclear : backend.Cleared window trace cleared) :
    (map.without window).Matches cleared := by
  cases hclear with
  | absent habsent =>
    have hlookup (other : XId) : (map.without window).entries.lookup other =
        (backend.texture? other).map WindowTexture.entry := by
      by_cases hother : window = other
      · subst hother
        rw [habsent]
        exact Finmap.lookup_erase window map.entries
      · rw [← h.lookup]
        exact Finmap.lookup_erase_ne (Ne.symm hother)
    exact ⟨hlookup, keys_card_eq hlookup, h.width, h.height⟩
  | stale htexture hdrain => exact h.without window

theorem Matches.lookup_of_texture? {map : WindowMap} {backend : Backend} {window : XId}
    {texture : WindowTexture} (h : map.Matches backend)
    (htexture : backend.texture? window = some texture) :
    map.entries.lookup window = some texture.entry := by
  rw [h.lookup, htexture, Option.map_some]

theorem Matches.mem_of_texture? {map : WindowMap} {backend : Backend} {window : XId}
    {texture : WindowTexture} (h : map.Matches backend)
    (htexture : backend.texture? window = some texture) : window ∈ map.entries := by
  rw [← Finmap.lookup_isSome, h.lookup_of_texture? htexture]
  rfl

end WindowMap

theorem WindowTexture.Created.entry_eq {renderer : Renderer} {window : Window}
    {trace : List Event} {texture : WindowTexture}
    (h : WindowTexture.Created renderer window trace (.ok texture)) :
    ∃ config, renderer.configs.get? window.depth = some config ∧
      texture.entry = WindowMap.entryFor window config renderer.anySize := by
  cases h with
  | @acquired config _ _ hdepth hconfig h =>
    refine ⟨config, hconfig, ?_⟩
    cases h with
    | whole hnaming => rfl

namespace Backend

theorem Move.configs_eq {backend next : Backend} {operation : Operation} {trace : List Event}
    {outcome : Except Fault Reply} (h : backend.Move operation trace outcome next) :
    next.renderer.configs = backend.renderer.configs ∧
      next.renderer.anySize = backend.renderer.anySize := by
  obtain ⟨shaders, width, height, hrenderer⟩ := h.renderer_eq
  rw [hrenderer]
  exact ⟨rfl, rfl⟩

/-- What a backend does with an operation is a step of the map that it matches. -/
theorem Move.step {backend next : Backend} {operation : Operation} {trace : List Event}
    {outcome : Except Fault Reply} {map : WindowMap}
    (h : backend.Move operation trace outcome next) (hbound : backend.AllBound)
    (hmap : map.Matches backend) :
    ∃ map', map.Step backend.renderer.configs backend.renderer.anySize
      (fun window => (backend.texture? window).map WindowTexture.texture) operation trace outcome
      map' ∧ map'.Matches next := by
  cases h with
  | @prepared window clearing creation cleared texture hclear hcreate =>
    obtain ⟨config, hconfig, hentry⟩ := hcreate.entry_eq
    have hnext := (hmap.cleared hclear).withTexture window.id texture
    rw [hentry] at hnext
    exact ⟨_, .prepared hconfig, hnext⟩
  | refused hclear hcreate => exact ⟨_, .refused, hmap.cleared hclear⟩
  | @unknown _ window hshown habsent =>
    have hlookup : map.entries.lookup window = none := by
      rw [hmap.lookup, habsent, Option.map_none]
    exact ⟨_, .unknown hshown hlookup, hmap⟩
  | rendered htexture hbridge hdrain => exact ⟨_, .rendered (hmap.mem_of_texture? htexture), hmap⟩
  | unbound htexture hbridge =>
    have hsome := hbound _ _ htexture
    rw [WindowTexture.isBound, hbridge] at hsome
    cases hsome
  | released htexture hdrain =>
    exact ⟨_, .released (hmap.mem_of_texture? htexture), hmap.without _⟩
  | @composed window x y lower clip flipped texture htexture hisBound hplace =>
    rw [← hmap.height] at hplace
    have hname : (backend.texture? window).map WindowTexture.texture = some texture.texture := by
      rw [htexture, Option.map_some]
    exact ⟨_, .composed (hmap.lookup_of_texture? htexture) hname hplace, hmap⟩
  | overflowed htexture hisBound hplace =>
    rw [← hmap.height] at hplace
    exact ⟨_, .overflowed (hmap.lookup_of_texture? htexture) hplace, hmap⟩
  | skipped htexture hreleased =>
    rw [hbound _ _ htexture] at hreleased
    cases hreleased
  | presented => exact ⟨_, .presented, hmap⟩
  | untracked hswap => exact ⟨_, .aged, hmap⟩
  | tracked hswap => exact ⟨_, .aged, hmap⟩
  | resized => exact ⟨_, .resized, hmap.lookup, hmap.card, rfl, rfl⟩
  | kept => exact ⟨_, .kept, hmap.lookup, hmap.card, hmap.width, hmap.height⟩

end Backend

theorem Renderer.BroughtUp.screen_eq {screen : Screen} {settings : GlxSettings}
    {trace : List Event} {renderer : Renderer}
    (h : BroughtUp screen settings trace (.ok (.ok renderer))) : renderer.screen = screen := by
  cases h with
  | ready hacquire hattach =>
    cases hattach with
    | ready hequip hselect hdrain => rfl

namespace Session

variable {driver : Driver σ} {state : σ} {screen : Screen} {settings : Settings}
  {session : Session σ}

/-- The turns of a session so far are steps of the map, from one without windows. -/
structure Explained (configs : DepthTable) (anySize : Bool) (screen : Screen)
    (session : Session σ) : Prop where
  bound : session.backend.AllBound
  configs_eq : session.backend.renderer.configs = configs
  anySize_eq : session.backend.renderer.anySize = anySize
  steps : ∃ map : WindowMap, WindowMap.Explains configs anySize ⟨∅, screen.width, screen.height⟩
    session.turns map ∧ map.Matches session.backend

theorem explained_of_start? (h : start? driver state screen settings = some session) :
    session.Explained session.backend.renderer.configs session.backend.renderer.anySize screen := by
  have hbound := (balanced_of_start? h).2
  refine ⟨hbound, rfl, rfl, ?_⟩
  obtain ⟨opening, turns, backend, final⟩ := session
  obtain ⟨rfl, hinit⟩ := start?_eq_some h
  refine ⟨_, .nil, ?_⟩
  cases hinit with
  | opened hbringUp =>
    have hscreen := hbringUp.screen_eq
    have hlookup (window : XId) : (∅ : Finmap fun _ : XId => WindowEntry).lookup window =
        ((∅ : Std.TreeMap XId WindowTexture)[window]?).map WindowTexture.entry := by
      rw [Std.TreeMap.getElem?_emptyc, Option.map_none]
      exact Finmap.lookup_empty window
    refine ⟨hlookup, WindowMap.keys_card_eq hlookup, ?_, ?_⟩
    · rw [hscreen]
    · rw [hscreen]

theorem Explained.extend {configs : DepthTable} {anySize : Bool} {turn : Turn}
    (h : session.Explained configs anySize screen) (hbefore : turn.before = session.backend)
    (hmoves : turn.Moves) (final : σ) :
    (session.extend turn final).Explained configs anySize screen := by
  obtain ⟨hbound, hconfigs, hsize, map, hsteps, hmap⟩ := h
  rw [← hbefore] at hbound hconfigs hsize hmap
  obtain ⟨next, hstep, hnext⟩ := hmoves.step hbound hmap
  obtain ⟨hconfigs', hsize'⟩ := hmoves.configs_eq
  rw [hconfigs, hsize] at hstep
  exact ⟨hmoves.allBound hbound, hconfigs'.trans hconfigs, hsize'.trans hsize, next,
    .snoc hsteps hmap hstep hnext, hnext⟩

/-- Whatever the surroundings answer, and whatever is asked of it, a backend acts as the map does:
it starts without windows, and its textures are the map's entries all along. -/
theorem play_explained (h : start? driver state screen settings = some session)
    (operations : List Operation) :
    let played := session.play driver operations
    played.turns.map Turn.operation = operations ∧
      ∃ map : WindowMap,
        WindowMap.Explains session.backend.renderer.configs session.backend.renderer.anySize
          ⟨∅, screen.width, screen.height⟩ played.turns map ∧
        map.Matches played.backend := by
  have hplayed : (session.play driver operations).Explained session.backend.renderer.configs
      session.backend.renderer.anySize screen :=
    play_induction (explained_of_start? h)
      (fun _ _ final h hbefore hmoves => h.extend hbefore hmoves final) operations
  constructor
  · rw [operations_play, (start?_eq_some h).1]
    rfl
  · exact hplayed.steps

theorem play_explained_granting :
    ∃ session, start? (.granting true) () .ofDepth24 {} = some session ∧
      let operations : List Operation :=
        [.prepare { id := 7, depth := 24, width := 10, height := 20 }, .resize 800 600,
          .compose 7 5 30 ⟨[⟨0, 0, 10, 20⟩]⟩,
          .prepare { id := 7, depth := 99, width := 1, height := 1 },
          .render 7, .compose 7 0 0 ⟨[]⟩, .present, .bufferAge, .release 7]
      let played := session.play (.granting true) operations
      played.turns.map Turn.operation = operations ∧
        ∃ map : WindowMap,
          WindowMap.Explains session.backend.renderer.configs session.backend.renderer.anySize
            ⟨∅, 640, 480⟩ played.turns map ∧
          map.Matches played.backend := by
  obtain ⟨session, hsession⟩ : ∃ session, start? (.granting true) () .ofDepth24 {} = some session :=
    Option.isSome_iff_exists.1 (by decide +kernel)
  exact ⟨session, hsession, play_explained hsession _⟩

end Session
end Compositor
