import Compositor.Proofs.Placement
import Compositor.Proofs.Teardown
import Compositor.Proofs.Texturing

namespace Compositor

/-- Pixmap, bridge and texture are all there. -/
def WindowTexture.IsWhole (t : WindowTexture) : Prop :=
  ∃ pixmap bridge texture, t.holdings = ⟨some pixmap, some bridge, some texture⟩

/-- A turn paints a texture with one quad, or stops before it where a coordinate overflows. -/
inductive Turn.Paints (turn : Turn) (t : WindowTexture) (x y : Int32) (clip : Region) : Prop
  | drawn {lower : Int32} {flipped : Region}
    (hplace : Flip.place y t.height clip turn.before.renderer.screen.height t.yInverted =
      .ok (lower, flipped))
    (hends : turn.outcome = .ok (.window (.ok ())))
    (htrace : turn.trace = [.call (.paint (.drawQuad (t.quad x lower) flipped)) ()])
  | overflowed
    (hplace : Flip.place y t.height clip turn.before.renderer.screen.height t.yInverted =
      .error .subOverflow)
    (hfaults : turn.outcome = .error .subOverflow) (htrace : turn.trace = [])

/-- The textures that a turn finds are whole: it refreshes the one that it is to render, paints the
one that it is to paint, and no fault but an overflow stops it. -/
structure Turn.FindsWhole (turn : Turn) (bind : EntryPoint) : Prop where
  whole : ∀ window t, turn.before.texture? window = some t → t.IsWhole
  renders : ∀ window t, turn.operation = .render window → turn.before.texture? window = some t →
    turn.outcome = .ok (.window (.ok ())) ∧ ∃ bridge drain, t.bridge = some bridge ∧
      Gl.Emptied "bind pixmap" drain ∧ turn.trace = t.refreshEvents bind bridge drain
  paints : ∀ window x y clip t, turn.operation = .compose window x y clip →
    turn.before.texture? window = some t → turn.Paints t x y clip
  faults : ∀ e, turn.outcome = .error e → e = .subOverflow

/-- What a window has is what a turn gave to it, and is all there and the same until a turn prepares
or releases the window again. -/
structure Steady (turns : List Turn) (backend : Backend) : Prop where
  found : ∀ earlier turn later, turns = earlier ++ turn :: later →
    ∀ window t, turn.before.texture? window = some t → HeldSince earlier window t
  left : ∀ window t, backend.texture? window = some t → t.IsWhole ∧ HeldSince turns window t
  kept : ∀ before birth during rest window t, turns = before ++ birth :: (during ++ rest) →
    birth.Grants window t → (∀ turn ∈ during, turn.operation.vacated? ≠ some window) →
    ∀ turn ∈ during, turn.before.texture? window = some t ∧ turn.after.texture? window = some t

variable {turn : Turn} {window : XId} {t : WindowTexture} {x y : Int32} {clip : Region}
  {start finish : Backend} {turns : List Turn}

theorem WindowTexture.isWhole_of_isBound (h : t.isBound = true) : t.IsWhole := by
  obtain ⟨bridge, hbridge⟩ := Option.isSome_iff_exists.1 h
  refine ⟨t.pixmap, bridge, t.texture, ?_⟩
  rw [holdings, hbridge]

theorem Turn.Moves.renders (h : turn.Moves) (hbound : turn.before.AllBound)
    (hasked : turn.operation = .render window) (htexture : turn.before.texture? window = some t) :
    turn.outcome = .ok (.window (.ok ())) ∧ ∃ bridge drain, t.bridge = some bridge ∧
      Gl.Emptied "bind pixmap" drain ∧
      turn.trace = t.refreshEvents turn.before.renderer.texImage.bind bridge drain := by
  obtain ⟨backend, operation, trace, outcome, next⟩ := turn
  change backend.Move operation trace outcome next at h
  cases hasked
  cases h with
  | unknown hshown habsent =>
    cases hshown
    rw [htexture] at habsent
    cases habsent
  | rendered hfound hbridge hdrain =>
    rw [htexture] at hfound
    cases hfound
    exact ⟨rfl, _, _, hbridge, hdrain, rfl⟩
  | unbound hfound hbridge =>
    have hsome := hbound _ _ hfound
    rw [WindowTexture.isBound, hbridge] at hsome
    cases hsome

theorem Turn.Moves.paints (h : turn.Moves) (hbound : turn.before.AllBound)
    (hasked : turn.operation = .compose window x y clip)
    (htexture : turn.before.texture? window = some t) : turn.Paints t x y clip := by
  obtain ⟨backend, operation, trace, outcome, next⟩ := turn
  change backend.Move operation trace outcome next at h
  cases hasked
  cases h with
  | unknown hshown habsent =>
    cases hshown
    rw [htexture] at habsent
    cases habsent
  | composed hfound hisBound hplace =>
    rw [htexture] at hfound
    cases hfound
    exact .drawn hplace rfl rfl
  | overflowed hfound hisBound hplace =>
    rw [htexture] at hfound
    cases hfound
    cases Flip.place_eq_error hplace
    exact .overflowed hplace rfl rfl
  | skipped hfound hreleased =>
    rw [hbound _ _ hfound] at hreleased
    cases hreleased

/-- Only an overflow ends an operation before its time, as long as every texture has its bridge. -/
theorem Turn.Moves.faults (h : turn.Moves) (hbound : turn.before.AllBound) {e : Fault}
    (he : turn.outcome = .error e) : e = .subOverflow := by
  obtain ⟨backend, operation, trace, outcome, next⟩ := turn
  change backend.Move operation trace outcome next at h
  cases h with
  | unbound hfound hbridge =>
    have hsome := hbound _ _ hfound
    rw [WindowTexture.isBound, hbridge] at hsome
    cases hsome
  | overflowed hfound hisBound hplace =>
    cases he
    exact Flip.place_eq_error hplace
  | _ => cases he

theorem Turn.Moves.findsWhole (h : turn.Moves) (hbound : turn.before.AllBound) :
    turn.FindsWhole turn.before.renderer.texImage.bind := by
  constructor
  case whole =>
    intro window t htexture
    exact WindowTexture.isWhole_of_isBound (hbound window t htexture)
  case renders => exact fun _ _ hasked htexture => h.renders hbound hasked htexture
  case paints => exact fun _ _ _ _ _ hasked htexture => h.paints hbound hasked htexture
  case faults => exact fun _ he => h.faults hbound he

/-- Turns leave every window what it was given last, if there was nothing to begin with. -/
theorem Chained.steady (h : Chained start turns finish)
    (hempty : ∀ window, start.texture? window = none) (hbound : finish.AllBound) :
    Steady turns finish := by
  constructor
  case found =>
    intro earlier turn later hturns window t htexture
    subst hturns
    exact h.before.heldSince (hempty window) htexture
  case left =>
    intro window t htexture
    exact ⟨WindowTexture.isWhole_of_isBound (hbound window t htexture),
      h.heldSince (hempty window) htexture⟩
  case kept =>
    intro before birth during rest window t hturns hgrants hduring turn hturn
    subst hturns
    obtain ⟨given, -, -, -, hlater⟩ := chained_append.1 h
    obtain ⟨middle, hkept, -⟩ := chained_append.1 hlater
    obtain ⟨hfound, hleft⟩ := hkept.texture?_of_mem hduring turn hturn
    exact ⟨hfound.trans hgrants.after, hleft.trans hgrants.after⟩

namespace Session

variable {driver : Driver σ} {state : σ} {screen : Screen} {settings : Settings}
  {session : Session σ}

/-- Whatever the operations, every texture of a backend is whole and stays the one that its window
was given last. Rendering a window that has one refreshes it, with the entry point that was looked
up for that and one look at the errors; painting it paints one quad, or overflows; and the end
comes without a fault. -/
theorem ready_play (h : start? driver state screen settings = some session)
    (operations : List Operation) :
    let played := session.play driver operations
    played.turns.map Turn.operation = operations ∧
    (∀ turn ∈ played.turns, turn.FindsWhole session.backend.renderer.texImage.bind) ∧
    Steady played.turns played.backend ∧
    ∀ order ending, (played.finish driver order ending).outcome = .ok () := by
  intro played
  have hchained : Chained session.backend played.turns played.backend := chained_play h operations
  have hbound : session.backend.AllBound := (balanced_of_start? h).2
  refine ⟨operations_play_of_start? h operations, ?_, ?_, ?_⟩
  · intro turn hturn
    obtain ⟨earlier, later, hsplit⟩ := List.append_of_mem hturn
    rw [hsplit] at hchained
    have hready := hchained.moves.findsWhole (hchained.before.allBound hbound)
    rwa [hchained.before.texImage_eq] at hready
  · exact hchained.steady (texture?_of_start? h) (hchained.allBound hbound)
  · exact fun order ending => (finished_finish played order ending).1

theorem ready_play_granting :
    ∃ session, start? (.granting true) () .ofDepth24 {} = some session ∧
      let operations : List Operation :=
        [.prepare { id := 7, depth := 24, width := 10, height := 20 }, .render 7, .resize 800 600,
          .prepare { id := 9, depth := 32, width := 5, height := 5 }, .render 9,
          .prepare { id := 9, depth := 24, width := 5, height := 5 }, .compose 7 5 30 ⟨[]⟩,
          .compose 7 0 (-2147483648) ⟨[]⟩, .release 9, .render 7]
      let played := session.play (.granting true) operations
      played.turns.map Turn.operation = operations ∧
      (∀ turn ∈ played.turns, turn.FindsWhole session.backend.renderer.texImage.bind) ∧
      Steady played.turns played.backend ∧
      ∀ order ending, (played.finish (.granting true) order ending).outcome = .ok () := by
  obtain ⟨session, hsession⟩ : ∃ session, start? (.granting true) () .ofDepth24 {} = some session :=
    Option.isSome_iff_exists.1 (by decide +kernel)
  exact ⟨session, hsession, ready_play hsession _⟩

end Session
end Compositor
