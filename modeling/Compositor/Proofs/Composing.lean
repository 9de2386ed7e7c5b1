import Compositor.Proofs.Enumeration
import Compositor.Proofs.Readiness

namespace Compositor

/-- A turn draws one quad, at a place given in exact integers. Contents whose rows already run
upwards are drawn at the place and in the region that were asked for. -/
inductive Turn.DrawsOnce (turn : Turn) (t : WindowTexture) (x y : Int32) (clip : Region)
    (surface : Int) : Prop
  | upright (hinverted : t.yInverted = true)
    (htrace : turn.trace = [.call (.paint (.drawQuad (t.quad x y) clip)) ()])
  | turned {lower : Int32} {flipped : Region} (hinverted : t.yInverted = false)
    (hlower : lower.toInt = surface - y.toInt - t.height.toInt32.toInt)
    (hclip : clip.Flipped surface flipped)
    (htrace : turn.trace = [.call (.paint (.drawQuad (t.quad x lower) flipped)) ()])

namespace Session

/-- Two sessions go on alike, whatever is done with both of them and however they end. -/
structure GoesOnAs (driver : Driver σ) (first second : Session σ) : Prop where
  backend : first.backend = second.backend
  state : first.state = second.state
  later : ∀ operations, ∃ turns,
    (first.play driver operations).turns = first.turns ++ turns ∧
    (second.play driver operations).turns = second.turns ++ turns
  ending : ∀ operations order ending,
    (first.play driver operations).finish driver order ending =
      (second.play driver operations).finish driver order ending

end Session

variable {turn : Turn} {window : XId} {t : WindowTexture} {x y : Int32} {clip : Region}

/-- Screens and windows of common sizes leave room for any place that is not far out. -/
theorem Flip.not_overflows {height target : UInt32} (htarget : target.toNat ≤ 65535)
    (hheight : height.toNat ≤ 65535) (hy : y.toInt.natAbs ≤ 2 ^ 30)
    (hclip : ∀ r ∈ clip.rects, r.y1.toInt.natAbs ≤ 2 ^ 30 ∧ r.y2.toInt.natAbs ≤ 2 ^ 30) :
    ¬ Overflows y height clip target := by
  simp only [Overflows, Arithmetic.toInt_toInt32 (htarget.trans (by decide)),
    Arithmetic.toInt_toInt32 (hheight.trans (by decide)), Arithmetic.Fits]
  rintro (hfirst | hsecond | ⟨r, hr, hbox⟩)
  · omega
  · omega
  · have hrows := hclip r hr
    omega

theorem Turn.Moves.after_eq_of_error (h : turn.Moves) {e : Fault} (he : turn.outcome = .error e) :
    turn.after = turn.before := by
  obtain ⟨backend, operation, trace, outcome, next⟩ := turn
  change backend.Move operation trace outcome next at h
  cases h with
  | unbound htexture hbridge => rfl
  | overflowed htexture hbound hplace => rfl
  | _ => cases he

namespace Turn.Paints

theorem eq_error_iff (h : turn.Paints t x y clip) :
    turn.outcome = .error .subOverflow ↔ t.yInverted = false ∧
      Flip.Overflows y t.height clip turn.before.renderer.screen.height := by
  have hplaced : Flip.place y t.height clip turn.before.renderer.screen.height t.yInverted =
      .error .subOverflow ↔ t.yInverted = false ∧ _ :=
    Flip.place_eq_error_iff.trans (and_iff_right rfl)
  rw [← hplaced]
  cases h with
  | drawn hplace hends htrace =>
    rw [hplace, hends]
    exact ⟨nofun, nofun⟩
  | overflowed hplace hfaults htrace => exact ⟨fun _ => hplace, fun _ => hfaults⟩

theorem of_error (h : turn.Paints t x y clip) {e : Fault} (he : turn.outcome = .error e) :
    e = .subOverflow ∧ turn.trace = [] := by
  cases h with
  | drawn hplace hends htrace => cases hends.symm.trans he
  | overflowed hplace hfaults htrace =>
    cases hfaults.symm.trans he
    exact ⟨rfl, htrace⟩

theorem of_ok (h : turn.Paints t x y clip) {reply : Reply} (hreply : turn.outcome = .ok reply) :
    turn.outcome = .ok (.window (.ok ())) ∧
      turn.DrawsOnce t x y clip turn.before.renderer.screen.height.toInt32.toInt := by
  cases h with
  | @drawn lower flipped hplace hends htrace =>
    refine ⟨hends, ?_⟩
    cases hinverted : t.yInverted with
    | true =>
      rw [hinverted, Flip.place_true_eq_ok_iff] at hplace
      obtain ⟨rfl, rfl⟩ := hplace
      exact .upright hinverted htrace
    | false =>
      rw [hinverted, Flip.place_false_eq_ok_iff] at hplace
      obtain ⟨-, hlower, hclip⟩ := hplace
      exact .turned hinverted hlower hclip htrace
  | overflowed hplace hfaults htrace => cases hfaults.symm.trans hreply

end Turn.Paints

/-- A run that asks for nothing leaves the surroundings as they are. -/
theorem Program.state_run_of_trace_eq_nil {p : Program α} {driver : Driver σ} {state : σ}
    (h : (p.run driver state).trace = []) : (p.run driver state).state = state := by
  cases p with
  | done value => rfl
  | fault e => rfl
  | call request next => cases h
  | note notice next => cases h

namespace Session

variable {driver : Driver σ} {state : σ} {screen : Screen} {settings : Settings}
  {session first second : Session σ} {operation : Operation}

theorem perform_congr (driver : Driver σ) (hbackend : first.backend = second.backend)
    (hstate : first.state = second.state) (operation : Operation) :
    ∃ turn state, first.perform driver operation = first.extend turn state ∧
      second.perform driver operation = second.extend turn state := by
  obtain ⟨opening, turns, backend, state⟩ := first
  obtain ⟨opening', turns', backend', state'⟩ := second
  cases hbackend
  cases hstate
  exact ⟨_, _, rfl, rfl⟩

theorem play_congr (driver : Driver σ) (hbackend : first.backend = second.backend)
    (hstate : first.state = second.state) (operations : List Operation) :
    (∃ turns, (first.play driver operations).turns = first.turns ++ turns ∧
      (second.play driver operations).turns = second.turns ++ turns) ∧
    (first.play driver operations).backend = (second.play driver operations).backend ∧
    (first.play driver operations).state = (second.play driver operations).state := by
  induction operations generalizing first second with
  | nil =>
    exact ⟨⟨[], (List.append_nil _).symm, (List.append_nil _).symm⟩, hbackend, hstate⟩
  | cons operation operations ih =>
    obtain ⟨turn, state, hfirst, hsecond⟩ := perform_congr driver hbackend hstate operation
    have hplay (session : Session σ) : session.play driver (operation :: operations) =
        (session.perform driver operation).play driver operations := rfl
    rw [hplay, hplay, hfirst, hsecond]
    obtain ⟨⟨turns, hfirst, hsecond⟩, hrest⟩ :=
      @ih (first.extend turn state) (second.extend turn state) rfl rfl
    refine ⟨⟨turn :: turns, ?_, ?_⟩, hrest⟩
    · exact hfirst.trans (List.append_assoc ..)
    · exact hsecond.trans (List.append_assoc ..)

theorem goesOnAs_of_eq (driver : Driver σ) (hbackend : first.backend = second.backend)
    (hstate : first.state = second.state) : GoesOnAs driver first second := by
  constructor
  case backend => exact hbackend
  case state => exact hstate
  case later => exact fun operations => (play_congr driver hbackend hstate operations).1
  case ending =>
    intro operations order ending
    obtain ⟨-, hbackend, hstate⟩ := play_congr driver hbackend hstate operations
    rw [finish, finish, hbackend, hstate]

/-- Wherever a backend has got to, painting a window that has its texture overflows exactly where
one of the differences that its place takes does not fit. Nothing was asked for then, and the
session goes on as the one before. Else one quad is drawn. -/
theorem composes_play (h : start? driver state screen settings = some session)
    (operations : List Operation)
    (htexture : (session.play driver operations).backend.texture? window = some t)
    (x y : Int32) (clip : Region) :
    let played := session.play driver operations
    let composed := played.perform driver (.compose window x y clip)
    let target := played.backend.renderer.screen.height
    ∃ turn, composed.turns = played.turns ++ [turn] ∧ turn.operation = .compose window x y clip ∧
      (turn.outcome = .error .subOverflow ↔
        t.yInverted = false ∧ Flip.Overflows y t.height clip target) ∧
      (∀ e, turn.outcome = .error e →
        e = .subOverflow ∧ turn.trace = [] ∧ GoesOnAs driver composed played) ∧
      (∀ reply, turn.outcome = .ok reply →
        reply = .window (.ok ()) ∧ turn.DrawsOnce t x y clip target.toInt32.toInt) ∧
      (target.toNat ≤ 65535 → t.height.toNat ≤ 65535 → y.toInt.natAbs ≤ 2 ^ 30 →
        (∀ r ∈ clip.rects, r.y1.toInt.natAbs ≤ 2 ^ 30 ∧ r.y2.toInt.natAbs ≤ 2 ^ 30) →
        turn.outcome = .ok (.window (.ok ()))) := by
  intro played composed target
  have hchained : Chained session.backend played.turns played.backend := chained_play h operations
  have hbound : played.backend.AllBound := hchained.allBound (balanced_of_start? h).2
  obtain ⟨turn, hperform, htrace, hbefore, hoperation, hmoves⟩ :=
    played.exists_turn_perform driver (.compose window x y clip)
  rw [← hbefore] at hbound htexture
  have hpaints : turn.Paints t x y clip := hmoves.paints hbound hoperation htexture
  have hoverflows := hpaints.eq_error_iff
  rw [hbefore] at hoverflows
  refine ⟨turn, congrArg turns hperform, hoperation, hoverflows, ?_, ?_, ?_⟩
  · intro e he
    obtain ⟨hcause, hsilent⟩ := hpaints.of_error he
    have hbackend : composed.backend = played.backend := by
      rw [← hbefore, ← hmoves.after_eq_of_error he]
      exact congrArg Session.backend hperform
    have hstate : composed.state = played.state := by
      rw [← Program.state_run_of_trace_eq_nil (htrace.symm.trans hsilent)]
      exact congrArg Session.state hperform
    exact ⟨hcause, hsilent, goesOnAs_of_eq driver hbackend hstate⟩
  · intro reply hreply
    obtain ⟨hends, hdraws⟩ := hpaints.of_ok hreply
    cases hends.symm.trans hreply
    rw [hbefore] at hdraws
    exact ⟨rfl, hdraws⟩
  · intro htarget hheight hy hclip
    cases houtcome : turn.outcome with
    | ok reply => exact houtcome.symm.trans (hpaints.of_ok houtcome).1
    | error e =>
      cases (hpaints.of_error houtcome).1
      exact absurd (hoverflows.1 houtcome).2 (Flip.not_overflows htarget hheight hy hclip)

/-- Far above the screen, a window whose rows run downwards cannot be placed. -/
theorem composes_play_listing :
    let c : Catalogue := {
      value := fun _ name =>
        match name with
        | .samples | .alphaSize => some 0
        | .bufferSize => some 24
        | .redSize => some 8
        | .yInverted => none
        | _ => some 1
      visualDepth := fun _ => some 24 }
    let driver := (Driver.granting true).listing c [⟨0⟩]
    let operations : List Operation :=
      [.prepare { id := 7, depth := 24, width := 10, height := 20 }, .resize 800 600]
    ∃ session t, start? driver () .ofDepth24 {} = some session ∧
      (session.play driver operations).backend.texture? 7 = some t ∧
      let played := session.play driver operations
      let composed := played.perform driver (.compose 7 5 (-2147483648) ⟨[]⟩)
      ∃ turn, composed.turns = played.turns ++ [turn] ∧ turn.outcome = .error .subOverflow ∧
        GoesOnAs driver composed played := by
  intro c driver operations
  have hrun : ((start? driver () .ofDepth24 {}).any fun session =>
      let backend := (session.play driver operations).backend
      backend.renderer.screen.height = 600 && (backend.texture? 7).any (!·.yInverted)) = true := by
    decide +kernel
  obtain ⟨session, hsession, hrun⟩ := (Option.any_eq_true _ _).1 hrun
  obtain ⟨hheight, htexture⟩ := Bool.and_eq_true_iff.1 hrun
  obtain ⟨t, htexture, hinverted⟩ := (Option.any_eq_true _ _).1 htexture
  refine ⟨session, t, hsession, htexture, ?_⟩
  obtain ⟨turn, hturns, -, hoverflows, hfaults, -⟩ :=
    composes_play hsession operations htexture 5 (-2147483648) ⟨[]⟩
  rw [of_decide_eq_true hheight] at hoverflows
  have hfault := hoverflows.2 ⟨by simpa using hinverted, .inl (by decide)⟩
  exact ⟨turn, hturns, hfault, (hfaults _ hfault).2.2⟩

end Session
end Compositor
