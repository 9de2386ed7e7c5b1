import Mathlib.Data.List.Induction
import Compositor.Proofs.Conservation

namespace Compositor

/-- A turn that gives a window its texture. -/
structure Turn.Grants (turn : Turn) (window : XId) (texture : WindowTexture) : Prop where
  asked : ∃ wanted : Window, wanted.id = window ∧ turn.operation = .prepare wanted
  succeeds : turn.outcome = .ok (.window (.ok ()))
  after : turn.after.texture? window = some texture

/-- Turns that follow one another, from one backend to another. -/
def Chained (start : Backend) : List Turn → Backend → Prop
  | [], finish => start = finish
  | turn :: rest, finish => turn.before = start ∧ turn.Moves ∧ Chained turn.after rest finish

/-- A window had its texture from one of the turns, and no later one has taken it away. -/
def HeldSince (turns : List Turn) (window : XId) (texture : WindowTexture) : Prop :=
  ∃ before birth during, turns = before ++ birth :: during ∧ birth.Grants window texture ∧
    ∀ turn ∈ during, turn.operation.vacated? ≠ some window

variable {start middle finish : Backend} {turns first rest : List Turn} {turn : Turn}
  {window : XId} {texture : WindowTexture}

theorem chained_append :
    Chained start (first ++ rest) finish ↔
      ∃ middle, Chained start first middle ∧ Chained middle rest finish := by
  induction first generalizing start with
  | nil =>
    constructor
    · intro h
      exact ⟨start, rfl, h⟩
    · intro h
      obtain ⟨middle, rfl, hrest⟩ := h
      exact hrest
  | cons turn first ih =>
    constructor
    · intro h
      obtain ⟨hbefore, hmoves, hlater⟩ := h
      obtain ⟨middle, hfirst, hrest⟩ := ih.1 hlater
      exact ⟨middle, ⟨hbefore, hmoves, hfirst⟩, hrest⟩
    · intro h
      obtain ⟨middle, ⟨hbefore, hmoves, hfirst⟩, hrest⟩ := h
      exact ⟨hbefore, hmoves, ih.2 ⟨middle, hfirst, hrest⟩⟩

theorem Chained.snoc (h : Chained start turns turn.before) (hmoves : turn.Moves) :
    Chained start (turns ++ [turn]) turn.after :=
  chained_append.2 ⟨_, h, rfl, hmoves, rfl⟩

theorem Chained.before (h : Chained start (first ++ turn :: rest) finish) :
    Chained start first turn.before := by
  obtain ⟨middle, hfirst, hbefore, -, -⟩ := chained_append.1 h
  rwa [hbefore]

theorem Chained.moves (h : Chained start (first ++ turn :: rest) finish) : turn.Moves := by
  obtain ⟨middle, -, -, hmoves, -⟩ := chained_append.1 h
  exact hmoves

theorem Chained.induction {motive : Backend → Prop} (h : Chained start turns finish)
    (hstart : motive start)
    (hturn : ∀ turn ∈ turns, turn.Moves → motive turn.before → motive turn.after) :
    motive finish := by
  induction turns generalizing start with
  | nil =>
    cases h
    exact hstart
  | cons turn turns ih =>
    obtain ⟨rfl, hmoves, hrest⟩ := h
    have hafter := hturn turn List.mem_cons_self hmoves hstart
    exact ih hrest hafter fun other hother => hturn other (List.mem_cons_of_mem turn hother)

namespace Backend

theorem Cleared.texture?_eq {backend cleared : Backend} {window other : XId} {trace : List Event}
    (h : backend.Cleared window trace cleared) (hother : window ≠ other) :
    cleared.texture? other = backend.texture? other := by
  cases h with
  | absent habsent => rfl
  | stale htexture hdrain => rw [texture?_without, if_neg hother]

/-- A window keeps what it has, unless it is prepared or released. -/
theorem Move.texture?_eq {backend next : Backend} {operation : Operation} {trace : List Event}
    {outcome : Except Fault Reply} (h : backend.Move operation trace outcome next)
    (hkept : operation.vacated? ≠ some window) :
    next.texture? window = backend.texture? window := by
  cases h with
  | @prepared wanted clearing creation cleared texture hclear hcreate =>
    have hother : wanted.id ≠ window := fun he => hkept (congrArg some he)
    rw [texture?_withTexture, if_neg hother]
    exact hclear.texture?_eq hother
  | @refused wanted clearing creation cleared cause hclear hcreate =>
    have hother : wanted.id ≠ window := fun he => hkept (congrArg some he)
    exact hclear.texture?_eq hother
  | @released released texture drain htexture hdrain =>
    have hother : released ≠ window := fun he => hkept (congrArg some he)
    rw [texture?_without, if_neg hother]
  | _ => rfl

end Backend

theorem Turn.Moves.grants (h : turn.Moves)
    (hvacated : turn.operation.vacated? = some window)
    (hafter : turn.after.texture? window = some texture) : turn.Grants window texture := by
  obtain ⟨backend, operation, trace, outcome, next⟩ := turn
  change backend.Move operation trace outcome next at h
  cases h with
  | @prepared wanted clearing creation cleared texture hclear hcreate =>
    cases hvacated
    exact ⟨⟨wanted, rfl, rfl⟩, rfl, hafter⟩
  | @refused wanted clearing creation cleared cause hclear hcreate =>
    cases hvacated
    rw [hclear.texture?_eq_none] at hafter
    cases hafter
  | @released released texture drain htexture hdrain =>
    cases hvacated
    rw [Backend.texture?_without, if_pos rfl] at hafter
    cases hafter
  | @unknown operation absent hshown habsent =>
    cases operation with
    | release released =>
      cases hvacated
      cases hshown
      rw [habsent] at hafter
      cases hafter
    | prepare wanted => cases hshown
    | _ => cases hvacated
  | _ => cases hvacated

/-- As long as a window is neither prepared nor released, it has the same texture. -/
theorem Chained.texture?_eq (h : Chained start turns finish)
    (hkept : ∀ turn ∈ turns, turn.operation.vacated? ≠ some window) :
    finish.texture? window = start.texture? window := by
  apply h.induction (motive := fun backend => backend.texture? window = start.texture? window) rfl
  intro turn hturn hmoves hbefore
  rw [← hbefore]
  exact hmoves.texture?_eq (hkept turn hturn)

theorem Chained.texture?_of_mem (h : Chained start turns finish)
    (hkept : ∀ turn ∈ turns, turn.operation.vacated? ≠ some window) :
    ∀ turn ∈ turns, turn.before.texture? window = start.texture? window ∧
      turn.after.texture? window = start.texture? window := by
  intro turn hturn
  obtain ⟨first, rest, rfl⟩ := List.append_of_mem hturn
  obtain ⟨middle, hfirst, hbefore, hmoves, hrest⟩ := chained_append.1 h
  have hmiddle := hfirst.texture?_eq fun other hother => hkept other (List.mem_append_left _ hother)
  rw [hmoves.texture?_eq (hkept turn hturn), hbefore]
  exact ⟨hmiddle, hmiddle⟩

theorem Chained.all_tends (h : Chained start turns finish) :
    (turns.flatMap Turn.trace).all Event.tends = true := by
  induction turns generalizing start with
  | nil => rfl
  | cons turn turns ih =>
    obtain ⟨-, hmoves, hrest⟩ := h
    rw [List.flatMap_cons]
    exact all_append_of (Backend.Move.all_tends hmoves) (ih hrest)

theorem HeldSince.snoc (h : HeldSince turns window texture)
    (hkept : turn.operation.vacated? ≠ some window) :
    HeldSince (turns ++ [turn]) window texture := by
  obtain ⟨before, birth, during, rfl, hgrants, hduring⟩ := h
  refine ⟨before, birth, during ++ [turn], by simp, hgrants, ?_⟩
  intro other hother
  rcases List.mem_append.1 hother with hother | hother
  · exact hduring other hother
  · rw [List.mem_singleton.1 hother]
    exact hkept

/-- Whatever a window has, it was given by one of the turns, and has been kept since. -/
theorem Chained.heldSince (h : Chained start turns finish)
    (hstart : start.texture? window = none) (hfinish : finish.texture? window = some texture) :
    HeldSince turns window texture := by
  induction turns using List.reverseRecOn generalizing finish with
  | nil =>
    cases h
    rw [hstart] at hfinish
    cases hfinish
  | append_singleton turns turn ih =>
    obtain ⟨middle, hturns, rfl, hmoves, rfl⟩ := chained_append.1 h
    by_cases hvacated : turn.operation.vacated? = some window
    · exact ⟨turns, turn, [], rfl, hmoves.grants hvacated hfinish, by simp⟩
    · rw [hmoves.texture?_eq hvacated] at hfinish
      exact (ih hturns hfinish).snoc hvacated

theorem HeldSince.texture?_eq (h : HeldSince turns window texture)
    (hchained : Chained start turns finish) : finish.texture? window = some texture := by
  obtain ⟨before, birth, during, rfl, hgrants, hduring⟩ := h
  obtain ⟨given, -, -, -, hkept⟩ := chained_append.1 hchained
  exact (hkept.texture?_eq hduring).trans hgrants.after

namespace Session

variable {driver : Driver σ} {state : σ} {screen : Screen} {settings : Settings}
  {session : Session σ}

theorem chained_play (h : start? driver state screen settings = some session)
    (operations : List Operation) :
    Chained session.backend (session.play driver operations).turns
      (session.play driver operations).backend := by
  have hstart : Chained session.backend session.turns session.backend := by
    rw [(start?_eq_some h).1]
    rfl
  apply play_induction (motive := fun other => Chained session.backend other.turns other.backend)
    hstart
  intro other turn final hchained hbefore hmoves
  rw [← hbefore] at hchained
  exact hchained.snoc hmoves

theorem texture?_of_start? (h : start? driver state screen settings = some session)
    (window : XId) : session.backend.texture? window = none := by
  obtain ⟨opening, turns, backend, final⟩ := session
  obtain ⟨rfl, hinit⟩ := start?_eq_some h
  cases hinit with
  | opened hbringUp => exact Std.TreeMap.getElem?_emptyc

end Session
end Compositor
