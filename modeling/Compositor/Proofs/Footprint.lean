import Compositor.Proofs.Tenure

namespace Compositor

/-- The window that an operation is about. -/
def Operation.subject? : Operation → Option XId
  | .prepare window => some window.id
  | .render window | .release window | .compose window .. => some window
  | _ => none

/-- An event takes a resource back or makes use of it. -/
def Event.Names (event : Event) (r : Resource) : Prop :=
  event.destroyed? = some r ∨ event.used? = some r

/-- Nothing is handed out that is live at that moment. -/
def Fresh (trace : List Event) : Prop :=
  ∀ before event after, trace = before ++ event :: after →
    ∀ r, event.created? = some r → r ∉ live before

/-- What a window's texture holds. A borrowed pixmap is the window itself, and is not held. -/
def Backend.held (backend : Backend) (window : XId) : Multiset Resource :=
  (backend.texture? window).elim 0 WindowTexture.resources

/-- A turn changes nothing but the texture of one window, and names nothing but what that held or
what was handed out earlier in the turn. -/
structure Turn.KeepsTo (turn : Turn) (window : XId) : Prop where
  others : ∀ other, other ≠ window → turn.after.texture? other = turn.before.texture? other
  renderer : turn.after.renderer = turn.before.renderer
  maxBufferAge : turn.after.maxBufferAge = turn.before.maxBufferAge
  names : ∀ first event rest, turn.trace = first ++ event :: rest → ∀ r, event.Names r →
    r ∈ turn.before.held window ∨ ∃ made ∈ first, made.created? = some r

/-- A turn names nothing that a window other than this one holds. -/
def Turn.SparesOthers (turn : Turn) (window : XId) : Prop :=
  ∀ other, other ≠ window → ∀ r ∈ turn.before.held other, ∀ event ∈ turn.trace, ¬ event.Names r

variable {trace first rest past : List Event} {start finish : Multiset Resource}
  {r : Resource} {window : XId}

namespace Ledger

/-- What is live at the end was live before, or is handed out on the way. -/
theorem mem_or_created (h : ledger.Accepts start trace finish) (hr : r ∈ finish) :
    r ∈ start ∨ ∃ made ∈ trace, made.created? = some r := by
  induction trace generalizing start with
  | nil =>
    cases h
    exact .inl hr
  | cons event trace ih =>
    rcases ih h.2 with hlive | ⟨made, hmade, hcreated⟩
    · cases hcreated : event.created? with
      | some created =>
        simp only [ledger, hcreated] at hlive
        rcases Multiset.mem_cons.1 hlive with rfl | hlive
        · exact .inr ⟨event, List.mem_cons_self, hcreated⟩
        · exact .inl hlive
      | none =>
        cases hdestroyed : event.destroyed? with
        | none =>
          simp only [ledger, hcreated, hdestroyed] at hlive
          exact .inl hlive
        | some destroyed =>
          simp only [ledger, hcreated, hdestroyed] at hlive
          exact .inl (Multiset.mem_of_mem_erase hlive)
    · exact .inr ⟨made, List.mem_cons_of_mem _ hmade, hcreated⟩

/-- What is accepted with some resources live is accepted with more of them, which stay live. -/
theorem frame (h : ledger.Accepts start trace finish) (frame : Multiset Resource) :
    ledger.Accepts (start + frame) trace (finish + frame) := by
  induction trace generalizing start with
  | nil =>
    cases h
    exact Monitor.accepts_nil
  | cons event trace ih =>
    obtain ⟨hallows, hrest⟩ := h
    have hnext : ledger.next (start + frame) event = ledger.next start event + frame := by
      cases hcreated : event.created? with
      | some created => simp only [ledger, hcreated, Multiset.cons_add]
      | none =>
        cases hdestroyed : event.destroyed? with
        | none => simp only [ledger, hcreated, hdestroyed]
        | some destroyed =>
          have hlive : destroyed ∈ start := hallows destroyed (.inl hdestroyed)
          simp only [ledger, hcreated, hdestroyed, Multiset.erase_add_left_pos _ hlive]
    constructor
    · intro r hr
      exact Multiset.mem_add.2 (.inl (hallows r hr))
    · rw [hnext]
      exact ih hrest

end Ledger

theorem Fresh.left (h : Fresh (first ++ rest)) : Fresh first := by
  intro before event after htrace r hcreated
  apply h before event (after ++ rest) _ r hcreated
  rw [htrace, List.append_assoc, List.cons_append]

theorem Fresh.nodup (h : Fresh trace) (hledger : ledger.Accepts 0 trace finish) : finish.Nodup := by
  induction trace using List.reverseRecOn generalizing finish with
  | nil =>
    cases hledger
    exact Multiset.nodup_zero
  | append_singleton trace event ih =>
    obtain ⟨middle, hbefore, -, rfl⟩ := Monitor.accepts_append.1 hledger
    have hmiddle : middle.Nodup := ih h.left hbefore
    cases hcreated : event.created? with
    | some created =>
      have hfresh := h trace event [] rfl created hcreated
      rw [Ledger.live_eq hbefore] at hfresh
      simp only [ledger, hcreated]
      exact Multiset.nodup_cons.2 ⟨hfresh, hmiddle⟩
    | none =>
      cases hdestroyed : event.destroyed? with
      | none =>
        simp only [ledger, hcreated, hdestroyed]
        exact hmiddle
      | some destroyed =>
        simp only [ledger, hcreated, hdestroyed]
        exact hmiddle.erase destroyed

/-- If nothing is ever handed out twice, nothing live is handed out again. -/
theorem fresh_of_nodup (h : (trace.filterMap Event.created?).Nodup) : Fresh trace := by
  intro before event after htrace r hcreated hlive
  rw [htrace, List.filterMap_append, List.filterMap_cons_some hcreated] at h
  have hmade : r ∈ before.filterMap Event.created? :=
    Multiset.mem_coe.1 (Multiset.mem_of_le (Multiset.sub_le_self _ _) hlive)
  exact (List.nodup_append.1 h).2.2 r hmade r List.mem_cons_self rfl

namespace Backend

variable {backend next cleared : Backend} {operation : Operation} {outcome : Except Fault Reply}
  {texture : WindowTexture}

theorem held_of_texture? (h : backend.texture? window = some texture) :
    backend.held window = texture.resources := by
  rw [held, h, Option.elim_some]

theorem held_eq_zero (h : backend.texture? window = none) : backend.held window = 0 := by
  rw [held, h, Option.elim_none]

/-- What is live falls into what a window holds and the rest, where all that others hold is. -/
theorem resources_eq_held_add (backend : Backend) (window : XId) :
    ∃ others, backend.resources = backend.held window + others ∧
      ∀ other, other ≠ window → ∀ r ∈ backend.held other, r ∈ others := by
  cases htexture : backend.texture? window with
  | none =>
    refine ⟨backend.resources, ?_, ?_⟩
    · rw [held_eq_zero htexture, zero_add]
    · intro other hother r hr
      cases hfound : backend.texture? other with
      | none =>
        rw [held_eq_zero hfound] at hr
        exact absurd hr (Multiset.notMem_zero r)
      | some texture =>
        rw [held_of_texture? hfound] at hr
        exact mem_resources_of_texture? hfound hr
  | some texture =>
    refine ⟨(backend.without window).resources, ?_, ?_⟩
    · rw [held_of_texture? htexture, resources_of_texture? htexture]
    · intro other hother r hr
      cases hfound : backend.texture? other with
      | none =>
        rw [held_eq_zero hfound] at hr
        exact absurd hr (Multiset.notMem_zero r)
      | some texture =>
        rw [held_of_texture? hfound] at hr
        have hleft : (backend.without window).texture? other = some texture := by
          rw [texture?_without, if_neg hother.symm, hfound]
        exact mem_resources_of_texture? hleft hr

theorem Cleared.accepts_held (h : backend.Cleared window trace cleared) :
    ledger.Accepts (backend.held window) trace 0 := by
  cases h with
  | absent habsent =>
    rw [held_eq_zero habsent]
    exact Monitor.accepts_nil
  | @stale texture drain htexture hdrain =>
    have hdestroy := texture.destroyEvents_accepts 0 backend.renderer.texImage.release hdrain
    rw [held_of_texture? htexture]
    rw [add_zero] at hdestroy
    exact Ledger.skip ⟨rfl, rfl, rfl⟩ hdestroy

theorem Cleared.maxBufferAge_eq (h : backend.Cleared window trace cleared) :
    cleared.maxBufferAge = backend.maxBufferAge := by
  cases h with
  | absent habsent => rfl
  | stale htexture hdrain => rfl

/-- An operation on a window needs nothing to be live but what the window holds. -/
theorem Move.accepts_held (h : backend.Move operation trace outcome next)
    (hsubject : operation.subject? = some window) :
    ledger.Accepts (backend.held window) trace (next.held window) := by
  cases h with
  | @prepared wanted clearing creation cleared texture hclear hcreate =>
    cases hsubject
    have hgiven :
        (cleared.withTexture wanted.id texture).held wanted.id = texture.resources + 0 := by
      rw [add_zero, held_of_texture?]
      rw [texture?_withTexture, if_pos rfl]
    rw [hgiven]
    exact hclear.accepts_held.append hcreate.accepts
  | @refused wanted clearing creation cleared cause hclear hcreate =>
    cases hsubject
    have hnothing : ledger.Accepts 0 creation (0 + 0) := hcreate.accepts
    rw [held_eq_zero hclear.texture?_eq_none]
    exact hclear.accepts_held.append hnothing
  | unknown hshown habsent => exact Monitor.accepts_nil
  | rendered htexture hbridge hdrain =>
    cases hsubject
    rw [held_of_texture? htexture]
    exact WindowTexture.refreshEvents_accepts _ (WindowTexture.texture_mem_resources _)
      (WindowTexture.bridge_mem_resources hbridge) hdrain
  | unbound htexture hbridge => exact Monitor.accepts_nil
  | @released released texture drain htexture hdrain =>
    cases hsubject
    have hdestroy := texture.destroyEvents_accepts 0 backend.renderer.texImage.release hdrain
    have hleft : (backend.without window).held window = 0 := by
      apply held_eq_zero
      rw [texture?_without, if_pos rfl]
    rw [held_of_texture? htexture, hleft]
    rwa [add_zero] at hdestroy
  | composed htexture hbound hplace =>
    cases hsubject
    rw [held_of_texture? htexture]
    exact Ledger.use rfl rfl rfl (WindowTexture.texture_mem_resources _) Monitor.accepts_nil
  | overflowed htexture hbound hplace => exact Monitor.accepts_nil
  | skipped htexture hbound => exact Ledger.single ⟨rfl, rfl, rfl⟩
  | _ => cases hsubject

theorem Move.unchanged (h : backend.Move operation trace outcome next)
    (hsubject : operation.subject? = some window) :
    next.renderer = backend.renderer ∧ next.maxBufferAge = backend.maxBufferAge := by
  cases h with
  | prepared hclear hcreate => exact ⟨hclear.renderer_eq, hclear.maxBufferAge_eq⟩
  | refused hclear hcreate => exact ⟨hclear.renderer_eq, hclear.maxBufferAge_eq⟩
  | resized => cases hsubject
  | kept => cases hsubject
  | _ => exact ⟨rfl, rfl⟩

end Backend

theorem Operation.subject?_of_vacated? {operation : Operation}
    (h : operation.vacated? = some window) : operation.subject? = some window := by
  cases operation with
  | prepare wanted => exact h
  | release released => exact h
  | _ => cases h

variable {turn : Turn}

theorem Turn.Moves.keepsTo (h : turn.Moves) (hsubject : turn.operation.subject? = some window) :
    turn.KeepsTo window := by
  obtain ⟨hrenderer, hmaxBufferAge⟩ := Backend.Move.unchanged h hsubject
  refine ⟨?_, hrenderer, hmaxBufferAge, ?_⟩
  · intro other hother
    apply Backend.Move.texture?_eq h
    intro hvacated
    rw [Operation.subject?_of_vacated? hvacated] at hsubject
    exact hother (Option.some.inj hsubject)
  · intro first event rest htrace r hnames
    have hheld := Backend.Move.accepts_held h hsubject
    rw [htrace] at hheld
    obtain ⟨middle, hfirst, hallows⟩ := hheld.allows
    exact Ledger.mem_or_created hfirst (hallows r hnames)

/-- What a window other than the one that a turn is about holds is live throughout the turn, apart
from what the turn names. With nothing live twice, the two have nothing in common. -/
theorem Turn.Moves.sparesOthers (h : turn.Moves)
    (hsubject : turn.operation.subject? = some window)
    (hpast : ledger.Accepts 0 past turn.before.resources) (hfresh : Fresh (past ++ turn.trace)) :
    turn.SparesOthers window := by
  intro other hother r hr event hevent hnames
  obtain ⟨others, hsplit, hothers⟩ := turn.before.resources_eq_held_add window
  obtain ⟨first, rest, htrace⟩ := List.append_of_mem hevent
  have hheld := Backend.Move.accepts_held h hsubject
  rw [htrace] at hheld hfresh
  obtain ⟨middle, hfirst, hallows⟩ := hheld.allows
  rw [hsplit] at hpast
  rw [← List.append_assoc] at hfresh
  have hnodup : (middle + others).Nodup :=
    hfresh.left.nodup (hpast.append (Ledger.frame hfirst others))
  have hdisjoint := (Multiset.nodup_add.1 hnodup).2.2
  exact Multiset.disjoint_left.1 hdisjoint (hallows r hnames) (hothers other hother r hr)

namespace Session

variable {driver : Driver σ} {state : σ} {screen : Screen} {settings : Settings}
  {session : Session σ}

theorem accepts_before (h : start? driver state screen settings = some session)
    {earlier : List Turn} {backend : Backend} (hchained : Chained session.backend earlier backend) :
    ledger.Accepts 0 (session.opening ++ earlier.flatMap Turn.trace) backend.resources := by
  induction earlier using List.reverseRecOn generalizing backend with
  | nil =>
    cases hchained
    have hbalanced := (balanced_of_start? h).1
    rwa [trace, (start?_eq_some h).1] at hbalanced
  | append_singleton earlier turn ih =>
    obtain ⟨middle, hearlier, rfl, hmoves, rfl⟩ := chained_append.1 hchained
    rw [List.flatMap_append, List.flatMap_singleton, ← List.append_assoc]
    exact (ih hearlier).append (Backend.Move.accepts hmoves)

/-- Whatever the surroundings answer, an operation on a window changes nothing but the texture of
that window, and names nothing but what the texture held and what was handed out for the operation;
if nothing live was ever handed out again, it names nothing that another window holds. -/
theorem keepsTo_play (h : start? driver state screen settings = some session)
    (operations : List Operation) :
    let played := session.play driver operations
    played.turns.map Turn.operation = operations ∧
    ∀ earlier turn later, played.turns = earlier ++ turn :: later →
      ∀ window, turn.operation.subject? = some window →
        turn.KeepsTo window ∧
        (Fresh (session.opening ++ (earlier ++ [turn]).flatMap Turn.trace) →
          turn.SparesOthers window) := by
  intro played
  refine ⟨operations_play_of_start? h operations, ?_⟩
  intro earlier turn later hsplit window hsubject
  have hchained : Chained session.backend played.turns played.backend := chained_play h operations
  rw [hsplit] at hchained
  refine ⟨hchained.moves.keepsTo hsubject, ?_⟩
  intro hfresh
  rw [List.flatMap_append, List.flatMap_singleton, ← List.append_assoc] at hfresh
  exact hchained.moves.sparesOthers hsubject (accepts_before h hchained.before) hfresh

end Session

/-- Surroundings that grant everything, and number what belongs to a window as they hand it out. -/
def Driver.numbering : Driver UInt32 where
  respond
    | last, .display (.namePixmap _) => (some (last + 1), last + 1)
    | last, .display (.createBridge ..) => (some ⟨last + 1⟩, last + 1)
    | last, .gl .generateTexture => (some ⟨last + 1⟩, last + 1)
    | last, request => (request.granted true, last)

/-- Two windows, one of which is painted where it overflows, prepared again and released. -/
def Operation.twoWindows : List Operation :=
  [.prepare { id := 7, depth := 24, width := 10, height := 20 },
    .prepare { id := 9, depth := 24, width := 5, height := 5 }, .render 9,
    .compose 7 0 (-2147483648) ⟨[]⟩,
    .prepare { id := 7, depth := 24, width := 4, height := 4 }, .release 7]

namespace Session

theorem keepsTo_play_numbering :
    ∃ session, start? .numbering 0 .ofDepth24 {} = some session ∧
      let played := session.play .numbering Operation.twoWindows
      Fresh played.trace ∧ played.turns.map Turn.operation = Operation.twoWindows ∧
      ∀ earlier turn later, played.turns = earlier ++ turn :: later →
        ∀ window, turn.operation.subject? = some window →
          turn.KeepsTo window ∧
          (Fresh (session.opening ++ (earlier ++ [turn]).flatMap Turn.trace) →
            turn.SparesOthers window) := by
  obtain ⟨session, hsession⟩ : ∃ session, start? .numbering 0 .ofDepth24 {} = some session :=
    Option.isSome_iff_exists.1 (by decide +kernel)
  refine ⟨session, hsession, ?_, keepsTo_play hsession _⟩
  have hdistinct : ((start? .numbering 0 .ofDepth24 {}).all fun session =>
      ((session.play .numbering Operation.twoWindows).trace.filterMap Event.created?).Nodup) =
        true := by
    decide +kernel
  rw [hsession, Option.all_some, decide_eq_true_eq] at hdistinct
  exact fresh_of_nodup hdistinct

end Session
end Compositor
