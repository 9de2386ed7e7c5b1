import Compositor.Proofs.CurrentContext
import Compositor.Proofs.Deafness

namespace Compositor

/-- A program none of whose runs takes an error is deaf to errors. -/
theorem Program.Deaf.of_ensures {p : Program α}
    (h : p.Ensures fun trace _ => trace.all Event.leavesErrors = true) : p.Deaf := by
  induction p with
  | done value => exact .done value
  | fault e => exact .fault e
  | call request next ih =>
    have hrequest : request ≠ .gl .getError := by
      intro hasked
      subst hasked
      -- any driver shows it: asking is an event of every run
      have hrun := Ensures.run h (Driver.granting true) ()
      cases (Bool.and_eq_true_iff.1 hrun).1
    refine .call hrequest fun answer => ih answer ?_
    apply (h answer).mono
    exact fun trace outcome hall => (Bool.and_eq_true_iff.1 hall).2
  | note notice next ih =>
    have hnext : next.Ensures fun trace _ => trace.all Event.leavesErrors = true := h
    exact .note (ih hnext)

theorem Event.leavesErrors_of_not_isGl {event : Event} (h : event.isGl = false) :
    event.leavesErrors = true := by
  unfold leavesErrors
  split
  · cases h
  · rfl

theorem Glx.resolveTexImage_deaf : Glx.resolveTexImage.Deaf := by
  apply Program.Deaf.of_ensures
  apply resolveTexImage_returns.ensures
  intro trace result hresolve
  cases hresolve <;> rfl

theorem Selection.Inquiry.leavesErrors {event : Event} (h : Selection.Inquiry event) :
    event.leavesErrors = true :=
  h.elim (fun _ => rfl) (fun _ _ _ => rfl) (fun _ _ => rfl) fun _ => rfl

theorem Selection.select_deaf (depth : UInt8) : (Selection.select depth).Deaf := by
  apply Program.Deaf.of_ensures
  apply (select_ensures depth).mono
  intro trace outcome hselect
  rw [List.all_eq_true]
  intro event hevent
  exact (hselect.inquires event hevent).leavesErrors

theorem tearDown_deaf (shaders : Shaders) (context : Option ContextHandle) :
    (tearDown shaders context).Deaf := by
  apply (Program.Deaf.forM _ fun program => .paint _).bind
  intro _
  apply (Program.Deaf.paint _).bind
  intro _
  cases context with
  | none => exact .done ()
  | some context => exact .drain ((Program.Deaf.display _).bind fun _ => .log _)

namespace Renderer

namespace BringUp

theorem acquireContext_deaf (screen : Screen) : (acquireContext screen).run.Deaf := by
  apply Program.Deaf.of_ensures
  apply (acquireContext_returns screen).ensures
  intro trace result hacquire
  rw [List.all_eq_true]
  intro event hevent
  apply Event.leavesErrors_of_not_isGl
  cases result with
  | error cause => exact not_isGl_of_isQuiet hacquire.all_isQuiet event hevent
  | ok context => exact not_isGl_of_acquired hacquire event hevent

theorem requestDebugMessages_deaf (settings : GlxSettings) :
    (requestDebugMessages settings).Deaf := by
  apply Program.Deaf.of_ensures
  apply (requestDebugMessages_returns settings).ensures
  intro trace _ hdebug
  cases hdebug <;> rfl

theorem requireStencil_deaf (settings : GlxSettings) : (requireStencil settings).run.Deaf := by
  apply Program.Deaf.of_ensures
  apply (requireStencil_returns settings).ensures
  intro trace result hstencil
  rcases hstencil with ⟨-, hstencil⟩ | ⟨-, hstencil⟩ <;> cases hstencil <;> rfl

theorem setRenderState_deaf (screen : Screen) (settings : GlxSettings) :
    (setRenderState screen settings).Deaf := by
  have hend : (Program.gl (.clearColor 0 0 0 1000) >>= fun _ =>
      Gl.drainErrors "render state setup" >>= fun _ => pure ()).Deaf :=
    (Program.Deaf.gl (by nofun)).bind fun _ => .drain (.done ())
  unfold setRenderState
  refine (Program.Deaf.paint _).bind fun _ => (Program.Deaf.gl (by nofun)).bind fun _ =>
    (Program.Deaf.gl (by nofun)).bind fun _ => (Program.Deaf.gl (by nofun)).bind fun _ =>
      (Program.Deaf.gl (by nofun)).bind fun _ => ?_
  cases settings.noStencil with
  | true => exact hend
  | false =>
    exact (Program.Deaf.gl (by nofun)).bind fun _ => (Program.Deaf.gl (by nofun)).bind fun _ =>
      (Program.Deaf.gl (by nofun)).bind fun _ => (Program.Deaf.gl (by nofun)).bind fun _ => hend

theorem attach_deaf (screen : Screen) (settings : GlxSettings) (context : ContextHandle) :
    (attach screen settings context).run.Deaf := by
  apply Program.Deaf.exceptBind (.lift (.display _))
  intro attached
  cases attached with
  | false => exact .note (.done _)
  | true =>
    apply Program.Deaf.exceptBind (.lift (requestDebugMessages_deaf settings))
    intro _
    apply Program.Deaf.exceptBind (requireStencil_deaf settings)
    intro _
    apply Program.Deaf.exceptBind (.lift (.gl (by nofun)))
    intro names
    apply Program.Deaf.exceptBind Glx.resolveTexImage_deaf
    intro texImage
    apply Program.Deaf.exceptBind (Selection.select_deaf screen.depth)
    intro configs
    apply Program.Deaf.exceptBind (.lift (setRenderState_deaf screen settings))
    exact fun _ => .done _

theorem abandon_deaf (cause : InitError) (context : Option ContextHandle) :
    (abandon cause context).Deaf :=
  (Program.Deaf.log _).bind fun _ => (tearDown_deaf _ _).bind fun _ => .done _

end BringUp

theorem bringUp_deaf (screen : Screen) (settings : GlxSettings) :
    (bringUp screen settings).Deaf := by
  apply (BringUp.acquireContext_deaf screen).bind
  intro acquired
  cases acquired with
  | error cause => exact BringUp.abandon_deaf cause none
  | ok context =>
    apply (BringUp.attach_deaf screen settings context).bind
    intro attached
    cases attached with
    | error cause => exact BringUp.abandon_deaf cause (some context)
    | ok renderer => exact (Program.Deaf.log _).bind fun _ => .done _

end Renderer

namespace Holdings

theorem releaseBridge_deaf (held : Holdings) (renderer : Renderer) (target : TextureTarget) :
    (held.releaseBridge renderer target).Deaf := by
  have hend : (Gl.drainErrors "release pixmap" >>= fun _ => pure ()).Deaf := .drain (.done ())
  obtain ⟨pixmap, bridge, texture⟩ := held
  cases bridge with
  | none => exact hend
  | some bridge =>
    cases texture with
    | none => exact (Program.Deaf.display _).bind fun _ => hend
    | some texture =>
      exact (Program.Deaf.gl (by nofun)).bind fun _ => (Program.Deaf.display _).bind fun _ =>
        (Program.Deaf.gl (by nofun)).bind fun _ => (Program.Deaf.display _).bind fun _ => hend

theorem giveBack_deaf (held : Holdings) (renderer : Renderer) (target : TextureTarget) :
    (held.giveBack renderer target).Deaf := by
  apply (held.releaseBridge_deaf renderer target).bind
  intro _
  obtain ⟨pixmap, bridge, texture⟩ := held
  cases texture with
  | none =>
    rcases pixmap with _ | pixmap | window
    · exact .done ()
    · exact .display _
    · exact .done ()
  | some texture =>
    apply (Program.Deaf.gl (by nofun)).bind
    intro _
    rcases pixmap with _ | pixmap | window
    · exact .done ()
    · exact .display _
    · exact .done ()

end Holdings

namespace WindowTexture

theorem nativePixmap_deaf (window : XId) : (nativePixmap window).Deaf := by
  apply Program.Deaf.of_ensures
  apply (nativePixmap_returns window).ensures
  intro trace pixmap hnamed
  cases hnamed <;> rfl

theorem prepareTexture_deaf (texture : TextureId) (target : TextureTarget) :
    (prepareTexture texture target).Deaf := by
  apply Program.Deaf.of_ensures
  apply (prepareTexture_returns texture target).ensures
  intro trace _ htrace
  rw [htrace]
  rfl

theorem abandon_deaf (renderer : Renderer) (target : TextureTarget) (notice : Notice)
    (cause : WindowError) (held : Holdings) : (abandon renderer target notice cause held).Deaf :=
  (Program.Deaf.log notice).bind fun _ => (held.giveBack_deaf renderer target).bind fun _ => .done _

theorem acquire_deaf (renderer : Renderer) (window : Window) (config : FbConfig)
    (target : TextureTarget) : (acquire renderer window config target).Deaf := by
  apply (nativePixmap_deaf window.id).bind
  intro pixmap
  cases pixmap with
  | none => exact abandon_deaf _ _ _ _ _
  | some pixmap =>
    apply (Program.Deaf.display _).bind
    intro bridge
    cases bridge with
    | none => exact abandon_deaf _ _ _ _ _
    | some bridge =>
      apply (Program.Deaf.gl (by nofun)).bind
      intro texture
      cases texture with
      | none => exact abandon_deaf _ _ _ _ _
      | some texture => exact (prepareTexture_deaf texture target).bind fun _ => .done _

theorem create_deaf (renderer : Renderer) (window : Window) : (create renderer window).Deaf := by
  unfold create
  split
  · exact (Program.Deaf.log _).bind fun _ => .done _
  · cases renderer.configs.get? window.depth with
    | none => exact (Program.Deaf.log _).bind fun _ => .done _
    | some config => exact (Program.Deaf.log _).bind fun _ => acquire_deaf _ _ _ _

theorem refresh_deaf (t : WindowTexture) (renderer : Renderer) : (t.refresh renderer).Deaf := by
  unfold refresh
  cases t.bridge with
  | none => exact .fault _
  | some bridge =>
    exact (Program.Deaf.gl (by nofun)).bind fun _ => (Program.Deaf.display _).bind fun _ =>
      (Program.Deaf.gl (by nofun)).bind fun _ => .drain (.done ())

theorem destroy_deaf (t : WindowTexture) (renderer : Renderer) : (t.destroy renderer).Deaf :=
  (t.holdings.giveBack_deaf renderer t.target).bind fun _ => .log _

theorem compose_deaf (t : WindowTexture) (renderer : Renderer) (x y : Int32) (clip : Region) :
    (t.compose renderer x y clip).Deaf := by
  unfold compose
  split
  · exact (Program.Deaf.ofExcept _).bind fun _ => .paint _
  · exact .log _

end WindowTexture

namespace Backend

theorem init_deaf (screen : Screen) (settings : Settings) : (init screen settings).Deaf := by
  apply (Renderer.bringUp_deaf screen settings.glx).bind
  intro result
  cases result with
  | error cause => exact .done _
  | ok renderer => exact (Program.Deaf.log _).bind fun _ => .done _

theorem prepare_deaf (backend : Backend) (window : Window) : (backend.prepare window).Deaf := by
  unfold prepare
  cases backend.texture? window.id with
  | none =>
    apply (WindowTexture.create_deaf backend.renderer window).bind
    intro result
    cases result with
    | error cause => exact .done _
    | ok texture => exact .done _
  | some stale =>
    apply (Program.Deaf.log _).bind
    intro _
    apply (stale.destroy_deaf backend.renderer).bind
    intro _
    apply (WindowTexture.create_deaf backend.renderer window).bind
    intro result
    cases result with
    | error cause => exact .done _
    | ok texture => exact .done _

theorem render_deaf (backend : Backend) (window : XId) : (backend.render window).Deaf := by
  unfold render
  cases backend.texture? window with
  | none => exact .done _
  | some texture => exact (texture.refresh_deaf backend.renderer).bind fun _ => .done _

theorem release_deaf (backend : Backend) (window : XId) : (backend.release window).Deaf := by
  unfold release
  cases backend.texture? window with
  | none => exact .done _
  | some texture => exact (texture.destroy_deaf backend.renderer).bind fun _ => .done _

theorem compose_deaf (backend : Backend) (window : XId) (x y : Int32) (clip : Region) :
    (backend.compose window x y clip).Deaf := by
  unfold compose
  cases backend.texture? window with
  | none => exact .done _
  | some texture => exact (texture.compose_deaf backend.renderer x y clip).bind fun _ => .done _

theorem bufferAge_deaf (backend : Backend) : backend.bufferAge.Deaf := by
  unfold bufferAge Renderer.bufferAge
  split
  · exact .done _
  · exact (Program.Deaf.display _).bind fun _ => .done _

theorem resize_deaf (backend : Backend) (width height : UInt32) :
    (backend.resize width height).Deaf :=
  ((Program.Deaf.log _).bind fun _ => (Program.Deaf.paint _).bind fun _ => .done _).bind
    fun _ => .done _

theorem perform_deaf (backend : Backend) (operation : Operation) :
    (backend.perform operation).Deaf := by
  cases operation with
  | prepare window => exact (backend.prepare_deaf window).bind fun _ => .done _
  | render window => exact (backend.render_deaf window).bind fun _ => .done _
  | release window => exact (backend.release_deaf window).bind fun _ => .done _
  | compose window x y clip => exact (backend.compose_deaf window x y clip).bind fun _ => .done _
  | present =>
    exact ((Program.Deaf.log _).bind fun _ => .display _).bind fun _ => .done _
  | bufferAge => exact backend.bufferAge_deaf.bind fun _ => .done _
  | resize width height => exact (backend.resize_deaf width height).bind fun _ => .done _
  | keepShaders shaders => exact .done _

theorem shutDown_deaf (backend : Backend) (order : DrainOrder) : (backend.shutDown order).Deaf := by
  apply (Program.Deaf.forM _ fun texture => texture.destroy_deaf backend.renderer).bind
  intro _
  apply (Program.Deaf.log _).bind
  intro _
  exact (tearDown_deaf _ _).bind fun _ => .log _

theorem finish_deaf (backend : Backend) (order : DrainOrder) (ending : Ending) :
    (backend.finish order ending).Deaf := by
  cases ending with
  | deinit => exact backend.shutDown_deaf order
  | drop => exact (Program.Deaf.log _).bind fun _ => backend.shutDown_deaf order

end Backend

/-- A turn without the errors that were taken and reported. -/
def Turn.hushed (turn : Turn) : Turn := { turn with trace := hush turn.trace }

/-- Surroundings that have errors pending, taken one after another from a stream. -/
def Driver.withErrors (base : Driver σ) (errors : Nat → Gl.Token) : Driver (σ × Nat) where
  respond
    | (state, taken), .gl .getError => (errors taken, state, taken + 1)
    | (state, taken), request =>
      ((base.respond state request).1, (base.respond state request).2, taken)

theorem Driver.respond_withErrors (base : Driver σ) (errors : Nat → Gl.Token) (s : σ × Nat)
    {request : Request} (hrequest : request ≠ .gl .getError) :
    (base.withErrors errors).respond s request =
      ((base.respond s.1 request).1, (base.respond s.1 request).2, s.2) := by
  unfold withErrors
  dsimp only
  split
  · exact absurd rfl hrequest
  · rfl

theorem Driver.withErrors_differInErrors (base : Driver σ) (errors others : Nat → Gl.Token) :
    (base.withErrors errors).DifferInErrors (base.withErrors others) fun s t => s.1 = t.1 where
  answer s t request halike hrequest := by
    rw [respond_withErrors base errors s hrequest, respond_withErrors base others t hrequest,
      halike]
  next s t request halike hrequest := by
    rw [respond_withErrors base errors s hrequest, respond_withErrors base others t hrequest,
      halike]
  left _ _ halike := halike
  right _ _ halike := halike

namespace Session

/-- Two sessions that came up alike and took the same turns, but for the errors. -/
structure Matches (Alike : σ → τ → Prop) (first : Session σ) (second : Session τ) : Prop where
  opening : hush first.opening = hush second.opening
  turns : first.turns.map Turn.hushed = second.turns.map Turn.hushed
  backend : first.backend = second.backend
  state : Alike first.state second.state

variable {d₁ : Driver σ} {d₂ : Driver τ} {Alike : σ → τ → Prop} {s : σ} {t : τ} {screen : Screen}
  {settings : Settings} {first : Session σ} {second : Session τ}

theorem start?_matches (h : d₁.DifferInErrors d₂ Alike) (halike : Alike s t)
    (hfirst : start? d₁ s screen settings = some first) :
    ∃ second, start? d₂ t screen settings = some second ∧ first.Matches Alike second := by
  obtain ⟨houtcome, htrace, hstate⟩ := (Backend.init_deaf screen settings).run_matches h halike
  unfold start? at hfirst
  dsimp only at hfirst
  split at hfirst
  · next backend hok =>
    cases hfirst
    refine ⟨⟨_, [], backend, _⟩, ?_, htrace, rfl, rfl, hstate⟩
    rw [houtcome] at hok
    simp only [start?, hok]
  · cases hfirst

theorem Matches.extend (hmatches : first.Matches Alike second) {turn other : Turn} {s : σ} {t : τ}
    (hturn : turn.hushed = other.hushed) (halike : Alike s t) :
    (first.extend turn s).Matches Alike (second.extend other t) where
  opening := hmatches.opening
  turns := by
    have hturns := congrArg (· ++ [turn.hushed]) hmatches.turns
    simpa [Session.extend, hturn] using hturns
  backend := by
    have hafter : turn.hushed.after = other.hushed.after := congrArg Turn.after hturn
    exact hafter
  state := halike

theorem Matches.perform (hmatches : first.Matches Alike second) (h : d₁.DifferInErrors d₂ Alike)
    (operation : Operation) :
    (first.perform d₁ operation).Matches Alike (second.perform d₂ operation) := by
  have hdeaf := first.backend.perform_deaf operation
  have hruns := hdeaf.run_matches h hmatches.state
  have hbackend := hmatches.backend
  obtain ⟨houtcome, htrace, hnext⟩ := hruns
  unfold Session.perform
  rw [hbackend] at houtcome htrace hnext ⊢
  apply hmatches.extend ?_ hnext
  rw [houtcome]
  cases ((second.backend.perform operation).run d₂ second.state).outcome with
  | ok result => simp only [Turn.hushed, htrace]
  | error e => simp only [Turn.hushed, htrace]

theorem Matches.play (hmatches : first.Matches Alike second) (h : d₁.DifferInErrors d₂ Alike)
    (operations : List Operation) :
    (first.play d₁ operations).Matches Alike (second.play d₂ operations) := by
  induction operations generalizing first second with
  | nil => exact hmatches
  | cons operation operations ih => exact ih (hmatches.perform h operation)

theorem Matches.finish (hmatches : first.Matches Alike second) (h : d₁.DifferInErrors d₂ Alike)
    (order : DrainOrder) (ending : Backend.Ending) :
    (first.finish d₁ order ending).Matches Alike (second.finish d₂ order ending) := by
  unfold Session.finish
  rw [hmatches.backend]
  exact (second.backend.finish_deaf order ending).run_matches h hmatches.state

theorem Matches.hush_trace (hmatches : first.Matches Alike second) :
    hush first.trace = hush second.trace := by
  have hflat (turns : List Turn) : hush (turns.flatMap Turn.trace) =
      (turns.map Turn.hushed).flatMap Turn.trace := by
    induction turns with
    | nil => rfl
    | cons turn turns ih =>
      rw [List.flatMap_cons, hush_append, ih]
      rfl
  rw [Session.trace, Session.trace, hush_append, hush_append, hmatches.opening, hflat, hflat,
    hmatches.turns]

/-- Against drivers that differ in their errors only, however many there are, bringing a backend up
ends alike; if it comes up, the same operations end alike and lead to the same backend, and so does
the end. But for the errors, the same is asked, answered and reported throughout. -/
theorem life_matches (h : d₁.DifferInErrors d₂ Alike) (halike : Alike s t) (screen : Screen)
    (settings : Settings) (operations : List Operation) (order : DrainOrder)
    (ending : Backend.Ending) :
    ((Backend.init screen settings).run d₁ s).Matches Alike
      ((Backend.init screen settings).run d₂ t) ∧
    (∀ first, start? d₁ s screen settings = some first →
      ∃ second, start? d₂ t screen settings = some second ∧
        (first.play d₁ operations).Matches Alike (second.play d₂ operations) ∧
        ((first.play d₁ operations).finish d₁ order ending).Matches Alike
          ((second.play d₂ operations).finish d₂ order ending)) ∧
    hush (life d₁ s screen settings operations order ending) =
      hush (life d₂ t screen settings operations order ending) := by
  have hinit := (Backend.init_deaf screen settings).run_matches h halike
  have hplayed {first : Session σ} {second : Session τ} (hmatches : first.Matches Alike second) :=
    hmatches.play h operations
  refine ⟨hinit, ?_, ?_⟩
  · intro first hfirst
    obtain ⟨second, hsecond, hmatches⟩ := start?_matches h halike hfirst
    exact ⟨second, hsecond, hplayed hmatches, (hplayed hmatches).finish h order ending⟩
  · unfold life
    cases hfirst : start? d₁ s screen settings with
    | none =>
      cases hsecond : start? d₂ t screen settings with
      | none => exact hinit.trace
      | some second =>
        obtain ⟨first, hsome, -⟩ := start?_matches h.symm halike hsecond
        rw [hfirst] at hsome
        cases hsome
    | some first =>
      obtain ⟨second, hsecond, hmatches⟩ := start?_matches h halike hfirst
      have hend := ((hplayed hmatches).finish h order ending).trace
      rw [hsecond]
      simp only [hush_append, (hplayed hmatches).hush_trace, hend]

/-- One error that never ends, and none at all. -/
theorem life_matches_withErrors :
    let none := (Driver.granting true).withErrors fun _ => Gl.noError
    let endless := (Driver.granting true).withErrors fun _ => 0x0502
    let operations : List Operation :=
      [.prepare { id := 7, depth := 24, width := 10, height := 20 }, .render 7,
        .compose 7 0 (-2147483648) ⟨[]⟩, .prepare { id := 7, depth := 24, width := 5, height := 5 },
        .present, .release 9]
    let Alike (s t : Unit × Nat) : Prop := s.1 = t.1
    none.DifferInErrors endless Alike ∧
      (start? none ((), 0) .ofDepth24 {}).isSome = true ∧ ∀ order ending,
      ((Backend.init .ofDepth24 {}).run none ((), 0)).Matches Alike
        ((Backend.init .ofDepth24 {}).run endless ((), 0)) ∧
      (∀ first, start? none ((), 0) .ofDepth24 {} = some first →
        ∃ second, start? endless ((), 0) .ofDepth24 {} = some second ∧
          (first.play none operations).Matches Alike (second.play endless operations) ∧
          ((first.play none operations).finish none order ending).Matches Alike
            ((second.play endless operations).finish endless order ending)) ∧
      hush (life none ((), 0) .ofDepth24 {} operations order ending) =
        hush (life endless ((), 0) .ofDepth24 {} operations order ending) := by
  intro none endless operations Alike
  have hdiffer : none.DifferInErrors endless Alike := Driver.withErrors_differInErrors _ _ _
  refine ⟨hdiffer, by decide +kernel, ?_⟩
  exact fun order ending => life_matches hdiffer rfl _ _ _ order ending

end Session
end Compositor
