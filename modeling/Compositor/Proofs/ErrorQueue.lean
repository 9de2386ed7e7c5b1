import Mathlib.Algebra.GroupWithZero.Nat
import Compositor.Proofs.ErrorIndifference
import Compositor.Proofs.Requests

namespace Compositor

open Gl (Token noError drainUpTo drainErrors)

namespace Driver

/-- The state after so many errors have been asked for. -/
def afterErrors (driver : Driver σ) : Nat → σ → σ
  | 0, state => state
  | n + 1, state => driver.afterErrors n (driver.respond state (.gl .getError)).2

/-- What is answered if errors are asked for again and again. -/
def errors (driver : Driver σ) (state : σ) (n : Nat) : Token :=
  (driver.respond (driver.afterErrors n state) (.gl .getError)).1

/-- The answers to so many requests for an error. -/
def firstErrors (driver : Driver σ) (state : σ) (count : Nat) : List Token :=
  (List.range count).map (driver.errors state)

/-- The errors that are pending, in their order; after them there is none. -/
structure Holds (driver : Driver σ) (state : σ) (queue : List Token) : Prop where
  error : ∀ code ∈ queue, code ≠ noError
  answers : ∀ n, driver.errors state n = queue.getD n noError

variable {driver : Driver σ} {state : σ} {queue : List Token}

theorem afterErrors_add (m n : Nat) :
    driver.afterErrors n (driver.afterErrors m state) = driver.afterErrors (m + n) state := by
  induction m generalizing state with
  | zero => rw [Nat.zero_add, afterErrors]
  | succ m ih =>
    rw [Nat.succ_add]
    exact ih

theorem errors_afterErrors (m n : Nat) :
    driver.errors (driver.afterErrors m state) n = driver.errors state (m + n) := by
  rw [errors, afterErrors_add]
  rfl

theorem errors_withErrors (base : Driver σ) (answers : Nat → Token) (state : σ) (taken n : Nat) :
    (base.withErrors answers).errors (state, taken) n = answers (taken + n) := by
  induction n generalizing taken with
  | zero => rfl
  | succ n ih =>
    rw [Nat.add_comm n, ← Nat.add_assoc]
    exact (errors_afterErrors 1 n).symm.trans (ih (taken + 1))

theorem firstErrors_succ (driver : Driver σ) (state : σ) (count : Nat) :
    driver.firstErrors state (count + 1) = (driver.respond state (.gl .getError)).1 ::
      driver.firstErrors (driver.respond state (.gl .getError)).2 count := by
  rw [firstErrors, List.range_succ_eq_map, List.map_cons, List.map_map]
  rfl

theorem Holds.afterErrors (h : driver.Holds state queue) (n : Nat) :
    driver.Holds (driver.afterErrors n state) (queue.drop n) where
  error code hcode := h.error code (List.mem_of_mem_drop hcode)
  answers m := by
    rw [errors_afterErrors, h.answers, List.getD_eq_getElem?_getD, List.getD_eq_getElem?_getD,
      List.getElem?_drop]

theorem Holds.firstErrors_eq (h : driver.Holds state queue) {count : Nat}
    (hcount : count ≤ queue.length) : driver.firstErrors state count = queue.take count := by
  apply List.ext_getElem
  · simp [firstErrors, hcount]
  · intro i hi _
    have hlt : i < queue.length := by
      simp only [firstErrors, List.length_map, List.length_range] at hi
      omega
    simp [firstErrors, h.answers, hlt]

end Driver

namespace Gl

/-- How many errors come before an answer that is none, counted up to a limit. -/
structure Leading (answers : Nat → Token) (limit count : Nat) : Prop where
  count_le : count ≤ limit
  error : ∀ i < count, answers i ≠ noError
  clear : count < limit → answers count = noError

/-- How often errors are asked for: once more than there are, unless the limit is reached. -/
def asks (limit count : Nat) : Nat := if count < limit then count + 1 else limit

/-- The codes that have a name. -/
def symbols : List (Token × String) :=
  [(0, "GL_NO_ERROR"), (0x0500, "GL_INVALID_ENUM"), (0x0501, "GL_INVALID_VALUE"),
    (0x0502, "GL_INVALID_OPERATION"), (0x0503, "GL_STACK_OVERFLOW"),
    (0x0504, "GL_STACK_UNDERFLOW"), (0x0505, "GL_OUT_OF_MEMORY"),
    (0x0506, "GL_INVALID_FRAMEBUFFER_OPERATION")]

/-- How an error is reported that was taken at a site. -/
def record (site : String) (code : Token) : Level × String :=
  (.error, "GLX: " ++ (symbols.lookup code).getD "unknown GL error" ++ " (" ++
    Text.hex code.toNat 4 ++ ") in " ++ site)

end Gl

def Event.record? : Event → Option (Level × String)
  | .note notice => some (notice.level, notice.text)
  | .call _ _ => none

/-- What is reported, as it is worded. -/
def records (trace : List Event) : List (Level × String) := trace.filterMap Event.record?

/-- The answer of a request for an error, if it was one. -/
def Event.takenError? : Event → Option Token
  | .call (.gl .getError) code => if code = noError then none else some code
  | _ => none

/-- The errors that were taken. -/
def takenErrors (trace : List Event) : List Token := trace.filterMap Event.takenError?

namespace Gl

/-- One go at the queue has counted the errors at its head. They are all that is taken and that is
reported, nothing else is asked for, and the answers to come are the ones after them. -/
structure Drains (driver : Driver σ) (state : σ) (site : String) (count : Nat) (run : Run σ Nat) :
    Prop where
  leading : Leading (driver.errors state) 16 count
  outcome : run.outcome = .ok count
  requests : requests run.trace = List.replicate (asks 16 count) (.gl .getError)
  taken : takenErrors run.trace = driver.firstErrors state count
  reported : records run.trace = (driver.firstErrors state count).map (record site)
  left : run.state = driver.afterErrors (asks 16 count) state
  later : ∀ n, driver.errors run.state n = driver.errors state (asks 16 count + n)

/-- What the queue has lost after it was emptied at several sites: so many errors at each of them,
unless there were fewer. Each is reported where it was taken. -/
structure Empties (driver : Driver σ) (queue : List Token) (sites : List String)
    (run : Run σ (List Nat)) : Prop where
  outcome : ∃ counts, run.outcome = .ok counts ∧ counts.length = sites.length ∧
    counts.sum = min queue.length (16 * sites.length)
  taken : takenErrors run.trace = queue.take (16 * sites.length)
  reported : records run.trace =
    List.zipWith record (sites.flatMap (List.replicate 16)) queue
  left : driver.Holds run.state (queue.drop (16 * sites.length))

/-- What is asked and reported while errors are taken, and whether there is an end to them. -/
def drainEvents (site : String) (codes : List Token) (clear : Bool) : List Event :=
  codes.flatMap (fun code => [.call (.gl .getError) code, .note (.glError code site)]) ++
    if clear then [.call (.gl .getError) noError] else []

variable {driver : Driver σ} {state : σ} {queue : List Token} {site : String}

theorem errorName_eq (code : Token) :
    errorName code = (symbols.lookup code).getD "unknown GL error" := by
  unfold errorName
  split_ifs <;> simp_all [symbols, noError, List.lookup_cons, beq_eq_decide]

theorem record?_glError (site : String) (code : Token) :
    Event.record? (.note (.glError code site)) = some (record site code) := by
  rw [record, ← errorName_eq]
  rfl

theorem run_drainUpTo_clear (limit : Nat)
    (hcode : (driver.respond state (.gl .getError)).1 = noError) :
    (drainUpTo site (limit + 1)).run driver state =
      ⟨.ok 0, driver.afterErrors 1 state, [.call (.gl .getError) noError]⟩ := by
  simp only [drainUpTo, bind, Program.gl, Program.bind, Program.run, hcode, if_true]
  rfl

theorem run_bind_pure (driver : Driver σ) (p : Program α) (f : α → β) (state : σ) :
    (p >>= fun value => pure (f value)).run driver state =
      ⟨(p.run driver state).outcome.map f, (p.run driver state).state,
        (p.run driver state).trace⟩ := by
  have hrun := Program.run_bind driver p (fun value => pure (f value)) state
  refine hrun.trans ?_
  unfold Run.andThen
  cases (p.run driver state).outcome with
  | ok value => exact congrArg _ (List.append_nil _)
  | error e => rfl

theorem run_drainUpTo_error (limit : Nat)
    (hcode : (driver.respond state (.gl .getError)).1 ≠ noError) :
    let code := (driver.respond state (.gl .getError)).1
    let rest := (drainUpTo site limit).run driver (driver.respond state (.gl .getError)).2
    (drainUpTo site (limit + 1)).run driver state =
      ⟨rest.outcome.map (· + 1), rest.state,
        .call (.gl .getError) code :: .note (.glError code site) :: rest.trace⟩ := by
  intro code rest
  have hrest := run_bind_pure driver (drainUpTo site limit) (· + 1)
    (driver.respond state (.gl .getError)).2
  simp only [bind] at hrest
  simp only [drainUpTo, bind, Program.gl, Program.bind, Program.run, Program.log, hcode, if_false,
    hrest]
  rfl

/-- Taking errors up to a limit runs over the answers that lead the stream. -/
theorem run_drainUpTo (driver : Driver σ) (state : σ) (site : String) (limit : Nat) :
    ∃ count, Leading (driver.errors state) limit count ∧
      (drainUpTo site limit).run driver state =
        ⟨.ok count, driver.afterErrors (asks limit count) state,
          drainEvents site (driver.firstErrors state count) (count < limit)⟩ := by
  induction limit generalizing state with
  | zero => exact ⟨0, ⟨Nat.le_refl 0, nofun, nofun⟩, rfl⟩
  | succ limit ih =>
    by_cases hcode : (driver.respond state (.gl .getError)).1 = noError
    · refine ⟨0, ⟨Nat.zero_le _, nofun, fun _ => hcode⟩, ?_⟩
      exact run_drainUpTo_clear limit hcode
    · obtain ⟨count, hleading, hrun⟩ := ih (driver.respond state (.gl .getError)).2
      refine ⟨count + 1, ⟨?_, ?_, ?_⟩, ?_⟩
      · exact Nat.succ_le_succ hleading.count_le
      · intro i hi
        cases i with
        | zero => exact hcode
        | succ i => exact hleading.error i (Nat.lt_of_succ_lt_succ hi)
      · exact fun hlt => hleading.clear (Nat.lt_of_succ_lt_succ hlt)
      · have hasks : asks (limit + 1) (count + 1) = asks limit count + 1 := by
          grind [asks]
        rw [run_drainUpTo_error limit hcode, hrun, Driver.firstErrors_succ, hasks]
        simp [drainEvents, Except.map]
        rfl

theorem requests_drainEvents (site : String) (codes : List Token) (clear : Bool) :
    requests (drainEvents site codes clear) =
      List.replicate (codes.length + if clear then 1 else 0) (.gl .getError) := by
  induction codes with
  | nil => cases clear <;> rfl
  | cons code codes ih =>
    rw [List.length_cons, Nat.add_right_comm, List.replicate_succ, ← ih]
    rfl

theorem takenErrors_drainEvents {codes : List Token} (hcodes : ∀ code ∈ codes, code ≠ noError)
    (site : String) (clear : Bool) : takenErrors (drainEvents site codes clear) = codes := by
  induction codes with
  | nil => cases clear <;> rfl
  | cons code codes ih =>
    obtain ⟨hcode, hcodes⟩ := List.forall_mem_cons.1 hcodes
    have htaken : Event.takenError? (.call (.gl .getError) code) = some code := if_neg hcode
    change takenErrors (.call (.gl .getError) code :: .note (.glError code site) ::
      drainEvents site codes clear) = _
    rw [takenErrors, List.filterMap_cons_some htaken]
    exact congrArg _ (ih hcodes)

theorem records_drainEvents (site : String) (codes : List Token) (clear : Bool) :
    records (drainEvents site codes clear) = codes.map (record site) := by
  induction codes with
  | nil => cases clear <;> rfl
  | cons code codes ih =>
    change records (.note (.glError code site) :: drainEvents site codes clear) = _
    rw [records, List.filterMap_cons_some (record?_glError site code), List.map_cons]
    exact congrArg _ ih

theorem Leading.forall_mem_firstErrors {limit count : Nat}
    (h : Leading (driver.errors state) limit count) :
    ∀ code ∈ driver.firstErrors state count, code ≠ noError := by
  intro code hcode
  obtain ⟨i, hi, rfl⟩ := List.mem_map.1 hcode
  exact h.error i (List.mem_range.1 hi)

theorem Leading.asks_eq {limit count : Nat} {answers : Nat → Token}
    (h : Leading answers limit count) :
    asks limit count = count + if count < limit then 1 else 0 := by
  have hle := h.count_le
  unfold asks
  split_ifs with hlt
  · rfl
  · omega

theorem exists_drains (driver : Driver σ) (state : σ) (site : String) :
    ∃ count, Drains driver state site count ((drainErrors site).run driver state) := by
  obtain ⟨count, hleading, hrun⟩ := run_drainUpTo driver state site 16
  refine ⟨count, hleading, ?_, ?_, ?_, ?_, ?_, ?_⟩
  all_goals rw [drainErrors_eq, hrun]
  · rw [requests_drainEvents, hleading.asks_eq]
    simp [Driver.firstErrors]
  · exact takenErrors_drainEvents hleading.forall_mem_firstErrors site _
  · exact records_drainEvents site _ _
  · exact Driver.errors_afterErrors _

/-- Of a queue, as many errors are taken as there are, up to the limit. -/
theorem Leading.count_eq {limit count : Nat} (h : Leading (driver.errors state) limit count)
    (hqueue : driver.Holds state queue) : count = min queue.length limit := by
  have hle := h.count_le
  have hlength : count ≤ queue.length := by
    by_contra hlt
    apply h.error queue.length (by omega)
    rw [hqueue.answers]
    simp
  by_cases hlt : count < limit
  · have hclear := h.clear hlt
    rw [hqueue.answers] at hclear
    have hend : ¬ count < queue.length := by
      intro hlt
      rw [List.getD_eq_getElem?_getD, List.getElem?_eq_getElem hlt] at hclear
      exact hqueue.error _ (List.getElem_mem hlt) hclear
    omega
  · omega

theorem zipWith_replicate_append (f : α → β → γ) (a : α) (n : Nat) (as : List α) (bs : List β) :
    List.zipWith f (List.replicate n a ++ as) bs =
      (bs.take n).map (f a) ++ List.zipWith f as (bs.drop n) := by
  induction n generalizing bs with
  | zero => rfl
  | succ n ih =>
    cases bs with
    | nil => simp
    | cons b bs =>
      rw [List.replicate_succ, List.cons_append, List.zipWith_cons_cons, ih]
      rfl

theorem Drains.of_holds {count : Nat} {run : Run σ Nat} (h : Drains driver state site count run)
    (hqueue : driver.Holds state queue) :
    count = min queue.length 16 ∧ takenErrors run.trace = queue.take 16 ∧
      records run.trace = (queue.take 16).map (record site) ∧
      driver.Holds run.state (queue.drop 16) := by
  have hcount := h.leading.count_eq hqueue
  have hfirst : driver.firstErrors state count = queue.take 16 := by
    rw [hqueue.firstErrors_eq (by omega), hcount, Nat.min_comm, ← List.take_eq_take_min]
  have hdrop : queue.drop (asks 16 count) = queue.drop 16 := by
    unfold asks
    split_ifs with hlt
    · rw [List.drop_eq_nil_of_le (by omega), List.drop_eq_nil_of_le (by omega)]
    · rfl
  refine ⟨hcount, ?_, ?_, ?_⟩
  · rw [h.taken, hfirst]
  · rw [h.reported, hfirst]
  · rw [h.left, ← hdrop]
    exact hqueue.afterErrors _

theorem run_mapM_cons (driver : Driver σ) (state : σ) (site : String) (sites : List String)
    {count : Nat} (hcount : ((drainErrors site).run driver state).outcome = .ok count) :
    let first := (drainErrors site).run driver state
    let rest := (sites.mapM drainErrors).run driver first.state
    ((site :: sites).mapM drainErrors).run driver state =
      ⟨rest.outcome.map (count :: ·), rest.state, first.trace ++ rest.trace⟩ := by
  intro first rest
  rw [List.mapM_cons]
  have hrun := Program.run_bind driver (drainErrors site)
    (fun count => sites.mapM drainErrors >>= fun counts => pure (count :: counts)) state
  refine hrun.trans ?_
  rw [Run.andThen, hcount]
  simp only [run_bind_pure]
  rfl

/-- A queue that is emptied at one site after another loses its errors in turn. -/
theorem empties_mapM (hqueue : driver.Holds state queue) (sites : List String) :
    Empties driver queue sites ((sites.mapM drainErrors).run driver state) := by
  induction sites generalizing state queue with
  | nil =>
    refine ⟨⟨[], rfl, rfl, ?_⟩, ?_, rfl, hqueue⟩
    · exact (Nat.min_zero _).symm
    · exact (List.take_zero).symm
  | cons site sites ih =>
    obtain ⟨count, hdrains⟩ := exists_drains driver state site
    obtain ⟨hcount, htaken, hreported, hleft⟩ := hdrains.of_holds hqueue
    obtain ⟨⟨counts, houtcome, hlength, hsum⟩, htaken', hreported', hleft'⟩ := ih hleft
    have hlimit : 16 * (site :: sites).length = 16 + 16 * sites.length := by
      rw [List.length_cons, Nat.mul_succ, Nat.add_comm]
    rw [run_mapM_cons driver state site sites hdrains.outcome]
    refine ⟨⟨count :: counts, ?_, ?_, ?_⟩, ?_, ?_, ?_⟩
    · rw [houtcome]
      rfl
    · rw [List.length_cons, List.length_cons, hlength]
    · rw [List.sum_cons, hsum, hcount, hlimit, List.length_drop]
      omega
    · rw [takenErrors, List.filterMap_append, hlimit, List.take_add]
      exact congrArg₂ _ htaken htaken'
    · rw [records, List.filterMap_append, List.flatMap_cons, zipWith_replicate_append]
      exact congrArg₂ _ hreported hreported'
    · rw [hlimit, ← List.drop_drop]
      exact hleft'

/-- Emptying the queue takes the errors at its head, sixteen at most, reports each of them once, in
their order, and leaves what comes after them. If the queue is emptied at one site after another,
it loses so many errors at each, and every one of them is reported where it was taken. -/
theorem drainErrors_drains (driver : Driver σ) (state : σ) :
    (∀ site, ∃ count, Drains driver state site count ((drainErrors site).run driver state)) ∧
      ∀ queue, driver.Holds state queue → ∀ sites : List String,
        Empties driver queue sites ((sites.mapM drainErrors).run driver state) :=
  ⟨exists_drains driver state, fun _ hqueue => empties_mapM hqueue⟩

/-- Of eighteen errors, sixteen are taken at the first site and two at the second. -/
theorem drainErrors_drains_eighteen :
    let queue : List Token := List.replicate 17 0x0502 ++ [0x0505]
    let driver := (Driver.granting true).withErrors fun n => queue.getD n noError
    let run := (["prepare window", "render window"].mapM drainErrors).run driver ((), 0)
    driver.Holds ((), 0) queue ∧ Empties driver queue ["prepare window", "render window"] run ∧
      run.outcome = .ok [16, 2] ∧
      records run.trace = List.replicate 16 (record "prepare window" 0x0502) ++
        [record "render window" 0x0502, record "render window" 0x0505] := by
  intro queue driver run
  have herrors : queue.all (· ≠ noError) = true := by decide
  have hqueue : driver.Holds ((), 0) queue := by
    constructor
    · intro code hcode
      exact of_decide_eq_true (List.all_eq_true.1 herrors code hcode)
    · intro n
      rw [Driver.errors_withErrors, Nat.zero_add]
  have hempties : Empties driver queue ["prepare window", "render window"] run :=
    (drainErrors_drains driver ((), 0)).2 queue hqueue _
  refine ⟨hqueue, hempties, ?_, ?_⟩
  · decide +kernel
  · rw [hempties.reported]
    rfl

end Gl
end Compositor
