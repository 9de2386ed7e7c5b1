import Compositor.Proofs.Enumeration
import Compositor.Proofs.Preference

namespace Compositor

namespace DepthTable

/-- Entries at the same depths, usable ones at the same, and those with the same ranks. -/
structure Ties (a b : DepthTable) : Prop where
  depths : a.depths = b.depths
  isUsable : ∀ key stored stored', a.get? key = some stored → b.get? key = some stored' →
    stored.isUsable = stored'.isUsable
  rank : ∀ key stored stored', a.get? key = some stored → b.get? key = some stored' →
    stored.isUsable = true → stored.rank = stored'.rank

variable {a b : DepthTable}

theorem mem_depths {key : UInt8} : key ∈ a.depths ↔ a.contains key = true :=
  Std.TreeMap.mem_keys.trans Std.TreeMap.mem_iff_contains

theorem depths_eq (h : ∀ key, a.contains key = true ↔ b.contains key = true) :
    a.depths = b.depths := by
  have hperm : a.depths.Perm b.depths := by
    refine (List.perm_ext_iff_of_nodup Std.TreeMap.nodup_keys Std.TreeMap.nodup_keys).2 ?_
    intro key
    exact mem_depths.trans ((h key).trans mem_depths.symm)
  apply hperm.eq_of_pairwise _ Std.TreeMap.ordered_keys Std.TreeMap.ordered_keys
  intro first second _ _ hlt hgt
  rw [Std.OrientedCmp.gt_of_lt hlt] at hgt
  cases hgt

end DepthTable

namespace Catalogue

variable {c : Catalogue} {table table' next final : DepthTable} {handle : ConfigHandle}
  {handles handles' : List ConfigHandle} {entry : Option (UInt8 × FbConfig)}
  {entries entries' : List (Option (UInt8 × FbConfig))} {key limit : UInt8}
  {format : TextureFormat} {stored stored' candidate : FbConfig}

namespace Considered

/-- What replaces an entry stays against all that the entry stayed against. -/
theorem exists_withstands_of_get? (h : c.Considered table handle entry (.ok next))
    (hstored : table.get? key = some stored) (hstays : stored.Withstands candidate) :
    ∃ later, next.get? key = some later ∧ later.Withstands candidate := by
  cases h with
  | passed hfits hnone => exact ⟨stored, hstored, hstays⟩
  | kept hfits hqualifies hkept hrank => exact ⟨stored, hstored, hstays⟩
  | @chosen depth format hfits hdepth hqualifies hrank =>
    rw [DepthTable.get?_insert]
    by_cases hkey : depth = key
    · rw [if_pos hkey]
      rw [hkey, hstored] at hrank
      exact ⟨_, rfl, (FbConfig.withstands_of_replaces hstays.isUsable hrank).trans hstays⟩
    · rw [if_neg hkey]
      exact ⟨stored, hstored, hstays⟩

/-- After a usable configuration is considered, the entry stays against it. -/
theorem exists_withstands (h : c.Considered table handle entry (.ok next))
    (hkey : key ≤ table.maxDepth) (hqualifies : c.Qualifies handle key.toNat format)
    (husable : (c.config handle format).isUsable = true) :
    ∃ later, next.get? key = some later ∧ later.Withstands (c.config handle format) := by
  cases h with
  | passed hfits hnone => exact absurd hqualifies (hnone key hkey format)
  | kept hfits hother hstored hrank =>
    obtain ⟨rfl, rfl⟩ := hother.unique_toNat hqualifies
    exact ⟨_, hstored, hrank⟩
  | chosen hfits hdepth hother hrank =>
    obtain ⟨rfl, rfl⟩ := hother.unique_toNat hqualifies
    rw [DepthTable.get?_insert, if_pos rfl]
    exact ⟨_, rfl, FbConfig.withstands_self husable⟩

end Considered

namespace Filled

theorem exists_withstands_of_get? (h : c.Filled table handles entries (.ok final))
    (hstays : ∃ stored, table.get? key = some stored ∧ stored.Withstands candidate) :
    ∃ later, final.get? key = some later ∧ later.Withstands candidate := by
  induction h using ok_induction with
  | nil => exact hstays
  | cons hfirst hrest ih =>
    obtain ⟨stored, hstored, hstays⟩ := hstays
    exact ih (hfirst.exists_withstands_of_get? hstored hstays)

theorem exists_withstands (h : c.Filled table handles entries (.ok final))
    (hkey : key ≤ table.maxDepth) (hmem : handle ∈ handles)
    (hqualifies : c.Qualifies handle key.toNat format)
    (husable : (c.config handle format).isUsable = true) :
    ∃ later, final.get? key = some later ∧ later.Withstands (c.config handle format) := by
  induction h using ok_induction with
  | nil => cases hmem
  | cons hfirst hrest ih =>
    rcases List.mem_cons.1 hmem with rfl | hmem
    · exact hrest.exists_withstands_of_get? (hfirst.exists_withstands hkey hqualifies husable)
    · rw [← hfirst.maxDepth_eq] at hkey
      exact ih hkey hmem

theorem withstands (h : c.Filled (.empty limit) handles entries (.ok table))
    (h' : c.Filled (.empty limit) handles' entries' (.ok table')) (hsubset : handles ⊆ handles')
    (hstored : table.get? key = some stored) (hstored' : table'.get? key = some stored')
    (husable : stored.isUsable = true) : stored'.Withstands stored := by
  obtain ⟨hkey, handle, hmem, format, hqualifies, rfl⟩ := h.get?_eq_of_empty hstored
  obtain ⟨later, hlater, hstays⟩ := h'.exists_withstands hkey (hsubset hmem) hqualifies husable
  cases hstored'.symm.trans hlater
  exact hstays

theorem ties (h : c.Filled (.empty limit) handles entries (.ok table))
    (h' : c.Filled (.empty limit) handles' entries' (.ok table')) (hperm : handles.Perm handles') :
    table.Ties table' := by
  constructor
  · apply DepthTable.depths_eq
    intro key
    simp only [h.contains_iff, h'.contains_iff, hperm.mem_iff]
  · intro key stored stored' hstored hstored'
    rw [Bool.eq_iff_iff]
    constructor
    · exact fun husable => (h.withstands h' hperm.subset hstored hstored' husable).isUsable
    · exact fun husable => (h'.withstands h hperm.symm.subset hstored' hstored husable).isUsable
  · intro key stored stored' hstored hstored' husable
    have hstays' := h.withstands h' hperm.subset hstored hstored' husable
    have hstays := h'.withstands h hperm.symm.subset hstored' hstored hstays'.isUsable
    exact hstays.rank_eq hstays'

theorem eq_error_iff {outcome : Except Fault DepthTable} {e : Fault}
    (h : c.Filled table handles entries outcome) :
    outcome = .error e ↔ e = .subOverflow ∧ ∃ handle ∈ handles, c.Overflows handle := by
  constructor
  · intro houtcome
    rw [houtcome] at h
    exact h.overflows
  · intro hoverflows
    obtain ⟨rfl, handle, hmem, hoverflows⟩ := hoverflows
    cases outcome with
    | ok final => exact absurd hoverflows (h.not_overflows handle hmem)
    | error e => rw [h.overflows.1]

end Filled
end Catalogue

namespace Selection

theorem filled_of_follows {c : Catalogue} {driver : Driver σ} (h : driver.Follows c) (state : σ) :
    ∃ entries, c.Filled (.empty DepthTable.depthLimit) (driver.respond state (.display .configs)).1
      entries (enumerate.run driver state).outcome := by
  obtain ⟨handles, rest, entries, htrace, hfilled⟩ :=
    (enumerate_ensures_filled c).run driver state (Catalogue.agrees_of_follows h _ _)
  cases htrace
  exact ⟨entries, hfilled⟩

theorem select_outcome (driver : Driver σ) (state : σ) (depth : UInt8) {table : DepthTable}
    (h : (enumerate.run driver state).outcome = .ok table) :
    ((select depth).run driver state).outcome =
      .ok (if table.contains depth = true then .ok table
        else .error (.noConfigForDepth depth)) := by
  change ((enumerate.bind _).run driver state).outcome = _
  rw [Program.run_bind, Run.andThen, h]
  cases hdepth : table.contains depth <;> cases halpha : table.contains DepthTable.alphaDepth <;>
    simp only [hdepth, halpha] <;> rfl

/-- Two displays that answer alike about their configurations, and report the same of them, each as
often but in another order. Where sizes of one have no difference, both tables fail. Else they have
the same depths; at each of these one's entry is usable if the other's is, with the same ranks; and
choosing succeeds for the same default depths. -/
theorem enumerate_reordered {c : Catalogue} {driver : Driver σ} {driver' : Driver τ}
    (h : driver.Follows c) (h' : driver'.Follows c) (state : σ) (state' : τ)
    (hperm : (driver.respond state (.display .configs)).1.Perm
      (driver'.respond state' (.display .configs)).1) :
    let run := enumerate.run driver state
    let run' := enumerate.run driver' state'
    (∀ e, run.outcome = .error e ↔ run'.outcome = .error e) ∧
    ∀ table table', run.outcome = .ok table → run'.outcome = .ok table' →
      table.Ties table' ∧ ∀ depth,
        let chosen := ((select depth).run driver state).outcome
        let chosen' := ((select depth).run driver' state').outcome
        chosen = .ok (.ok table) ∧ chosen' = .ok (.ok table') ∨
          chosen = .ok (.error (.noConfigForDepth depth)) ∧ chosen' = chosen := by
  intro run run'
  obtain ⟨entries, hfilled⟩ := filled_of_follows h state
  obtain ⟨entries', hfilled'⟩ := filled_of_follows h' state'
  constructor
  · intro e
    rw [hfilled.eq_error_iff, hfilled'.eq_error_iff]
    simp only [hperm.mem_iff]
  · intro table table' htable htable'
    have hties : table.Ties table' := by
      rw [htable] at hfilled
      rw [htable'] at hfilled'
      exact hfilled.ties hfilled' hperm
    refine ⟨hties, ?_⟩
    intro depth chosen chosen'
    have hchosen := select_outcome driver state depth htable
    have hchosen' := select_outcome driver' state' depth htable'
    have hcontains : table.contains depth = true ↔ table'.contains depth = true := by
      rw [← DepthTable.mem_depths, ← DepthTable.mem_depths, hties.depths]
    by_cases hdepth : table.contains depth = true
    · rw [if_pos hdepth] at hchosen
      rw [if_pos (hcontains.1 hdepth)] at hchosen'
      exact .inl ⟨hchosen, hchosen'⟩
    · rw [if_neg hdepth] at hchosen
      rw [if_neg (fun hother => hdepth (hcontains.2 hother))] at hchosen'
      exact .inr ⟨hchosen, hchosen'.trans hchosen.symm⟩

/-- Two configurations that tie and one with ten bits to its red, in either order: each time the
first of the two is chosen. -/
theorem enumerate_reordered_listing :
    let c : Catalogue := {
      value := fun handle name =>
        match handle.id, name with
        | _, .samples | _, .yInverted => none
        | _, .bufferSize => some 32
        | 2, .redSize => some 10
        | _, .redSize | _, .alphaSize => some 8
        | _, _ => some 1
      visualDepth := fun _ => some 32 }
    let driver := (Driver.granting true).listing c [⟨0⟩, ⟨1⟩, ⟨2⟩]
    let driver' := (Driver.granting true).listing c [⟨2⟩, ⟨1⟩, ⟨0⟩]
    ∃ table table', (enumerate.run driver ()).outcome = .ok table ∧
      (enumerate.run driver' ()).outcome = .ok table' ∧ table.Ties table' ∧
      (table.get? 32).map (·.handle) = some ⟨0⟩ ∧ (table'.get? 32).map (·.handle) = some ⟨1⟩ := by
  intro c driver driver'
  have hok {result : Except Fault DepthTable} {table : DepthTable}
      (h : result.toOption = some table) : result = .ok table := by
    cases result with
    | ok value => exact congrArg Except.ok (Option.some.inj h)
    | error e => cases h
  have hfirst : ((enumerate.run driver ()).outcome.toOption.bind fun table =>
      (table.get? 32).map (·.handle)) = some ⟨0⟩ := by
    decide +kernel
  have hsecond : ((enumerate.run driver' ()).outcome.toOption.bind fun table =>
      (table.get? 32).map (·.handle)) = some ⟨1⟩ := by
    decide +kernel
  obtain ⟨table, htable, hhandle⟩ := Option.bind_eq_some_iff.1 hfirst
  obtain ⟨table', htable', hhandle'⟩ := Option.bind_eq_some_iff.1 hsecond
  have hperm : List.Perm (driver.respond () (.display .configs)).1
      (driver'.respond () (.display .configs)).1 := by
    decide
  have hreordered := enumerate_reordered (Driver.listing_follows _ c _)
    (Driver.listing_follows _ c _) () () hperm
  have hties := (hreordered.2 table table' (hok htable) (hok htable')).1
  exact ⟨table, table', hok htable, hok htable', hties, hhandle, hhandle'⟩

end Selection
end Compositor
