import Compositor.Proofs.Catalogue
import Compositor.Proofs.Session

namespace Compositor

/-- A driver's answers about configurations are a catalogue's, whatever its state. -/
structure Driver.Follows (driver : Driver σ) (c : Catalogue) : Prop where
  value : ∀ state handle name,
    (driver.respond state (.display (.configAttribute handle name))).1 = c.value handle name
  visualDepth : ∀ state handle,
    (driver.respond state (.display (.configVisualDepth handle))).1 = c.visualDepth handle

theorem DepthTable.get?_insert (table : DepthTable) (depth key : UInt8) (candidate : FbConfig) :
    ({ table with entries := table.entries.insert depth candidate } : DepthTable).get? key =
      if depth = key then some candidate else table.get? key := by
  simp only [get?, Std.TreeMap.getElem?_insert, Std.compare_eq_iff_eq]

theorem DepthTable.contains_iff {table : DepthTable} {key : UInt8} :
    table.contains key = true ↔ ∃ stored, table.get? key = some stored := by
  rw [contains, Std.TreeMap.contains_eq_isSome_getElem?, Option.isSome_iff_exists]
  rfl

/-- Surroundings that list these configurations and answer about them from a catalogue. -/
def Driver.listing (base : Driver σ) (c : Catalogue) (handles : List ConfigHandle) : Driver σ where
  respond
    | state, .display .configs => (handles, state)
    | state, .display (.configAttribute handle name) => (c.value handle name, state)
    | state, .display (.configVisualDepth handle) => (c.visualDepth handle, state)
    | state, request => base.respond state request

theorem Driver.listing_follows (base : Driver σ) (c : Catalogue) (handles : List ConfigHandle) :
    (base.listing c handles).Follows c :=
  ⟨fun _ _ _ => rfl, fun _ _ => rfl⟩

namespace Catalogue

/-- What comes of considering configurations one after another: what each report registers, and the
table. -/
inductive Filled (c : Catalogue) : DepthTable → List ConfigHandle →
    List (Option (UInt8 × FbConfig)) → Except Fault DepthTable → Prop
  | nil {table : DepthTable} : Filled c table [] [] (.ok table)
  | cons {table next : DepthTable} {handle : ConfigHandle} {handles : List ConfigHandle}
    {entry : Option (UInt8 × FbConfig)} {entries : List (Option (UInt8 × FbConfig))}
    {outcome : Except Fault DepthTable} (hfirst : c.Considered table handle entry (.ok next))
    (hrest : Filled c next handles entries outcome) :
    Filled c table (handle :: handles) (entry :: entries) outcome
  | overflowed {table : DepthTable} {handle : ConfigHandle} {handles : List ConfigHandle}
    (h : c.Overflows handle) : Filled c table (handle :: handles) [] (.error .subOverflow)

/-- A report registers its configuration for no other depth than the one it qualifies for, and in
the format for that. -/
def Registers (c : Catalogue) (handle : ConfigHandle) (entry : Option (UInt8 × FbConfig)) : Prop :=
  ∀ depth chosen, entry = some (depth, chosen) →
    ∃ format, c.Qualifies handle depth.toNat format ∧ chosen = c.config handle format

/-- The table has an entry for exactly the depths in range that one of the configurations qualifies
for, and each entry is such a configuration as it was answered. -/
structure Covers (c : Catalogue) (handles : List ConfigHandle) (table : DepthTable) : Prop where
  depths : ∀ depth : Int,
    (∃ key : UInt8, (key.toNat : Int) = depth ∧ table.contains key = true) ↔
      0 ≤ depth ∧ depth ≤ 32 ∧ ∃ handle ∈ handles, ∃ format, c.Qualifies handle depth format
  entries : ∀ key stored, table.get? key = some stored → ∃ handle ∈ handles, ∃ format,
    c.Qualifies handle key.toNat format ∧ stored = c.config handle format

/-- Each report of a configuration registers it once at most. -/
def RegistersOnce (c : Catalogue) (handles : List ConfigHandle) (trace : List Event) : Prop :=
  ∃ entries, registrations trace = entries.filterMap id ∧ List.Forall₂ c.Registers handles entries

variable {c : Catalogue} {table next final : DepthTable} {handle : ConfigHandle}
  {handles : List ConfigHandle} {entry : Option (UInt8 × FbConfig)}
  {entries : List (Option (UInt8 × FbConfig))} {outcome : Except Fault DepthTable} {key : UInt8}
  {stored : FbConfig}

theorem agrees_of_follows {driver : Driver σ} (h : driver.Follows c) (p : Program α) (state : σ) :
    ∀ event ∈ (p.run driver state).trace, c.Agrees event := by
  induction p generalizing state with
  | done value =>
    intro event hevent
    cases hevent
  | fault e =>
    intro event hevent
    cases hevent
  | call request following ih =>
    intro event hevent
    rcases List.mem_cons.1 hevent with rfl | hrest
    · unfold Agrees
      split
      · next handle name answer heq =>
        cases heq
        exact h.value state handle name
      · next handle answer heq =>
        cases heq
        exact h.visualDepth state handle
      · trivial
    · exact ih _ _ event hrest
  | note notice following ih =>
    intro event hevent
    rcases List.mem_cons.1 hevent with rfl | hrest
    · trivial
    · exact ih _ event hrest

namespace Considered

theorem not_overflows (h : c.Considered table handle entry (.ok next)) : ¬ c.Overflows handle := by
  cases h with
  | passed hfits hnone => exact hfits
  | kept hfits hqualifies hstored hrank => exact hfits
  | chosen hfits hdepth hqualifies hrank => exact hfits

theorem registers (h : c.Considered table handle entry outcome) : c.Registers handle entry := by
  intro depth chosen hentry
  cases h with
  | chosen hfits hdepth hqualifies hrank =>
    cases hentry
    exact ⟨_, hqualifies, rfl⟩
  | _ => cases hentry

theorem maxDepth_eq (h : c.Considered table handle entry (.ok next)) :
    next.maxDepth = table.maxDepth := by
  cases h <;> rfl

theorem get?_eq (h : c.Considered table handle entry (.ok next)) (key : UInt8) :
    next.get? key = table.get? key ∨
      key ≤ table.maxDepth ∧ ∃ format, c.Qualifies handle key.toNat format ∧
        next.get? key = some (c.config handle format) := by
  cases h with
  | passed hfits hnone => exact .inl rfl
  | kept hfits hqualifies hstored hrank => exact .inl rfl
  | @chosen depth format hfits hdepth hqualifies hrank =>
    rw [DepthTable.get?_insert]
    by_cases hkey : depth = key
    · rw [if_pos hkey, ← hkey]
      exact .inr ⟨hdepth, format, hqualifies, rfl⟩
    · rw [if_neg hkey]
      exact .inl rfl

theorem exists_get? (h : c.Considered table handle entry (.ok next)) (hkey : key ≤ table.maxDepth)
    {format : TextureFormat} (hqualifies : c.Qualifies handle key.toNat format) :
    ∃ stored, next.get? key = some stored := by
  cases h with
  | passed hfits hnone => exact absurd hqualifies (hnone key hkey format)
  | kept hfits hother hstored hrank =>
    obtain ⟨rfl, rfl⟩ := hother.unique_toNat hqualifies
    exact ⟨_, hstored⟩
  | chosen hfits hdepth hother hrank =>
    obtain ⟨rfl, rfl⟩ := hother.unique_toNat hqualifies
    rw [DepthTable.get?_insert, if_pos rfl]
    exact ⟨_, rfl⟩

end Considered

namespace Filled

theorem overflows {e : Fault} (h : c.Filled table handles entries (.error e)) :
    e = .subOverflow ∧ ∃ handle ∈ handles, c.Overflows handle := by
  generalize houtcome : Except.error e = outcome at h
  induction h with
  | nil => cases houtcome
  | cons hfirst hrest ih =>
    obtain ⟨he, handle, hmem, hoverflows⟩ := ih houtcome
    exact ⟨he, handle, List.mem_cons_of_mem _ hmem, hoverflows⟩
  | overflowed hoverflows =>
    cases houtcome
    exact ⟨rfl, _, List.mem_cons_self, hoverflows⟩

/-- Where the table is filled to the end, each configuration is considered in its turn. -/
@[elab_as_elim] theorem ok_induction
    {motive : ∀ table handles entries, c.Filled table handles entries (.ok final) → Prop}
    (h : c.Filled table handles entries (.ok final)) (nil : motive final [] [] .nil)
    (cons : ∀ {table next handle handles entry entries}
      (hfirst : c.Considered table handle entry (.ok next))
      (hrest : c.Filled next handles entries (.ok final)), motive next handles entries hrest →
        motive table (handle :: handles) (entry :: entries) (.cons hfirst hrest)) :
    motive table handles entries h := by
  have hall {outcome : Except Fault DepthTable} (hfilled : c.Filled table handles entries outcome)
      (houtcome : outcome = .ok final) : motive table handles entries (houtcome ▸ hfilled) := by
    induction hfilled with
    | nil =>
      cases houtcome
      exact nil
    | cons hfirst hrest ih =>
      subst houtcome
      exact cons hfirst hrest (ih hrest rfl)
    | overflowed hoverflows => cases houtcome
  exact hall h rfl

theorem not_overflows (h : c.Filled table handles entries (.ok final)) :
    ∀ handle ∈ handles, ¬ c.Overflows handle := by
  induction h using ok_induction with
  | nil =>
    intro handle hmem
    cases hmem
  | cons hfirst hrest ih =>
    intro handle hmem
    rcases List.mem_cons.1 hmem with rfl | hmem
    · exact hfirst.not_overflows
    · exact ih handle hmem

theorem registers (h : c.Filled table handles entries (.ok final)) :
    List.Forall₂ c.Registers handles entries := by
  induction h using ok_induction with
  | nil => exact .nil
  | cons hfirst hrest ih => exact .cons hfirst.registers ih

/-- An entry was there before, or one of the configurations qualifies for it. -/
theorem get?_eq (h : c.Filled table handles entries (.ok final))
    (hstored : final.get? key = some stored) :
    table.get? key = some stored ∨
      key ≤ table.maxDepth ∧ ∃ handle ∈ handles, ∃ format,
        c.Qualifies handle key.toNat format ∧ stored = c.config handle format := by
  induction h using ok_induction with
  | nil => exact .inl hstored
  | @cons table next handle handles entry entries hfirst hrest ih =>
    rcases ih with hnext | ⟨hle, other, hmem, format, hqualifies, hsame⟩
    · rcases hfirst.get?_eq key with hkeeps | ⟨hle, format, hqualifies, htakes⟩
      · rw [hkeeps] at hnext
        exact .inl hnext
      · rw [htakes] at hnext
        have heq := (Option.some.inj hnext).symm
        exact .inr ⟨hle, handle, List.mem_cons_self, format, hqualifies, heq⟩
    · rw [hfirst.maxDepth_eq] at hle
      exact .inr ⟨hle, other, List.mem_cons_of_mem _ hmem, format, hqualifies, hsame⟩

theorem exists_get?_of_get? (h : c.Filled table handles entries (.ok final))
    (hstored : ∃ stored, table.get? key = some stored) :
    ∃ stored, final.get? key = some stored := by
  induction h using ok_induction with
  | nil => exact hstored
  | cons hfirst hrest ih =>
    rcases hfirst.get?_eq key with hkeeps | ⟨hle, format, hqualifies, htakes⟩
    · rw [← hkeeps] at hstored
      exact ih hstored
    · exact ih ⟨_, htakes⟩

/-- A depth in range that one of the configurations qualifies for has an entry. -/
theorem exists_get? (h : c.Filled table handles entries (.ok final)) (hkey : key ≤ table.maxDepth)
    {format : TextureFormat} (hmem : handle ∈ handles)
    (hqualifies : c.Qualifies handle key.toNat format) :
    ∃ stored, final.get? key = some stored := by
  induction h using ok_induction with
  | nil => cases hmem
  | cons hfirst hrest ih =>
    rcases List.mem_cons.1 hmem with rfl | hmem
    · exact hrest.exists_get?_of_get? (hfirst.exists_get? hkey hqualifies)
    · rw [← hfirst.maxDepth_eq] at hkey
      exact ih hkey hmem

/-- Of an empty table, each entry is one of the configurations, and qualifies for it. -/
theorem get?_eq_of_empty {limit : UInt8}
    (h : c.Filled (.empty limit) handles entries (.ok final))
    (hstored : final.get? key = some stored) :
    key ≤ limit ∧ ∃ handle ∈ handles, ∃ format,
      c.Qualifies handle key.toNat format ∧ stored = c.config handle format := by
  rcases h.get?_eq hstored with hempty | hqualifies
  · have hnone : (DepthTable.empty limit).get? key = none := Std.TreeMap.getElem?_emptyc
    rw [hnone] at hempty
    cases hempty
  · exact hqualifies

theorem contains_iff {limit : UInt8} (h : c.Filled (.empty limit) handles entries (.ok final)) :
    final.contains key = true ↔
      key ≤ limit ∧ ∃ handle ∈ handles, ∃ format, c.Qualifies handle key.toNat format := by
  rw [DepthTable.contains_iff]
  constructor
  · intro hcontains
    obtain ⟨stored, hstored⟩ := hcontains
    obtain ⟨hle, handle, hmem, format, hqualifies, -⟩ := h.get?_eq_of_empty hstored
    exact ⟨hle, handle, hmem, format, hqualifies⟩
  · intro hqualifies
    obtain ⟨hle, handle, hmem, format, hqualifies⟩ := hqualifies
    exact h.exists_get? hle hmem hqualifies

theorem contains_number_iff {limit : UInt8}
    (h : c.Filled (.empty limit) handles entries (.ok final)) (depth : Int) :
    (∃ key : UInt8, (key.toNat : Int) = depth ∧ final.contains key = true) ↔
      0 ≤ depth ∧ depth ≤ limit.toNat ∧
        ∃ handle ∈ handles, ∃ format, c.Qualifies handle depth format := by
  constructor
  · intro hcontains
    obtain ⟨key, rfl, hcontains⟩ := hcontains
    obtain ⟨hle, hqualifies⟩ := h.contains_iff.1 hcontains
    have hupper := UInt8.le_iff_toNat_le.1 hle
    exact ⟨by omega, by omega, hqualifies⟩
  · intro hall
    obtain ⟨hlower, hupper, hqualifies⟩ := hall
    have hbound := limit.toNat_lt
    have hkey : ((UInt8.ofNat depth.toNat).toNat : Int) = depth := by
      rw [UInt8.toNat_ofNat']
      omega
    refine ⟨.ofNat depth.toNat, hkey, h.contains_iff.2 ⟨?_, ?_⟩⟩
    · exact UInt8.le_iff_toNat_le.2 (by omega)
    · rwa [hkey]

end Filled

theorem foldlM_consider_ensures (c : Catalogue) (table : DepthTable)
    (positions : List (ConfigHandle × Nat)) :
    (positions.foldlM Selection.consider table).Ensures fun trace outcome =>
      (∀ event ∈ trace, c.Agrees event) →
        ∃ entries, registrations trace = entries.filterMap id ∧
          c.Filled table (positions.map Prod.fst) entries outcome := by
  induction positions generalizing table with
  | nil => exact fun _ => ⟨[], rfl, .nil⟩
  | cons first positions ih =>
    obtain ⟨handle, position⟩ := first
    rw [List.foldlM_cons]
    apply Program.Ensures.bind (c.consider_ensures table handle position)
    · intro trace next hconsidered
      apply (ih next).mono
      intro rest outcome hfilled hagrees
      obtain ⟨hfirst, hlater⟩ := List.forall_mem_append.1 hagrees
      obtain ⟨entry, hentry, hfirst⟩ := hconsidered hfirst
      obtain ⟨entries, hentries, hrest⟩ := hfilled hlater
      refine ⟨entry :: entries, ?_, .cons hfirst hrest⟩
      rw [registrations_append, hentry, hentries]
      cases entry <;> rfl
    · intro trace e hconsidered hagrees
      obtain ⟨entry, hentry, hfirst⟩ := hconsidered hagrees
      cases hfirst with
      | overflowed hoverflows => exact ⟨[], hentry, .overflowed hoverflows⟩

end Catalogue

namespace Selection

theorem enumerate_ensures_filled (c : Catalogue) :
    enumerate.Ensures fun trace outcome =>
      (∀ event ∈ trace, c.Agrees event) →
        ∃ handles rest entries, trace = .call (.display .configs) handles :: rest ∧
          c.Filled (.empty DepthTable.depthLimit) handles entries outcome := by
  intro handles
  apply (c.foldlM_consider_ensures (.empty DepthTable.depthLimit) handles.zipIdx).mono
  intro trace outcome hfills hagrees
  obtain ⟨entries, -, hfilled⟩ := hfills (List.forall_mem_cons.1 hagrees).2
  rw [List.zipIdx_map_fst] at hfilled
  exact ⟨handles, trace, entries, rfl, hfilled⟩

/-- That the table was filled can be told from the trace. -/
theorem Enumerated.filled {c : Catalogue} {trace : List Event} {outcome : Except Fault DepthTable}
    (h : Enumerated trace outcome) (hagrees : ∀ event ∈ trace, c.Agrees event) :
    ∃ handles entries, c.Filled (.empty DepthTable.depthLimit) handles entries outcome := by
  have hreplay := h.replays []
  rw [List.append_nil] at hreplay
  obtain ⟨events, hfills, hcalls⟩ := (enumerate_ensures_filled c).of_replay hreplay
  have hevents : ∀ event ∈ events, c.Agrees event := by
    intro event hevent
    cases event with
    | note notice => trivial
    | call request answer => exact hagrees _ (hcalls request answer hevent)
  obtain ⟨handles, -, entries, -, hfilled⟩ := hfills hevents
  exact ⟨handles, entries, hfilled⟩

/-- Where a driver's answers about configurations do not change, choosing among them stops at a
reported one whose sizes have no difference; else the table has an entry for exactly the depths in
range that a reported one qualifies for, and each entry is such a one, as it was answered. Each
report registers its configuration once at most, for the one depth that it qualifies for. -/
theorem enumerate_followed {c : Catalogue} {driver : Driver σ} (h : driver.Follows c) (state : σ) :
    let handles : List ConfigHandle := (driver.respond state (.display .configs)).1
    let run := enumerate.run driver state
    ((∃ handle ∈ handles, c.Overflows handle) → run.outcome = .error .subOverflow) ∧
    ((∀ handle ∈ handles, ¬ c.Overflows handle) → ∃ table, run.outcome = .ok table ∧
      c.Covers handles table ∧ c.RegistersOnce handles run.trace) ∧
    ∀ handle depth depth' format format', c.Qualifies handle depth format →
      c.Qualifies handle depth' format' → depth = depth' ∧ format = format' := by
  intro handles run
  let filling := (handles.zipIdx.foldlM consider (.empty DepthTable.depthLimit)).run driver
    (driver.respond state (.display .configs)).2
  have hagrees : ∀ event ∈ filling.trace, c.Agrees event :=
    Catalogue.agrees_of_follows h _ _
  have hfilling := (c.foldlM_consider_ensures (.empty DepthTable.depthLimit) handles.zipIdx).run
    driver (driver.respond state (.display .configs)).2 hagrees
  obtain ⟨entries, hentries, hfilled⟩ := hfilling
  rw [List.zipIdx_map_fst] at hfilled
  have houtcome : run.outcome = filling.outcome := rfl
  have hregistrations : registrations run.trace = entries.filterMap id := hentries
  change c.Filled _ handles entries filling.outcome at hfilled
  rw [houtcome]
  refine ⟨?_, ?_, fun _ _ _ _ _ => Catalogue.Qualifies.unique⟩
  · intro hoverflows
    obtain ⟨handle, hmem, hoverflows⟩ := hoverflows
    cases hresult : filling.outcome with
    | ok table =>
      rw [hresult] at hfilled
      exact absurd hoverflows (hfilled.not_overflows handle hmem)
    | error e =>
      rw [hresult] at hfilled
      rw [hfilled.overflows.1]
  · intro hfits
    cases hresult : filling.outcome with
    | ok table =>
      rw [hresult] at hfilled
      refine ⟨table, rfl, ⟨hfilled.contains_number_iff, ?_⟩, entries, hregistrations,
        hfilled.registers⟩
      intro key stored hstored
      exact (hfilled.get?_eq_of_empty hstored).2
    | error e =>
      rw [hresult] at hfilled
      obtain ⟨-, handle, hmem, hoverflows⟩ := hfilled.overflows
      exact absurd hoverflows (hfits handle hmem)

/-- Four reports: two configurations that qualify, one of them reported twice, and one that is
multi-sampled. -/
theorem enumerate_followed_listing :
    let c : Catalogue := {
      value := fun handle name =>
        match handle.id, name with
        | 0, .bufferSize | 1, .bufferSize => some 32
        | 0, .alphaSize | 1, .alphaSize | 0, .redSize | 1, .redSize => some 8
        | 2, .samples => some 4
        | 2, .bufferSize => none
        | _, .samples | _, .yInverted => none
        | _, _ => some 1
      visualDepth := fun handle => if handle.id = 0 then some 24 else some 32 }
    let listed : List ConfigHandle := [⟨1⟩, ⟨0⟩, ⟨2⟩, ⟨0⟩]
    let driver := (Driver.granting true).listing c listed
    let handles : List ConfigHandle := (driver.respond () (.display .configs)).1
    let run := enumerate.run driver ()
    driver.Follows c ∧ (∀ handle ∈ handles, ¬ c.Overflows handle) ∧
    ((∃ handle ∈ handles, c.Overflows handle) → run.outcome = .error .subOverflow) ∧
    ((∀ handle ∈ handles, ¬ c.Overflows handle) → ∃ table, run.outcome = .ok table ∧
      c.Covers handles table ∧ c.RegistersOnce handles run.trace) ∧
    ∀ handle depth depth' format format', c.Qualifies handle depth format →
      c.Qualifies handle depth' format' → depth = depth' ∧ format = format' := by
  intro c listed driver handles run
  have hfollows : driver.Follows c := Driver.listing_follows _ _ _
  have hfits : ∀ handle ∈ handles, ¬ c.Overflows handle := by
    intro handle hmem hoverflows
    obtain ⟨b, a, t, v, heligible, hexceeds⟩ := hoverflows
    have hhandle : handle = ⟨1⟩ ∨ handle = ⟨0⟩ ∨ handle = ⟨2⟩ ∨ handle = ⟨0⟩ := by
      simpa [handles, driver, listed, Driver.listing] using hmem
    have hsizes (hb : c.value handle .bufferSize = some 32)
        (ha : c.value handle .alphaSize = some 8) : False := by
      cases hb.symm.trans heligible.bufferSize
      cases ha.symm.trans heligible.alphaSize
      exact hexceeds (by decide)
    rcases hhandle with rfl | rfl | rfl | rfl
    · exact hsizes rfl rfl
    · exact hsizes rfl rfl
    · cases heligible.bufferSize
    · exact hsizes rfl rfl
  exact ⟨hfollows, hfits, enumerate_followed hfollows ()⟩

end Selection
end Compositor
