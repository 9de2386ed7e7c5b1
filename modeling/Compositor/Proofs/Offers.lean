import Mathlib.Data.List.DropRight
import Mathlib.Data.Prod.Lex
import Compositor.Proofs.Reordering

namespace Compositor

/-- The ranks of a configuration, the weightiest first; the lower key is preferred. -/
def RankAttributes.key (rank : RankAttributes) : ℤ ×ₗ ℤ ×ₗ ℤ ×ₗ ℤ ×ₗ ℤ :=
  toLex (rank.bindRgba.toInt, toLex (rank.doubleBuffer.toInt, toLex (rank.stencilSize.toInt,
    toLex (rank.depthSize.toInt, -rank.bindMipmap.toInt))))

theorem RankAttributes.compareUsable_eq_lt_iff {a b : RankAttributes} :
    a.compareUsable b = .lt ↔ b.key < a.key := by
  simp only [compareUsable, Ordering.then_eq_lt, Ordering.then_eq_eq, Ordering.swap_eq_lt,
    Ordering.swap_eq_eq, Std.compare_eq_lt, Std.compare_eq_gt, Std.compare_eq_iff_eq, key,
    Prod.Lex.toLex_lt_toLex, Int32.lt_iff_toInt_lt, ← Int32.toInt_inj]
  omega

namespace FbConfig

/-- Which of a sequence of candidates prevails: the one between `before` and `after`. It is the
first of the best usable ones, or else the last one. -/
inductive Prevails (before : List FbConfig) (kept : FbConfig) (after : List FbConfig) : Prop
  | best (husable : kept.isUsable = true)
    (hbefore : ∀ c ∈ before, c.isUsable = true → kept.rank.key < c.rank.key)
    (hafter : ∀ c ∈ after, c.isUsable = true → kept.rank.key ≤ c.rank.key)
  | last (hbefore : ∀ c ∈ before, c.isUsable = false) (hkept : kept.isUsable = false)
    (hafter : after = [])

/-- What is kept of a sequence of candidates: the one that prevails, if there are any. -/
inductive Keeps : List FbConfig → Option FbConfig → Prop
  | nothing : Keeps [] none
  | kept {before after : List FbConfig} {kept : FbConfig} (h : Prevails before kept after) :
    Keeps (before ++ kept :: after) (some kept)

variable {candidates before middle after : List FbConfig} {stored stored' : Option FbConfig}
  {kept kept' candidate : FbConfig}

theorem rankCandidate_eq_lt_iff :
    rankCandidate (some kept) (some candidate) = .lt ↔ kept.isUsable = false ∨
      candidate.isUsable = true ∧ candidate.rank.key < kept.rank.key := by
  have hstays : kept.Withstands candidate ↔ _ := withstands_iff
  rw [← RankAttributes.compareUsable_eq_lt_iff, ← not_iff_not, not_or, Bool.not_eq_false, not_and]
  exact hstays

/-- Among candidates that are not usable the newest one prevails, whatever it is. -/
theorem prevails_of_unusable (h : ∀ c ∈ before, c.isUsable = false) (candidate : FbConfig) :
    Prevails before candidate [] := by
  cases hcandidate : candidate.isUsable with
  | false => exact .last h hcandidate rfl
  | true =>
    refine .best hcandidate (fun c hc husable => ?_) nofun
    rw [h c hc] at husable
    cases husable

namespace Prevails

theorem key_le (h : Prevails before kept after) (husable : kept.isUsable = true) :
    ∀ c ∈ before ++ kept :: after, c.isUsable = true → kept.rank.key ≤ c.rank.key := by
  intro c hc hcusable
  cases h with
  | best _ hbefore hafter =>
    rcases List.mem_append.1 hc with hc | hc
    · exact (hbefore c hc hcusable).le
    rcases List.mem_cons.1 hc with rfl | hc
    · exact le_rfl
    · exact hafter c hc hcusable
  | last _ hkept _ =>
    rw [hkept] at husable
    cases husable

theorem all_unusable (h : Prevails before kept after) (hkept : kept.isUsable = false) :
    ∀ c ∈ before ++ kept :: after, c.isUsable = false := by
  intro c hc
  cases h with
  | best husable _ _ =>
    rw [hkept] at husable
    cases husable
  | last hbefore _ hafter =>
    subst hafter
    rcases List.mem_append.1 hc with hc | hc
    · exact hbefore c hc
    · rwa [List.mem_singleton.1 hc]

/-- What prevails gives way to a new candidate exactly if that one prevails over all before it. -/
theorem replaces_iff (h : Prevails before kept after) :
    rankCandidate (some kept) (some candidate) = .lt ↔
      Prevails (before ++ kept :: after) candidate [] := by
  have hmem : kept ∈ before ++ kept :: after := List.mem_append_cons_self
  rw [rankCandidate_eq_lt_iff]
  cases hkept : kept.isUsable with
  | false =>
    exact ⟨fun _ => prevails_of_unusable (h.all_unusable hkept) candidate, fun _ => .inl rfl⟩
  | true =>
    constructor
    · rintro (hunusable | ⟨husable, hlt⟩)
      · cases hunusable
      · exact .best husable (fun c hc hcusable => hlt.trans_le (h.key_le hkept c hc hcusable)) nofun
    · intro hcandidate
      cases hcandidate with
      | best husable hbefore _ => exact .inr ⟨husable, hbefore kept hmem hkept⟩
      | last hbefore _ _ =>
        rw [hbefore kept hmem] at hkept
        cases hkept

theorem stays (h : Prevails before kept after)
    (hstays : rankCandidate (some kept) (some candidate) ≠ .lt) :
    Prevails before kept (after ++ [candidate]) := by
  rw [Ne, rankCandidate_eq_lt_iff, not_or, Bool.not_eq_false] at hstays
  obtain ⟨hkept, hstays⟩ := hstays
  cases h with
  | best husable hbefore hafter =>
    refine .best husable hbefore fun c hc hcusable => ?_
    rcases List.mem_append.1 hc with hc | hc
    · exact hafter c hc hcusable
    · rw [List.mem_singleton.1 hc] at hcusable ⊢
      exact not_lt.1 fun hlt => hstays ⟨hcusable, hlt⟩
  | last _ hunusable _ =>
    rw [hunusable] at hkept
    cases hkept

theorem not_later (h : Prevails before kept (middle ++ kept' :: after)) :
    ¬ Prevails (before ++ kept :: middle) kept' after := by
  intro hlater
  cases h with
  | best husable _ hafter =>
    cases hlater with
    | best husable' hbefore' _ =>
      have hlt := hbefore' kept List.mem_append_cons_self husable
      exact (hafter kept' List.mem_append_cons_self husable').not_gt hlt
    | last hbefore' _ _ =>
      rw [hbefore' kept List.mem_append_cons_self] at husable
      cases husable
  | last _ _ hafter => exact absurd hafter (by simp)

end Prevails

namespace Keeps

theorem replaces_iff (h : Keeps candidates stored) :
    rankCandidate stored (some candidate) = .lt ↔ Prevails candidates candidate [] := by
  cases h with
  | nothing => exact ⟨fun _ => prevails_of_unusable (List.forall_mem_nil _) candidate, fun _ => rfl⟩
  | kept h => exact h.replaces_iff

theorem offer (h : Keeps candidates stored) (candidate : FbConfig) :
    Keeps (candidates ++ [candidate])
      (if rankCandidate stored (some candidate) = .lt then some candidate else stored) := by
  split
  · next hreplaces => exact .kept (h.replaces_iff.1 hreplaces)
  · next hstays =>
    cases h with
    | nothing => exact absurd rfl hstays
    | kept h =>
      rw [List.append_assoc, List.cons_append]
      exact .kept (h.stays hstays)

theorem unique (h : Keeps candidates stored) (h' : Keeps candidates stored') :
    stored = stored' := by
  cases h with
  | nothing =>
    generalize hnil : [] = candidates at h'
    cases h' with
    | nothing => rfl
    | kept _ => exact absurd hnil (by simp)
  | @kept before after kept h =>
    generalize hsplit : before ++ kept :: after = candidates at h'
    cases h' with
    | nothing => exact absurd hsplit (by simp)
    | @kept before' after' kept' h' =>
      rcases List.append_eq_append_iff.1 hsplit with ⟨middle, rfl, htail⟩ | ⟨middle, rfl, htail⟩
      · cases middle with
        | nil => rw [(List.cons.inj htail).1]
        | cons first middle =>
          obtain ⟨rfl, rfl⟩ := List.cons.inj htail
          exact absurd h' h.not_later
      · cases middle with
        | nil => rw [(List.cons.inj htail).1]
        | cons first middle =>
          obtain ⟨rfl, rfl⟩ := List.cons.inj htail
          exact absurd h h'.not_later

end Keeps
end FbConfig

namespace DepthTable

inductive Edit where
  | offer (depth : Int32) (candidate : FbConfig)
  | clear

def edit (table : DepthTable) : Edit → DepthTable
  | .offer depth candidate => (table.offer? depth candidate).getD table
  | .clear => table.clear

def Edit.isOffer : Edit → Bool
  | offer .. => true
  | clear => false

/-- What an edit offers for a depth. -/
def Edit.candidate? (key : UInt8) : Edit → Option FbConfig
  | offer depth candidate => if (key.toNat : Int) = depth.toInt then some candidate else none
  | clear => none

/-- The candidates that were offered for a depth since the last clearing, in their order. -/
def offered (key : UInt8) (edits : List Edit) : List FbConfig :=
  (edits.rtakeWhile Edit.isOffer).filterMap (Edit.candidate? key)

variable {table : DepthTable} {edits : List Edit} {depth : Int32} {candidate : FbConfig}
  {key maxDepth : UInt8}

theorem offered_offer (h : (key.toNat : Int) = depth.toInt) :
    offered key (edits ++ [.offer depth candidate]) = offered key edits ++ [candidate] := by
  have hcandidate : Edit.candidate? key (.offer depth candidate) = some candidate := if_pos h
  rw [offered, List.rtakeWhile_concat_pos _ _ _ rfl, List.filterMap_append,
    List.filterMap_cons_some hcandidate]
  rfl

theorem offered_offer_of_ne (h : (key.toNat : Int) ≠ depth.toInt) :
    offered key (edits ++ [.offer depth candidate]) = offered key edits := by
  have hcandidate : Edit.candidate? key (.offer depth candidate) = none := if_neg h
  rw [offered, List.rtakeWhile_concat_pos _ _ _ rfl, List.filterMap_append,
    List.filterMap_cons_none hcandidate]
  exact List.append_nil _

theorem offered_clear : offered key (edits ++ [.clear]) = [] := by
  rw [offered, List.rtakeWhile_concat_neg _ _ _ Bool.false_ne_true]
  rfl

theorem offer?_of_depth? (h : table.depth? depth = some key) :
    table.offer? depth candidate =
      if FbConfig.rankCandidate (table.get? key) (some candidate) = .lt then
        some { table with entries := table.entries.insert key candidate }
      else none := by
  rw [offer?, h, Option.bind_eq_bind, Option.bind_some, guard]
  split <;> rfl

theorem offer?_of_outside (h : table.depth? depth = none) :
    table.offer? depth candidate = none := by
  rw [offer?, h]
  rfl

theorem edit_offer_of_outside (h : table.depth? depth = none) :
    table.edit (.offer depth candidate) = table := by
  rw [edit, offer?_of_outside h]
  rfl

theorem edit_offer_of_depth? (h : table.depth? depth = some key) :
    table.edit (.offer depth candidate) =
      if FbConfig.rankCandidate (table.get? key) (some candidate) = .lt then
        { table with entries := table.entries.insert key candidate }
      else table := by
  rw [edit, offer?_of_depth? h]
  split <;> rfl

theorem get?_edit_offer (h : table.depth? depth = some key) :
    (table.edit (.offer depth candidate)).get? key =
      if FbConfig.rankCandidate (table.get? key) (some candidate) = .lt then some candidate
      else table.get? key := by
  rw [edit_offer_of_depth? h]
  split
  · rw [get?_insert, if_pos rfl]
  · rfl

theorem get?_edit_offer_of_ne (h : table.depth? depth ≠ some key) :
    (table.edit (.offer depth candidate)).get? key = table.get? key := by
  cases hdepth : table.depth? depth with
  | none => rw [edit_offer_of_outside hdepth]
  | some other =>
    have hother : other ≠ key := by
      rintro rfl
      exact h hdepth
    rw [edit_offer_of_depth? hdepth]
    split
    · rw [get?_insert, if_neg hother]
    · rfl

theorem Offered.eq_edit {entry : Option (UInt8 × FbConfig)} {next : DepthTable}
    (h : table.Offered depth candidate entry next) :
    next = table.edit (.offer depth candidate) := by
  cases h with
  | outside hdepth => exact (edit_offer_of_outside hdepth).symm
  | kept hdepth hstored hrank =>
    rw [← hstored] at hrank
    rw [edit_offer_of_depth? hdepth, if_neg hrank]
  | chosen hdepth hrank => rw [edit_offer_of_depth? hdepth, if_pos hrank]

theorem maxDepth_edit (table : DepthTable) (edit : Edit) :
    (table.edit edit).maxDepth = table.maxDepth := by
  cases edit with
  | clear => rfl
  | offer depth candidate =>
    cases hdepth : table.depth? depth with
    | none => rw [edit_offer_of_outside hdepth]
    | some key =>
      rw [edit_offer_of_depth? hdepth]
      split <;> rfl

/-- For each depth in range, the table keeps what prevails of the candidates that were offered for
it since the last clearing; no other depth has an entry. -/
structure Follows (table : DepthTable) (edits : List Edit) : Prop where
  keeps : ∀ key ≤ table.maxDepth, FbConfig.Keeps (offered key edits) (table.get? key)
  beyond : ∀ key, ¬ key ≤ table.maxDepth → table.get? key = none

theorem follows_empty (maxDepth : UInt8) : (empty maxDepth).Follows [] := by
  have hnone (key : UInt8) : (empty maxDepth).get? key = none := Std.TreeMap.getElem?_emptyc
  constructor
  · intro key _
    rw [hnone]
    exact .nothing
  · exact fun key _ => hnone key

theorem Follows.edit (h : table.Follows edits) (edit : Edit) :
    (table.edit edit).Follows (edits ++ [edit]) := by
  cases edit with
  | clear =>
    constructor
    · intro key hkey
      rw [offered_clear]
      exact (follows_empty table.maxDepth).keeps key hkey
    · exact (follows_empty table.maxDepth).beyond
  | offer depth candidate =>
    constructor
    · intro key hkey
      rw [maxDepth_edit] at hkey
      by_cases hdepth : (key.toNat : Int) = depth.toInt
      · rw [offered_offer hdepth, get?_edit_offer (depth?_eq_some_iff.2 ⟨hdepth, hkey⟩)]
        exact (h.keeps key hkey).offer candidate
      · have hother : table.depth? depth ≠ some key := fun he => hdepth (depth?_eq_some_iff.1 he).1
        rw [offered_offer_of_ne hdepth, get?_edit_offer_of_ne hother]
        exact h.keeps key hkey
    · intro key hkey
      rw [maxDepth_edit] at hkey
      have hother : table.depth? depth ≠ some key := fun he => hkey (depth?_eq_some_iff.1 he).2
      rw [get?_edit_offer_of_ne hother]
      exact h.beyond key hkey

theorem follows_edits (maxDepth : UInt8) (edits : List Edit) :
    (edits.foldl edit (empty maxDepth)).Follows edits := by
  induction edits using List.reverseRecOn with
  | nil => exact follows_empty maxDepth
  | append_singleton edits edit ih =>
    rw [List.foldl_append]
    exact ih.edit edit

theorem maxDepth_edits (maxDepth : UInt8) (edits : List Edit) :
    (edits.foldl edit (empty maxDepth)).maxDepth = maxDepth := by
  induction edits using List.reverseRecOn with
  | nil => rfl
  | append_singleton edits edit ih =>
    rw [List.foldl_append]
    exact (maxDepth_edit _ edit).trans ih

theorem Follows.get?_eq_none_iff (h : table.Follows edits) (hkey : key ≤ table.maxDepth) :
    table.get? key = none ↔ offered key edits = [] := by
  have hkeeps := h.keeps key hkey
  constructor
  · intro hnone
    rw [hnone] at hkeeps
    generalize offered key edits = candidates at hkeeps
    cases hkeeps with
    | nothing => rfl
  · intro hnil
    rw [hnil] at hkeeps
    exact hkeeps.unique .nothing

theorem Follows.get?_eq_some_iff {kept : FbConfig} (h : table.Follows edits)
    (hkey : key ≤ table.maxDepth) :
    table.get? key = some kept ↔
      ∃ before after, offered key edits = before ++ kept :: after ∧
        FbConfig.Prevails before kept after := by
  have hkeeps := h.keeps key hkey
  constructor
  · intro hsome
    rw [hsome] at hkeeps
    generalize offered key edits = candidates at hkeeps
    cases hkeeps with
    | kept hprevails => exact ⟨_, _, rfl, hprevails⟩
  · rintro ⟨before, after, hsplit, hprevails⟩
    rw [hsplit] at hkeeps
    exact hkeeps.unique (.kept hprevails)

/-- What an update answers and changes after a sequence of edits. It succeeds if the candidate
prevails, as the last one, over those that were offered for the depth before. -/
structure Updates (table : DepthTable) (edits : List Edit) (depth : Int32) (candidate : FbConfig) :
    Prop where
  succeeds : (table.offer? depth candidate).isSome = true ↔
    ∃ key ≤ table.maxDepth, (key.toNat : Int) = depth.toInt ∧
      FbConfig.Prevails (offered key edits) candidate []
  outside : depth.toInt < 0 ∨ table.maxDepth.toNat < depth.toInt →
    table.offer? depth candidate = none
  performs : (table.offer depth candidate).Returns fun _ next =>
    next = table.edit (.offer depth candidate)
  stores : ∀ changed, table.offer? depth candidate = some changed →
    table.edit (.offer depth candidate) = changed ∧
      ∀ key, (key.toNat : Int) = depth.toInt → changed.get? key = some candidate
  refuses : table.offer? depth candidate = none → table.edit (.offer depth candidate) = table
  spares : ∀ key, (key.toNat : Int) ≠ depth.toInt →
    (table.edit (.offer depth candidate)).get? key = table.get? key

theorem Follows.isSome_offer?_iff (h : table.Follows edits) :
    (table.offer? depth candidate).isSome = true ↔
      ∃ key ≤ table.maxDepth, (key.toNat : Int) = depth.toInt ∧
        FbConfig.Prevails (offered key edits) candidate [] := by
  constructor
  · intro hsome
    cases hdepth : table.depth? depth with
    | none =>
      rw [offer?_of_outside hdepth] at hsome
      cases hsome
    | some key =>
      obtain ⟨hkey, hle⟩ := depth?_eq_some_iff.1 hdepth
      refine ⟨key, hle, hkey, (h.keeps key hle).replaces_iff.1 ?_⟩
      rw [offer?_of_depth? hdepth] at hsome
      by_contra hrank
      rw [if_neg hrank] at hsome
      cases hsome
  · rintro ⟨key, hle, hkey, hprevails⟩
    have hrank := (h.keeps key hle).replaces_iff.2 hprevails
    rw [offer?_of_depth? (depth?_eq_some_iff.2 ⟨hkey, hle⟩), if_pos hrank]
    rfl

theorem get?_of_offer? {changed : DepthTable} (h : table.offer? depth candidate = some changed)
    (hkey : (key.toNat : Int) = depth.toInt) : changed.get? key = some candidate := by
  cases hdepth : table.depth? depth with
  | none =>
    rw [offer?_of_outside hdepth] at h
    cases h
  | some other =>
    have hother : other = key := by
      have hnat := (depth?_eq_some_iff.1 hdepth).1
      exact UInt8.toNat_inj.1 (by omega)
    rw [offer?_of_depth? hdepth] at h
    split at h
    · cases h
      rw [get?_insert, if_pos hother]
    · cases h

theorem Follows.updates (h : table.Follows edits) (depth : Int32) (candidate : FbConfig) :
    table.Updates edits depth candidate := by
  constructor
  case succeeds => exact h.isSome_offer?_iff
  case outside =>
    intro hrange
    apply offer?_of_outside
    rw [Option.eq_none_iff_forall_ne_some]
    intro key hdepth
    obtain ⟨hkey, hle⟩ := depth?_eq_some_iff.1 hdepth
    have hle := UInt8.le_iff_toNat_le.1 hle
    omega
  case performs =>
    apply (table.offer_returns depth candidate).mono
    rintro trace next ⟨entry, -, hoffered⟩
    exact hoffered.eq_edit
  case stores =>
    intro changed hchanged
    constructor
    · rw [DepthTable.edit, hchanged]
      rfl
    · exact fun key hkey => get?_of_offer? hchanged hkey
  case refuses =>
    intro hnone
    rw [DepthTable.edit, hnone]
    rfl
  case spares =>
    intro key hkey
    exact get?_edit_offer_of_ne fun hdepth => hkey (depth?_eq_some_iff.1 hdepth).1

theorem pairwise_depths (table : DepthTable) : table.depths.Pairwise (· < ·) :=
  Std.TreeMap.ordered_keys.imp Std.compare_eq_lt.1

theorem Follows.mem_depths_iff (h : table.Follows edits) :
    key ∈ table.depths ↔ key ≤ table.maxDepth ∧ ∃ kept, table.get? key = some kept := by
  rw [mem_depths, contains_iff]
  constructor
  · rintro ⟨kept, hkept⟩
    refine ⟨?_, kept, hkept⟩
    by_contra hkey
    rw [h.beyond key hkey] at hkept
    cases hkept
  · exact fun hkept => hkept.2

/-- Whatever is offered and whenever it is cleared, a depth table has for every depth in its range
the candidate that prevails among those offered for it since the last clearing. An update succeeds
exactly if its candidate prevails. The depths with an entry are listed in ascending order. -/
theorem kept_edits (maxDepth : UInt8) (edits : List Edit) :
    let table := edits.foldl edit (empty maxDepth)
    table.maxDepth = maxDepth ∧
    (∀ key ≤ maxDepth,
      (table.get? key = none ↔ offered key edits = []) ∧
      ∀ kept, table.get? key = some kept ↔
        ∃ before after, offered key edits = before ++ kept :: after ∧
          FbConfig.Prevails before kept after) ∧
    (∀ depth candidate, table.Updates edits depth candidate) ∧
    table.depths.Pairwise (· < ·) ∧
    (∀ key, key ∈ table.depths ↔ key ≤ maxDepth ∧ ∃ kept, table.get? key = some kept) ∧
    table.size = table.depths.length := by
  intro table
  have hfollows : table.Follows edits := follows_edits maxDepth edits
  have hmax : table.maxDepth = maxDepth := maxDepth_edits maxDepth edits
  refine ⟨hmax, ?_, hfollows.updates, table.pairwise_depths, ?_, Std.TreeMap.length_keys.symm⟩
  · intro key hkey
    rw [← hmax] at hkey
    exact ⟨hfollows.get?_eq_none_iff hkey, fun kept => hfollows.get?_eq_some_iff hkey⟩
  · intro key
    rw [← hmax]
    exact hfollows.mem_depths_iff

theorem kept_edits_mixed :
    let config (handle : Nat) (redSize : Int32) : FbConfig :=
      ⟨⟨handle⟩, .rgb, ⟨1⟩, false, ⟨redSize, 0, 1, 0, 0, 0⟩⟩
    let edits : List Edit :=
      [.offer 24 (config 1 8), .clear, .offer 24 (config 2 10), .offer 24 (config 3 8),
        .offer 40 (config 4 8), .offer 24 (config 5 8), .offer 24 (config 6 10)]
    let table := edits.foldl edit (empty 32)
    table.get? 24 = some (config 3 8) ∧ table.get? 25 = none := by
  intro config edits table
  obtain ⟨-, hkept, -⟩ := kept_edits 32 edits
  have h24 : (24 : UInt8) ≤ 32 := by decide
  have h25 : (25 : UInt8) ≤ 32 := by decide
  have hbest : FbConfig.Prevails [config 2 10] (config 3 8) [config 5 8, config 6 10] :=
    .best rfl (by decide) (by decide)
  exact ⟨((hkept 24 h24).2 _).2 ⟨_, _, rfl, hbest⟩, (hkept 25 h25).1.2 rfl⟩

end DepthTable
end Compositor
