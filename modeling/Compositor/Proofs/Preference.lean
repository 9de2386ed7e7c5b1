import Compositor.FbConfig.Basic

namespace Compositor

namespace RankAttributes

variable {a b : RankAttributes}

/-- The ranks are compared one after another, all but the last one the other way round. -/
theorem compareUsable_eq_compareLex :
    compareUsable =
      compareLex (compareLex (compareLex (compareLex
        (fun a b => compareOn bindRgba b a)
        (fun a b => compareOn doubleBuffer b a))
        (fun a b => compareOn stencilSize b a))
        (fun a b => compareOn depthSize b a))
        (compareOn bindMipmap) := by
  funext a b
  simp only [compareUsable, compareLex, compareOn, ← Std.OrientedCmp.eq_swap]

instance : Std.TransCmp compareUsable := by
  rw [compareUsable_eq_compareLex]
  infer_instance

theorem compareUsable_eq_eq_iff :
    a.compareUsable b = .eq ↔ a.bindRgba = b.bindRgba ∧ a.doubleBuffer = b.doubleBuffer ∧
      a.stencilSize = b.stencilSize ∧ a.depthSize = b.depthSize ∧ a.bindMipmap = b.bindMipmap := by
  simp only [compareUsable, Ordering.then_eq_eq, Ordering.swap_eq_eq, Std.compare_eq_iff_eq,
    and_assoc]

theorem eq_of_tie (hred : a.redSize = b.redSize) (h : a.compareUsable b = .eq) : a = b := by
  cases a
  cases b
  obtain ⟨rfl, rfl, rfl, rfl, rfl⟩ := compareUsable_eq_eq_iff.1 h
  cases hred
  rfl

end RankAttributes

namespace FbConfig

variable {a b c : FbConfig}

theorem isUsable_iff : a.isUsable = true ↔ a.rank.redSize = 8 := decide_eq_true_iff

theorem isUsable_eq_false_iff : a.isUsable = false ↔ a.rank.redSize ≠ 8 := decide_eq_false_iff_not

/-- A stored configuration stays when the candidate is offered. -/
def Withstands (stored candidate : FbConfig) : Prop :=
  rankCandidate (some stored) (some candidate) ≠ .lt

theorem withstands_iff :
    a.Withstands b ↔
      a.isUsable = true ∧ (b.isUsable = true → a.rank.compareUsable b.rank ≠ .lt) := by
  unfold Withstands rankCandidate
  cases ha : a.isUsable <;> cases hb : b.isUsable <;> simp [ha, hb]

theorem Withstands.isUsable (h : a.Withstands b) : a.isUsable = true := (withstands_iff.1 h).1

theorem withstands_self (h : a.isUsable = true) : a.Withstands a := by
  have hself : a.rank.compareUsable a.rank = .eq := Std.ReflCmp.compare_self
  refine withstands_iff.2 ⟨h, fun _ => ?_⟩
  rw [hself]
  exact nofun

theorem Withstands.trans (hab : a.Withstands b) (hbc : b.Withstands c) : a.Withstands c := by
  obtain ⟨ha, hab⟩ := withstands_iff.1 hab
  obtain ⟨hb, hbc⟩ := withstands_iff.1 hbc
  refine withstands_iff.2 ⟨ha, ?_⟩
  intro hc hac
  -- what is better than the first would be better than the second, too
  have hcb : (c.rank.compareUsable b.rank).isLE = true :=
    Std.OrientedCmp.isGE_iff_isLE.1 (Ordering.isGE_iff_ne_lt.2 (hbc hc))
  exact hab hb (Std.TransCmp.lt_of_lt_of_isLE hac hcb)

theorem withstands_of_replaces (ha : a.isUsable = true)
    (h : rankCandidate (some a) (some b) = .lt) : b.Withstands a := by
  cases hb : b.isUsable with
  | false => simp [rankCandidate, ha, hb] at h
  | true =>
    have hab : a.rank.compareUsable b.rank = .lt := by simpa [rankCandidate, ha, hb] using h
    refine withstands_iff.2 ⟨hb, fun _ => ?_⟩
    rw [Std.OrientedCmp.gt_of_lt hab]
    exact nofun

theorem Withstands.rank_eq (hab : a.Withstands b) (hba : b.Withstands a) : a.rank = b.rank := by
  obtain ⟨ha, hab⟩ := withstands_iff.1 hab
  obtain ⟨hb, hba⟩ := withstands_iff.1 hba
  have htie : a.rank.compareUsable b.rank = .eq :=
    Std.OrientedCmp.isLE_antisymm
      (Std.OrientedCmp.isGE_iff_isLE.1 (Ordering.isGE_iff_ne_lt.2 (hba ha)))
      (Std.OrientedCmp.isGE_iff_isLE.1 (Ordering.isGE_iff_ne_lt.2 (hab hb)))
  have hred : a.rank.redSize = b.rank.redSize :=
    (isUsable_iff.1 ha).trans (isUsable_iff.1 hb).symm
  exact RankAttributes.eq_of_tie hred htie

section Ranking

variable {stored candidate : Option FbConfig} {P : FbConfig → Prop}

theorem rankCandidate_of_usable (ha : a.rank.redSize = 8) (hb : b.rank.redSize = 8) :
    rankCandidate (some a) (some b) = a.rank.compareUsable b.rank := by
  simp [rankCandidate, isUsable_iff.2 ha, isUsable_iff.2 hb]

theorem rankCandidate_of_unusable_stored (ha : a.rank.redSize ≠ 8) (b : FbConfig) :
    rankCandidate (some a) (some b) = .lt := by
  simp [rankCandidate, isUsable_eq_false_iff.2 ha]

theorem rankCandidate_of_unusable_candidate (ha : a.rank.redSize = 8) (hb : b.rank.redSize ≠ 8) :
    rankCandidate (some a) (some b) = .gt := by
  simp [rankCandidate, isUsable_iff.2 ha, isUsable_eq_false_iff.2 hb]

/-- How the members of a class of configurations are ranked against each other. -/
def rankWithin (P : FbConfig → Prop) (stored candidate : Subtype P) : Ordering :=
  rankCandidate (some stored.1) (some candidate.1)

theorem rankWithin_eq (h : ∀ c, P c → c.rank.redSize = 8) (a b : Subtype P) :
    rankWithin P a b = a.1.rank.compareUsable b.1.rank :=
  rankCandidate_of_usable (h a a.2) (h b b.2)

theorem transCmp_rankWithin_iff :
    Std.TransCmp (rankWithin P) ↔ ∀ c, P c → c.rank.redSize = 8 := by
  constructor
  · intro _ c hc
    by_cases hred : c.rank.redSize = 8
    · exact hred
    · -- a configuration that is not usable gives way even to itself
      have hlt : rankWithin P ⟨c, hc⟩ ⟨c, hc⟩ = .lt := rankCandidate_of_unusable_stored hred c
      have heq : rankWithin P ⟨c, hc⟩ ⟨c, hc⟩ = .eq := Std.ReflCmp.compare_self
      cases hlt.symm.trans heq
  · intro h
    have horiented : Std.OrientedCmp (rankWithin P) := by
      constructor
      intro a b
      rw [rankWithin_eq h, rankWithin_eq h]
      exact Std.OrientedCmp.eq_swap
    constructor
    intro a b c hab hbc
    rw [rankWithin_eq h] at hab hbc ⊢
    exact Std.TransCmp.isLE_trans hab hbc

/-- Neither of the two can hold a place against the other: both are absent, or both have other than
eight bits to each color. -/
def Unranked (stored candidate : Option FbConfig) : Prop :=
  (stored = none ∧ candidate = none) ∨
    ∃ a b, stored = some a ∧ candidate = some b ∧ a.rank.redSize ≠ 8 ∧ b.rank.redSize ≠ 8

theorem Unranked.symm (h : Unranked stored candidate) : Unranked candidate stored := by
  obtain ⟨hstored, hcandidate⟩ | ⟨a, b, hstored, hcandidate, ha, hb⟩ := h
  · exact .inl ⟨hcandidate, hstored⟩
  · exact .inr ⟨b, a, hcandidate, hstored, hb, ha⟩

/-- Of two that cannot hold a place, each gives way to the other. -/
theorem Unranked.rankCandidate_eq (h : Unranked stored candidate) :
    rankCandidate stored candidate = .lt := by
  obtain ⟨rfl, rfl⟩ | ⟨a, b, rfl, rfl, ha, -⟩ := h
  · rfl
  · exact rankCandidate_of_unusable_stored ha b

theorem rankCandidate_eq_swap (h : ¬ Unranked stored candidate) :
    rankCandidate stored candidate = (rankCandidate candidate stored).swap := by
  cases stored with
  | none =>
    cases candidate with
    | none => exact absurd (.inl ⟨rfl, rfl⟩) h
    | some b => rfl
  | some a =>
    cases candidate with
    | none => rfl
    | some b =>
      by_cases ha : a.rank.redSize = 8
      · by_cases hb : b.rank.redSize = 8
        · rw [rankCandidate_of_usable ha hb, rankCandidate_of_usable hb ha]
          exact Std.OrientedCmp.eq_swap
        · rw [rankCandidate_of_unusable_candidate ha hb, rankCandidate_of_unusable_stored hb a]
          rfl
      · by_cases hb : b.rank.redSize = 8
        · rw [rankCandidate_of_unusable_stored ha b, rankCandidate_of_unusable_candidate hb ha]
          rfl
        · exact absurd (.inr ⟨a, b, rfl, rfl, ha, hb⟩) h

/-- The outcome is reversed with the sides, except between two that cannot hold a place. -/
theorem rankCandidate_ne_swap_iff :
    rankCandidate stored candidate ≠ (rankCandidate candidate stored).swap ↔
      Unranked stored candidate := by
  constructor
  · intro hne
    by_cases h : Unranked stored candidate
    · exact h
    · exact absurd (rankCandidate_eq_swap h) hne
  · intro h
    rw [h.rankCandidate_eq, h.symm.rankCandidate_eq]
    decide

/-- Configurations with eight bits to each color are ranked in a total preorder, in which those tie
that agree on each of the five ranks, and a class with any other configuration in it is not. One
with eight bits wins against any other from either side. An absent entry is always replaced, and an
absent candidate replaces no entry. The outcome is reversed with the sides, unless neither has
eight bits or both are absent: then both give way. -/
theorem rankCandidate_total_on_usable (a b c : FbConfig) (stored candidate : Option FbConfig)
    (P : FbConfig → Prop) :
    (a.rank.redSize = 8 → b.rank.redSize = 8 →
      rankCandidate (some a) (some b) = (rankCandidate (some b) (some a)).swap ∧
      (rankCandidate (some a) (some b) = .eq ↔
        a.rank.bindRgba = b.rank.bindRgba ∧ a.rank.doubleBuffer = b.rank.doubleBuffer ∧
        a.rank.stencilSize = b.rank.stencilSize ∧ a.rank.depthSize = b.rank.depthSize ∧
        a.rank.bindMipmap = b.rank.bindMipmap)) ∧
    (a.rank.redSize = 8 → b.rank.redSize = 8 → c.rank.redSize = 8 →
      (rankCandidate (some a) (some b) = .lt → rankCandidate (some b) (some c) = .lt →
        rankCandidate (some a) (some c) = .lt) ∧
      (rankCandidate (some a) (some b) ≠ .lt → rankCandidate (some b) (some c) ≠ .lt →
        rankCandidate (some a) (some c) ≠ .lt)) ∧
    (a.rank.redSize = 8 → b.rank.redSize ≠ 8 →
      rankCandidate (some b) (some a) = .lt ∧ rankCandidate (some a) (some b) = .gt) ∧
    rankCandidate none candidate = .lt ∧ rankCandidate (some a) none ≠ .lt ∧
    (rankCandidate stored candidate ≠ (rankCandidate candidate stored).swap ↔
      Unranked stored candidate) ∧
    (Unranked stored candidate →
      rankCandidate stored candidate = .lt ∧ rankCandidate candidate stored = .lt) ∧
    (Std.TransCmp (rankWithin P) ↔ ∀ c, P c → c.rank.redSize = 8) := by
  refine ⟨?reversed, ?transitive, ?unusable, rfl, nofun, rankCandidate_ne_swap_iff, ?unranked,
    transCmp_rankWithin_iff⟩
  case reversed =>
    intro ha hb
    rw [rankCandidate_of_usable ha hb, rankCandidate_of_usable hb ha]
    exact ⟨Std.OrientedCmp.eq_swap, RankAttributes.compareUsable_eq_eq_iff⟩
  case transitive =>
    intro ha hb hc
    refine ⟨?_, Withstands.trans⟩
    rw [rankCandidate_of_usable ha hb, rankCandidate_of_usable hb hc,
      rankCandidate_of_usable ha hc]
    exact Std.TransCmp.lt_trans
  case unusable =>
    intro ha hb
    exact ⟨rankCandidate_of_unusable_stored hb a, rankCandidate_of_unusable_candidate ha hb⟩
  case unranked =>
    intro h
    exact ⟨h.rankCandidate_eq, h.symm.rankCandidate_eq⟩

/-- Three configurations, each with a smaller depth buffer than the one before it, and one with ten
bits to each color that has the smallest. -/
theorem rankCandidate_total_on_usable_depths :
    let config (red depth : Int32) : FbConfig :=
      ⟨⟨0⟩, .rgb, ⟨6⟩, false, ⟨red, 0, 0, 0, depth, 0⟩⟩
    rankCandidate (some (config 8 24)) (some (config 8 0)) = .lt ∧
      rankCandidate (some (config 8 24)) (some (config 8 16)) =
        (rankCandidate (some (config 8 16)) (some (config 8 24))).swap ∧
      rankCandidate (some (config 8 24)) (some (config 10 0)) = .gt ∧
      rankCandidate (some (config 10 0)) (some (config 10 0)) = .lt ∧
      ¬ Std.TransCmp (rankWithin fun c => c.rank.redSize = 10) := by
  intro config
  have laws (b c : FbConfig) := rankCandidate_total_on_usable (config 8 24) b c
    (some (config 10 0)) (some (config 10 0)) fun c => c.rank.redSize = 10
  obtain ⟨hreversed, htransitive, -, -, -, -, hunranked, hpreorder⟩ :=
    laws (config 8 16) (config 8 0)
  obtain ⟨-, -, hunusable, -⟩ := laws (config 10 0) (config 8 0)
  refine ⟨(htransitive rfl rfl rfl).1 (by decide) (by decide), (hreversed rfl rfl).1,
    (hunusable rfl (by decide)).2, (hunranked (.inr ⟨_, _, rfl, rfl, by decide, by decide⟩)).1, ?_⟩
  intro htrans
  exact absurd (hpreorder.1 htrans (config 10 0) rfl) (by decide)

end Ranking

end FbConfig
end Compositor
