import Compositor.Proofs.Selection

namespace Compositor

/-- What a display answers about each of its configurations. -/
structure Catalogue where
  value : ConfigHandle → FbAttribute → Option Int32
  visualDepth : ConfigHandle → Option Int32

/-- The configurations that a trace reports as chosen, each with its depth. -/
def registrations (trace : List Event) : List (UInt8 × FbConfig) :=
  trace.filterMap fun
    | .note (.configChosen depth chosen _) => some (depth, chosen)
    | _ => none

namespace Catalogue

def isEnabled (c : Catalogue) (handle : ConfigHandle) (name : FbAttribute) : Bool :=
  (c.value handle name).any (· ≠ 0)

/-- A configuration that is not multi-sampled, and all that it takes to place it is answered. -/
structure Eligible (c : Catalogue) (handle : ConfigHandle)
    (bufferSize alphaSize targets visualDepth : Int32) : Prop where
  samples : ∀ samples, c.value handle .samples = some samples → samples ≤ 1
  bufferSize : c.value handle .bufferSize = some bufferSize
  alphaSize : c.value handle .alphaSize = some alphaSize
  targets : c.value handle .bindToTextureTargets = some targets
  visualDepth : c.visualDepth handle = some visualDepth

/-- An eligible configuration whose sizes have no difference that fits. -/
def Overflows (c : Catalogue) (handle : ConfigHandle) : Prop :=
  ∃ b a t v, c.Eligible handle b a t v ∧ ¬ Arithmetic.Fits (b.toInt - a.toInt)

/-- What it takes to be offered for a depth, and in which format. -/
inductive Qualifies (c : Catalogue) (handle : ConfigHandle) (depth : Int) : TextureFormat → Prop
  | rgb {b a t v : Int32} (heligible : c.Eligible handle b a t v)
    (hcolors : b.toInt - a.toInt = depth) (hvisual : v.toInt = depth) (hdepth : depth < 32)
    (hbinds : c.isEnabled handle .bindToTextureRgb = true) : Qualifies c handle depth .rgb
  | rgba {b a t v : Int32} (heligible : c.Eligible handle b a t v)
    (hbuffer : b.toInt = depth) (hvisual : v.toInt = depth) (hdepth : 32 ≤ depth)
    (halpha : a ≠ 0) (hbinds : c.isEnabled handle .bindToTextureRgba = true) :
    Qualifies c handle depth .rgba

/-- Values that are not answered count as zero. -/
def rank (c : Catalogue) (handle : ConfigHandle) : RankAttributes where
  redSize := (c.value handle .redSize).getD 0
  bindRgba := (c.value handle .bindToTextureRgba).getD 0
  doubleBuffer := (c.value handle .doubleBuffer).getD 0
  stencilSize := (c.value handle .stencilSize).getD 0
  depthSize := (c.value handle .depthSize).getD 0
  bindMipmap := (c.value handle .bindToMipmapTexture).getD 0

/-- The configuration as it is stored. An eligible one has its targets answered. -/
def config (c : Catalogue) (handle : ConfigHandle) (format : TextureFormat) : FbConfig where
  handle := handle
  format := format
  targets := ⟨((c.value handle .bindToTextureTargets).getD 0).toUInt32⟩
  yInverted := c.isEnabled handle .yInverted
  rank := c.rank handle

def report (c : Catalogue) (handle : ConfigHandle)
    (bufferSize alphaSize targets visualDepth : Int32) : ConfigReport where
  handle := handle
  bufferSize := bufferSize
  alphaSize := alphaSize
  visualDepth := visualDepth
  targets := targets
  bindsRgb := c.isEnabled handle .bindToTextureRgb
  bindsRgba := 32 ≤ bufferSize ∧ alphaSize ≠ 0 ∧ c.isEnabled handle .bindToTextureRgba
  yInverted := c.isEnabled handle .yInverted
  rank := c.rank handle

def report? (c : Catalogue) (handle : ConfigHandle) : Option ConfigReport :=
  if (c.value handle .samples).any (1 < ·) then none else do
    let bufferSize ← c.value handle .bufferSize
    let alphaSize ← c.value handle .alphaSize
    let targets ← c.value handle .bindToTextureTargets
    let visualDepth ← c.visualDepth handle
    return c.report handle bufferSize alphaSize targets visualDepth

/-- What an event says about a configuration is what the catalogue says. -/
def Agrees (c : Catalogue) : Event → Prop
  | .call (.display (.configAttribute handle name)) answer => answer = c.value handle name
  | .call (.display (.configVisualDepth handle)) answer => answer = c.visualDepth handle
  | _ => True

/-- With answers from the catalogue a program has this value, and chooses nothing. -/
def Reads (c : Catalogue) (p : Program α) (value : α) : Prop :=
  p.Ensures fun trace outcome =>
    (∀ event ∈ trace, c.Agrees event) → outcome = .ok value ∧ registrations trace = []

/-- What comes of considering a configuration: the registration, if there is one, and the table. -/
inductive Considered (c : Catalogue) (table : DepthTable) (handle : ConfigHandle) :
    Option (UInt8 × FbConfig) → Except Fault DepthTable → Prop
  | overflowed (h : c.Overflows handle) : Considered c table handle none (.error .subOverflow)
  | passed (hfits : ¬ c.Overflows handle)
    (hnone : ∀ depth : UInt8, depth ≤ table.maxDepth →
      ∀ format, ¬ c.Qualifies handle depth.toNat format) :
    Considered c table handle none (.ok table)
  | kept {depth : UInt8} {format : TextureFormat} {stored : FbConfig}
    (hfits : ¬ c.Overflows handle) (hqualifies : c.Qualifies handle depth.toNat format)
    (hstored : table.get? depth = some stored)
    (hrank : FbConfig.rankCandidate (some stored) (some (c.config handle format)) ≠ .lt) :
    Considered c table handle none (.ok table)
  | chosen {depth : UInt8} {format : TextureFormat} (hfits : ¬ c.Overflows handle)
    (hdepth : depth ≤ table.maxDepth) (hqualifies : c.Qualifies handle depth.toNat format)
    (hrank : FbConfig.rankCandidate (table.get? depth) (some (c.config handle format)) = .lt) :
    Considered c table handle (some (depth, c.config handle format))
      (.ok { table with entries := table.entries.insert depth (c.config handle format) })

variable {c : Catalogue} {handle : ConfigHandle} {b a t v b' a' t' v' : Int32}

theorem Eligible.unique (h : c.Eligible handle b a t v) (h' : c.Eligible handle b' a' t' v') :
    b = b' ∧ a = a' ∧ t = t' ∧ v = v' := by
  obtain ⟨-, hb, ha, ht, hv⟩ := h
  obtain ⟨-, hb', ha', ht', hv'⟩ := h'
  rw [hb] at hb'
  rw [ha] at ha'
  rw [ht] at ht'
  rw [hv] at hv'
  exact ⟨Option.some.inj hb', Option.some.inj ha', Option.some.inj ht', Option.some.inj hv'⟩

theorem Qualifies.unique {depth depth' : Int} {format format' : TextureFormat}
    (h : c.Qualifies handle depth format) (h' : c.Qualifies handle depth' format') :
    depth = depth' ∧ format = format' := by
  cases h with
  | rgb heligible hcolors hvisual hdepth hbinds =>
    cases h' with
    | rgb heligible' hcolors' hvisual' hdepth' hbinds' =>
      obtain ⟨-, -, -, rfl⟩ := heligible.unique heligible'
      exact ⟨hvisual.symm.trans hvisual', rfl⟩
    | rgba heligible' hbuffer' hvisual' hdepth' halpha' hbinds' =>
      obtain ⟨-, -, -, rfl⟩ := heligible.unique heligible'
      omega
  | rgba heligible hbuffer hvisual hdepth halpha hbinds =>
    cases h' with
    | rgb heligible' hcolors' hvisual' hdepth' hbinds' =>
      obtain ⟨-, -, -, rfl⟩ := heligible.unique heligible'
      omega
    | rgba heligible' hbuffer' hvisual' hdepth' halpha' hbinds' =>
      obtain ⟨-, -, -, rfl⟩ := heligible.unique heligible'
      exact ⟨hvisual.symm.trans hvisual', rfl⟩

theorem Qualifies.unique_toNat {depth depth' : UInt8} {format format' : TextureFormat}
    (h : c.Qualifies handle depth.toNat format) (h' : c.Qualifies handle depth'.toNat format') :
    depth = depth' ∧ format = format' := by
  obtain ⟨hdepth, hformat⟩ := h.unique h'
  exact ⟨UInt8.toNat_inj.1 (Int.ofNat_inj.1 hdepth), hformat⟩

theorem report?_eq_some_iff {report : ConfigReport} :
    c.report? handle = some report ↔
      ∃ b a t v, c.Eligible handle b a t v ∧ report = c.report handle b a t v := by
  constructor
  · intro h
    unfold report? at h
    split at h
    · cases h
    · next hsamples =>
      obtain ⟨b, hb, h⟩ := Option.bind_eq_some_iff.1 h
      obtain ⟨a, ha, h⟩ := Option.bind_eq_some_iff.1 h
      obtain ⟨t, ht, h⟩ := Option.bind_eq_some_iff.1 h
      obtain ⟨v, hv, h⟩ := Option.bind_eq_some_iff.1 h
      cases h
      refine ⟨b, a, t, v, ⟨?_, hb, ha, ht, hv⟩, rfl⟩
      intro samples hanswer
      rw [hanswer, Option.any_some, decide_eq_true_eq] at hsamples
      exact Int32.not_lt.1 hsamples
  · intro h
    obtain ⟨b, a, t, v, ⟨hsamples, hb, ha, ht, hv⟩, rfl⟩ := h
    have hsingle : (c.value handle .samples).any (1 < ·) = false := by
      cases hanswer : c.value handle .samples with
      | none => rfl
      | some samples =>
        rw [Option.any_some, decide_eq_false_iff_not]
        exact Int32.not_lt.2 (hsamples samples hanswer)
    simp [report?, hsingle, hb, ha, ht, hv]

theorem registrations_append (first rest : List Event) :
    registrations (first ++ rest) = registrations first ++ registrations rest :=
  List.filterMap_append

namespace Reads

theorem pure (value : α) : c.Reads (pure value : Program α) value := fun _ => ⟨rfl, rfl⟩

theorem query (handle : ConfigHandle) (name : FbAttribute) :
    c.Reads (Selection.query handle name) (c.value handle name) := by
  intro answer hagrees
  have hanswer : answer = c.value handle name := hagrees _ List.mem_cons_self
  exact ⟨congrArg Except.ok hanswer, rfl⟩

theorem visualDepth (handle : ConfigHandle) :
    c.Reads (Program.display (.configVisualDepth handle)) (c.visualDepth handle) := by
  intro answer hagrees
  have hanswer : answer = c.visualDepth handle := hagrees _ List.mem_cons_self
  exact ⟨congrArg Except.ok hanswer, rfl⟩

/-- What follows a program that only reads starts from what it read. -/
theorem ensures_bind {p : Program α} {value : α} {f : α → Program β}
    {P : List (UInt8 × FbConfig) → Except Fault β → Prop} (h : c.Reads p value)
    (hf : (f value).Ensures fun trace outcome =>
      (∀ event ∈ trace, c.Agrees event) → P (registrations trace) outcome) :
    (p >>= f).Ensures fun trace outcome =>
      (∀ event ∈ trace, c.Agrees event) → P (registrations trace) outcome := by
  apply Program.Ensures.bind h
  · intro trace found hreads
    by_cases hagrees : ∀ event ∈ trace, c.Agrees event
    · obtain ⟨hfound, hquiet⟩ := hreads hagrees
      cases hfound
      apply hf.mono
      intro rest outcome hrest hall
      rw [registrations_append, hquiet, List.nil_append]
      exact hrest (List.forall_mem_append.1 hall).2
    · apply Program.Ensures.of_forall
      intro rest outcome hall
      exact absurd (List.forall_mem_append.1 hall).1 hagrees
  · intro trace e hreads hagrees
    obtain ⟨he, -⟩ := hreads hagrees
    cases he

theorem bind {p : Program α} {value : α} {f : α → Program β} {result : β} (h : c.Reads p value)
    (hf : c.Reads (f value) result) : c.Reads (p >>= f) result :=
  h.ensures_bind (P := fun registered outcome => outcome = .ok result ∧ registered = []) hf

theorem isEnabled (handle : ConfigHandle) (name : FbAttribute) :
    c.Reads (Selection.isEnabled handle name) (c.isEnabled handle name) :=
  (query handle name).bind (pure _)

theorem queryOrZero (handle : ConfigHandle) (name : FbAttribute) :
    c.Reads (Selection.queryOrZero handle name) ((c.value handle name).getD 0) :=
  (query handle name).bind (pure _)

theorem readRank (handle : ConfigHandle) :
    c.Reads (Selection.readRank handle) (c.rank handle) :=
  (queryOrZero handle _).bind <| (queryOrZero handle _).bind <| (queryOrZero handle _).bind <|
    (queryOrZero handle _).bind <| (queryOrZero handle _).bind <| (queryOrZero handle _).bind <|
      pure _

theorem readUses (handle : ConfigHandle) (b a t v : Int32) :
    c.Reads (Selection.readUses handle b a t v) (c.report handle b a t v) := by
  have hrest (bindsRgba : Bool) : c.Reads (do
      let bindsRgb ← Selection.isEnabled handle .bindToTextureRgb
      let yInverted ← Selection.isEnabled handle .yInverted
      let rank ← Selection.readRank handle
      return ({
        handle, bufferSize := b, alphaSize := a, visualDepth := v, targets := t, bindsRgb,
        bindsRgba, yInverted, rank } : ConfigReport))
      { c.report handle b a t v with bindsRgba } :=
    (isEnabled handle _).bind <| (isEnabled handle _).bind <| (readRank handle).bind <| pure _
  have hreport (bindsRgba : Bool) (h : (c.report handle b a t v).bindsRgba = bindsRgba) :
      { c.report handle b a t v with bindsRgba } = c.report handle b a t v := by
    rw [← h]
  unfold Selection.readUses
  by_cases halpha : 32 ≤ b ∧ a ≠ 0
  · have hrgba : (c.report handle b a t v).bindsRgba = c.isEnabled handle .bindToTextureRgba := by
      simp [report, halpha]
    rw [if_pos halpha, ← hreport _ hrgba]
    exact (isEnabled handle .bindToTextureRgba).bind (f := fun bindsRgba => _) (hrest _)
  · have hrgba : (c.report handle b a t v).bindsRgba = false := by
      simp only [report, ← and_assoc, halpha, false_and, decide_false]
    rw [if_neg halpha, ← hreport _ hrgba]
    exact (pure false).bind (f := fun bindsRgba => _) (hrest _)

theorem log {notice : Notice} (hquiet : registrations [.note notice] = []) :
    c.Reads (Program.log notice) () :=
  fun _ => ⟨rfl, hquiet⟩

theorem read (position : Nat) (handle : ConfigHandle) :
    c.Reads (Selection.read position handle) (c.report? handle) := by
  unfold Selection.read report?
  apply (query handle .samples).bind
  split
  · exact pure none
  apply (query handle .bufferSize).bind
  apply (query handle .alphaSize).bind
  cases c.value handle .bufferSize with
  | none => exact (log rfl).bind (pure none)
  | some b =>
    cases c.value handle .alphaSize with
    | none => exact (log rfl).bind (pure none)
    | some a =>
      apply (query handle .bindToTextureTargets).bind
      cases c.value handle .bindToTextureTargets with
      | none => exact (log rfl).bind (pure none)
      | some t =>
        apply (visualDepth handle).bind
        cases c.visualDepth handle with
        | none => exact pure none
        | some v => exact (readUses handle b a t v).bind (pure _)

end Reads

theorem Eligible.qualifies_rgb_iff (h : c.Eligible handle b a t v) {colors : Int32}
    (hcolors : colors.toInt = b.toInt - a.toInt) {depth : Int} :
    c.Qualifies handle depth .rgb ↔
      depth = colors.toInt ∧
        (colors = v ∧ colors < 32 ∧ c.isEnabled handle .bindToTextureRgb = true) := by
  have h32 : (32 : Int32).toInt = 32 := rfl
  constructor
  · intro hqualifies
    cases hqualifies with
    | rgb heligible hdifference hvisual hdepth hbinds =>
      obtain ⟨rfl, rfl, -, rfl⟩ := h.unique heligible
      have hdepth' : colors.toInt = depth := hcolors.trans hdifference
      have hsame : colors = v := Int32.toInt_inj.1 (hdepth'.trans hvisual.symm)
      have hlow : colors < 32 := Int32.lt_iff_toInt_lt.2 (by omega)
      exact ⟨hdepth'.symm, hsame, hlow, hbinds⟩
  · intro hall
    obtain ⟨rfl, rfl, hlow, hbinds⟩ := hall
    have hdepth := Int32.lt_iff_toInt_lt.1 hlow
    exact .rgb h hcolors.symm rfl (by omega) hbinds

theorem Eligible.qualifies_rgba_iff (h : c.Eligible handle b a t v) {depth : Int} :
    c.Qualifies handle depth .rgba ↔
      depth = b.toInt ∧
        (b = v ∧ 32 ≤ b ∧ a ≠ 0 ∧ c.isEnabled handle .bindToTextureRgba = true) := by
  have h32 : (32 : Int32).toInt = 32 := rfl
  constructor
  · intro hqualifies
    cases hqualifies with
    | rgba heligible hbuffer hvisual hdepth halpha hbinds =>
      obtain ⟨rfl, rfl, -, rfl⟩ := h.unique heligible
      have hsame : b = v := Int32.toInt_inj.1 (hbuffer.trans hvisual.symm)
      have hhigh : 32 ≤ b := Int32.le_iff_toInt_le.2 (by omega)
      exact ⟨hbuffer.symm, hsame, hhigh, halpha, hbinds⟩
  · intro hall
    obtain ⟨rfl, rfl, hhigh, halpha, hbinds⟩ := hall
    have hdepth := Int32.le_iff_toInt_le.1 hhigh
    exact .rgba h rfl rfl (by omega) halpha hbinds

theorem Eligible.not_overflows (h : c.Eligible handle b a t v)
    (hfits : Arithmetic.Fits (b.toInt - a.toInt)) : ¬ c.Overflows handle := by
  intro hoverflows
  obtain ⟨b', a', t', v', heligible, hexceeds⟩ := hoverflows
  obtain ⟨rfl, rfl, -, -⟩ := h.unique heligible
  exact hexceeds hfits

theorem Eligible.toConfig_eq (h : c.Eligible handle b a t v) (format : TextureFormat) :
    (c.report handle b a t v).toConfig format = c.config handle format := by
  simp [ConfigReport.toConfig, config, report, h.targets]

end Catalogue

namespace DepthTable

theorem toNat_of_depth {depth : Int32} (hlower : 0 ≤ depth.toInt) (hupper : depth.toInt ≤ 255) :
    (depth.toUInt32.toUInt8.toNat : Int) = depth.toInt := by
  have hcases := depth.toBitVec.toInt_eq_toNat_cond
  have hint : depth.toBitVec.toInt = depth.toInt := rfl
  have hword : depth.toBitVec.toNat = depth.toUInt32.toNat := rfl
  rw [UInt32.toNat_toUInt8]
  split at hcases <;> omega

theorem depth?_eq_some_iff {table : DepthTable} {depth : Int32} {key : UInt8} :
    table.depth? depth = some key ↔ (key.toNat : Int) = depth.toInt ∧ key ≤ table.maxDepth := by
  have h0 : (0 : Int32).toInt = 0 := rfl
  have hmax := table.maxDepth.toNat_lt
  constructor
  · intro h
    unfold depth? at h
    split at h
    · next hrange =>
      cases h
      have hlower := Int32.le_iff_toInt_le.1 hrange.1
      have hkey := toNat_of_depth (by omega) (by omega : depth.toInt ≤ 255)
      exact ⟨hkey, UInt8.le_iff_toNat_le.2 (by omega)⟩
    · cases h
  · intro h
    obtain ⟨hkey, hle⟩ := h
    have hupper := UInt8.le_iff_toNat_le.1 hle
    have hrange : 0 ≤ depth ∧ depth.toInt ≤ table.maxDepth.toNat :=
      ⟨Int32.le_iff_toInt_le.2 (by omega), by omega⟩
    have hword := toNat_of_depth (by omega) (by omega : depth.toInt ≤ 255)
    rw [depth?, if_pos hrange]
    exact congrArg some (UInt8.toNat_inj.1 (by omega))

/-- What comes of offering a candidate: what is chosen, if it is, and the table. -/
inductive Offered (table : DepthTable) (depth : Int32) (candidate : FbConfig) :
    Option (UInt8 × FbConfig) → DepthTable → Prop
  | outside (hkey : table.depth? depth = none) : Offered table depth candidate none table
  | kept {key : UInt8} {stored : FbConfig} (hkey : table.depth? depth = some key)
    (hstored : table.get? key = some stored)
    (hrank : FbConfig.rankCandidate (some stored) (some candidate) ≠ .lt) :
    Offered table depth candidate none table
  | chosen {key : UInt8} (hkey : table.depth? depth = some key)
    (hrank : FbConfig.rankCandidate (table.get? key) (some candidate) = .lt) :
    Offered table depth candidate (some (key, candidate))
      { table with entries := table.entries.insert key candidate }

theorem offer_returns (table : DepthTable) (depth : Int32) (candidate : FbConfig) :
    (table.offer depth candidate).Returns fun trace next =>
      ∃ entry, registrations trace = entry.toList ∧ table.Offered depth candidate entry next := by
  unfold offer
  cases hkey : table.depth? depth with
  | none => exact ⟨table, rfl, none, rfl, .outside hkey⟩
  | some key =>
    by_cases hrank : FbConfig.rankCandidate (table.get? key) (some candidate) = .lt
    · have hchanged : table.offer? depth candidate =
          some { table with entries := table.entries.insert key candidate } := by
        rw [offer?, hkey, Option.bind_eq_bind, Option.bind_some, guard, if_pos hrank]
        rfl
      rw [hchanged]
      exact ⟨_, rfl, _, rfl, .chosen hkey hrank⟩
    · have hchanged : table.offer? depth candidate = none := by
        rw [offer?, hkey, Option.bind_eq_bind, Option.bind_some, guard, if_neg hrank]
        rfl
      rw [hchanged]
      cases hstored : table.get? key with
      | none =>
        rw [hstored] at hrank
        exact absurd rfl hrank
      | some stored =>
        rw [hstored] at hrank
        exact ⟨table, rfl, none, rfl, .kept hkey hstored hrank⟩

theorem Offered.considered {table next : DepthTable} {depth : Int32} {c : Catalogue}
    {handle : ConfigHandle} {format : TextureFormat} {entry : Option (UInt8 × FbConfig)}
    (h : table.Offered depth (c.config handle format) entry next)
    (hfits : ¬ c.Overflows handle) (hqualifies : c.Qualifies handle depth.toInt format) :
    c.Considered table handle entry (.ok next) := by
  cases h with
  | outside hkey =>
    refine .passed hfits ?_
    intro key hle format' hother
    have hsame := (hother.unique hqualifies).1
    rw [depth?_eq_some_iff.2 ⟨hsame, hle⟩] at hkey
    cases hkey
  | kept hkey hstored hrank =>
    rw [← (depth?_eq_some_iff.1 hkey).1] at hqualifies
    exact .kept hfits hqualifies hstored hrank
  | chosen hkey hrank =>
    rw [← (depth?_eq_some_iff.1 hkey).1] at hqualifies
    exact .chosen hfits (depth?_eq_some_iff.1 hkey).2 hqualifies hrank

end DepthTable

namespace Catalogue

variable {c : Catalogue} {handle : ConfigHandle} {b a t v : Int32}

/-- Where a configuration is offered without alpha, it is not offered with alpha: both would take
one visual depth on either side of 32. -/
theorem Eligible.register_eq (h : c.Eligible handle b a t v) (table : DepthTable) {colors : Int32}
    (hsub : Arithmetic.sub b a = .ok colors) :
    (c.report handle b a t v).register table =
      if colors = v ∧ colors < 32 ∧ c.isEnabled handle .bindToTextureRgb = true then
        table.offer colors (c.config handle .rgb)
      else if b = v ∧ 32 ≤ b ∧ a ≠ 0 ∧ c.isEnabled handle .bindToTextureRgba = true then
        table.offer b (c.config handle .rgba)
      else pure table := by
  have hcolors := Arithmetic.sub_eq_ok_iff.1 hsub
  have hregister : (c.report handle b a t v).register table =
      (Program.ofExcept (Arithmetic.sub b a) >>= fun colors => do
        let table ←
          if colors = v ∧ colors < 32 ∧ c.isEnabled handle .bindToTextureRgb = true then
            table.offer colors ((c.report handle b a t v).toConfig .rgb)
          else pure table
        if b = v ∧ (c.report handle b a t v).bindsRgba = true then
          table.offer b ((c.report handle b a t v).toConfig .rgba)
        else return table) := rfl
  have hbinds : (b = v ∧ (c.report handle b a t v).bindsRgba = true) =
      (b = v ∧ 32 ≤ b ∧ a ≠ 0 ∧ c.isEnabled handle .bindToTextureRgba = true) :=
    congrArg (b = v ∧ ·) (decide_eq_true_eq)
  simp only [hregister, hsub, hbinds, h.toConfig_eq]
  change (if _ then _ >>= _ else _) = _
  by_cases hrgb : colors = v ∧ colors < 32 ∧ c.isEnabled handle .bindToTextureRgb = true
  · have hwithout := (h.qualifies_rgb_iff hcolors).2 ⟨rfl, hrgb⟩
    have hrgba : ¬ (b = v ∧ 32 ≤ b ∧ a ≠ 0 ∧ c.isEnabled handle .bindToTextureRgba = true) := by
      intro hall
      have hwith := h.qualifies_rgba_iff.2 ⟨rfl, hall⟩
      cases (hwith.unique hwithout).2
    simp only [if_pos hrgb, if_neg hrgba]
    exact bind_pure _
  · simp only [if_neg hrgb]
    rfl

theorem Eligible.register_ensures (h : c.Eligible handle b a t v) (table : DepthTable) :
    ((c.report handle b a t v).register table).Ensures fun trace outcome =>
      ∃ entry, registrations trace = entry.toList ∧ c.Considered table handle entry outcome := by
  cases hsub : Arithmetic.sub b a with
  | error e =>
    obtain ⟨rfl, hexceeds⟩ := Arithmetic.sub_eq_error_iff.1 hsub
    have hoverflows : c.Overflows handle := ⟨b, a, t, v, h, hexceeds⟩
    simp only [ConfigReport.register, report, hsub]
    exact ⟨none, rfl, .overflowed hoverflows⟩
  | ok colors =>
    have hcolors := Arithmetic.sub_eq_ok_iff.1 hsub
    have hfits : ¬ c.Overflows handle := by
      apply h.not_overflows
      rw [← hcolors]
      exact Arithmetic.fits_toInt colors
    have hoffered {depth : Int32} {format : TextureFormat}
        (hqualifies : c.Qualifies handle depth.toInt format) :
        (table.offer depth (c.config handle format)).Ensures fun trace outcome =>
          ∃ entry, registrations trace = entry.toList ∧
            c.Considered table handle entry outcome := by
      apply (table.offer_returns depth _).ensures
      intro trace next hoffer
      obtain ⟨entry, hentry, hoffered⟩ := hoffer
      exact ⟨entry, hentry, hoffered.considered hfits hqualifies⟩
    rw [h.register_eq table hsub]
    split
    · next hrgb => exact hoffered ((h.qualifies_rgb_iff hcolors).2 ⟨rfl, hrgb⟩)
    · next hrgb =>
      split
      · next hrgba => exact hoffered (h.qualifies_rgba_iff.2 ⟨rfl, hrgba⟩)
      · next hrgba =>
        refine ⟨none, rfl, .passed hfits ?_⟩
        intro depth hle format hqualifies
        cases format with
        | none => cases hqualifies
        | rgb => exact hrgb ((h.qualifies_rgb_iff hcolors).1 hqualifies).2
        | rgba => exact hrgba (h.qualifies_rgba_iff.1 hqualifies).2

theorem not_eligible_of_report? (h : c.report? handle = none) : ¬ c.Eligible handle b a t v := by
  intro heligible
  have hsome := report?_eq_some_iff.2 ⟨b, a, t, v, heligible, rfl⟩
  rw [h] at hsome
  cases hsome

theorem Qualifies.exists_eligible {depth : Int} {format : TextureFormat}
    (h : c.Qualifies handle depth format) : ∃ b a t v, c.Eligible handle b a t v := by
  cases h with
  | rgb heligible hcolors hvisual hdepth hbinds => exact ⟨_, _, _, _, heligible⟩
  | rgba heligible hbuffer hvisual hdepth halpha hbinds => exact ⟨_, _, _, _, heligible⟩

/-- With answers from the catalogue, considering a configuration offers it where it qualifies. -/
theorem consider_ensures (c : Catalogue) (table : DepthTable) (handle : ConfigHandle)
    (position : Nat) :
    (Selection.consider table (handle, position)).Ensures fun trace outcome =>
      (∀ event ∈ trace, c.Agrees event) →
        ∃ entry, registrations trace = entry.toList ∧ c.Considered table handle entry outcome := by
  apply (Reads.read position handle).ensures_bind
    (P := fun registered outcome => ∃ entry, registered = entry.toList ∧
      c.Considered table handle entry outcome)
  cases hreport : c.report? handle with
  | none =>
    have hfits : ¬ c.Overflows handle := by
      intro hoverflows
      obtain ⟨b, a, t, v, heligible, -⟩ := hoverflows
      exact not_eligible_of_report? hreport heligible
    refine fun _ => ⟨none, rfl, .passed hfits ?_⟩
    intro depth hle format hqualifies
    obtain ⟨b, a, t, v, heligible⟩ := hqualifies.exists_eligible
    exact not_eligible_of_report? hreport heligible
  | some report =>
    obtain ⟨b, a, t, v, heligible, rfl⟩ := report?_eq_some_iff.1 hreport
    apply (heligible.register_ensures table).mono
    exact fun trace outcome hconsidered _ => hconsidered

end Catalogue
end Compositor
