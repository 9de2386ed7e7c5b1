import Compositor.Proofs.SettingsFile

namespace Compositor

theorem SwapMethod.ofName?_eq_some_iff {name : String} {method : SwapMethod} :
    ofName? name = some method ↔ name = method.name := by
  constructor
  · intro h
    simpa [eq_comm] using List.find?_some h
  · rintro rfl
    cases method <;> rfl

namespace Settings

open Host (ReadError)
open Toml (Value Table)

/-- The names of the fields in a section; no other section has any. -/
def fieldNames : String → List String
  | "glx" => ["no_stencil", "swap_method", "max_buffer_age", "debug_context"]
  | "general" => ["debug", "use_overlay"]
  | _ => []

def headings : List String := ["glx", "general"]

/-- What a table has under a name, if there is a table. -/
def field? : Option Value → String → Option Value
  | some (.table t), name => t.get? name
  | _, _ => none

/-- What a document has under a name in one of its tables. -/
def given? (root : Table Value) (heading name : String) : Option Value :=
  field? (root.get? heading) name

/-- The sections that a document has are tables. -/
def HasSections (root : Table Value) : Prop :=
  ∀ heading ∈ headings, ∀ value, root.get? heading = some value → ∃ t, value = .table t

/-- The sections are tables, and the swap method is none. -/
structure Sectioned (root : Table Value) : Prop where
  sections : HasSections root
  swapMethod : ∀ t, given? root "glx" "swap_method" ≠ some (.table t)

/-- A field that is given has the value that it is given, and else it has the default. -/
def Holds (form : α → Value) (default : α) (given : Option Value) (a : α) : Prop :=
  given = none ∧ a = default ∨ given = some (form a)

/-- A field that is given has the right type. -/
def Fits (form : α → Value) (given : Option Value) : Prop :=
  ∀ value, given = some value → ∃ a, value = form a

def methodForm (method : SwapMethod) : Value := .string method.name

def ageForm (age : UInt32) : Value := .integer age.toNat

/-- Settings as a document gives them. -/
structure Reads (root : Table Value) (settings : Settings) : Prop where
  noStencil : Holds .boolean false (given? root "glx" "no_stencil") settings.glx.noStencil
  swapMethod :
    Holds methodForm .undefined (given? root "glx" "swap_method") settings.glx.swapMethod
  maxBufferAge : Holds ageForm 5 (given? root "glx" "max_buffer_age") settings.glx.maxBufferAge
  debugContext : Holds .boolean false (given? root "glx" "debug_context") settings.glx.debugContext
  debug : Holds .boolean false (given? root "general" "debug") settings.general.debug
  useOverlay : Holds .boolean true (given? root "general" "use_overlay") settings.general.useOverlay

/-- Every field that a document gives has the right type. -/
structure WellTyped (root : Table Value) : Prop where
  noStencil : Fits .boolean (given? root "glx" "no_stencil")
  swapMethod : Fits methodForm (given? root "glx" "swap_method")
  maxBufferAge : Fits ageForm (given? root "glx" "max_buffer_age")
  debugContext : Fits .boolean (given? root "glx" "debug_context")
  debug : Fits .boolean (given? root "general" "debug")
  useOverlay : Fits .boolean (given? root "general" "use_overlay")

theorem boolean?_eq_some_iff {value : Value} {b : Bool} :
    boolean? value = some b ↔ value = .boolean b := by
  cases value <;> simp [boolean?]

theorem swapMethod?_eq_some_iff {value : Value} {method : SwapMethod}
    (h : ∀ t, value ≠ .table t) : swapMethod? value = some method ↔ value = methodForm method := by
  cases value with
  | table t => exact absurd rfl (h t)
  | string name => simp [swapMethod?, methodForm, SwapMethod.ofName?_eq_some_iff]
  | _ => simp [swapMethod?, methodForm]

theorem uint32?_eq_some_iff {value : Value} {n : UInt32} :
    uint32? value = some n ↔ value = ageForm n := by
  cases value with
  | integer i =>
    have hlt : n.toNat < UInt32.size := n.toNat_lt_size
    simp only [uint32?, ageForm, Value.integer.injEq]
    constructor
    · intro h
      split at h
      · next hrange =>
        cases h
        rw [UInt32.toNat_ofNat_of_lt' hrange.2]
        omega
      · cases h
    · rintro rfl
      simp [hlt]
  | _ => simp [uint32?, ageForm]

theorem orDefault_eq_some_iff {decode : Value → Option α} {form : α → Value} {default a : α}
    {given : Option Value}
    (h : ∀ value, given = some value → (decode value = some a ↔ value = form a)) :
    orDefault decode default given = some a ↔ Holds form default given a := by
  cases given with
  | none => simp [orDefault, Holds, eq_comm]
  | some value => simpa [orDefault, Holds] using h value rfl

theorem fits_iff {form : α → Value} {default : α} {given : Option Value} :
    Fits form given ↔ ∃ a, Holds form default given a := by
  cases given with
  | none => simp [Fits, Holds]
  | some value => simp [Fits, Holds]

variable {root : Table Value} {settings : Settings}

theorem wellTyped_iff : WellTyped root ↔ ∃ settings, Reads root settings := by
  constructor
  · rintro ⟨h₁, h₂, h₃, h₄, h₅, h₆⟩
    obtain ⟨noStencil, h₁⟩ := fits_iff.1 h₁
    obtain ⟨swapMethod, h₂⟩ := fits_iff.1 h₂
    obtain ⟨maxBufferAge, h₃⟩ := fits_iff.1 h₃
    obtain ⟨debugContext, h₄⟩ := fits_iff.1 h₄
    obtain ⟨debug, h₅⟩ := fits_iff.1 h₅
    obtain ⟨useOverlay, h₆⟩ := fits_iff.1 h₆
    exact ⟨⟨⟨noStencil, swapMethod, maxBufferAge, debugContext⟩, ⟨debug, useOverlay⟩⟩,
      h₁, h₂, h₃, h₄, h₅, h₆⟩
  · rintro ⟨settings, h⟩
    exact ⟨fits_iff.2 ⟨_, h.noStencil⟩, fits_iff.2 ⟨_, h.swapMethod⟩,
      fits_iff.2 ⟨_, h.maxBufferAge⟩, fits_iff.2 ⟨_, h.debugContext⟩, fits_iff.2 ⟨_, h.debug⟩,
      fits_iff.2 ⟨_, h.useOverlay⟩⟩

/-- A section that is missing is read like one without fields. -/
theorem orDefault_section (decode : Fields → Option α) {default : α}
    (hdefault : decode (fun _ _ => none) = some default) (hsections : HasSections root)
    {heading : String} (hheading : heading ∈ headings) :
    orDefault (fields? · >>= decode) default (root.get? heading) =
      decode fun _ name => given? root heading name := by
  unfold given?
  cases hvalue : root.get? heading with
  | none => exact hdefault.symm
  | some value =>
    obtain ⟨t, rfl⟩ := hsections heading hheading value hvalue
    rfl

theorem ofTable?_eq_some_iff (h : Sectioned root) :
    ofTable? root = some settings ↔ Reads root settings := by
  have hglx : orDefault (fields? · >>= glx?) {} (root.get? "glx") =
      glx? fun _ name => given? root "glx" name := orDefault_section glx? rfl h.sections (by decide)
  have hgeneral : orDefault (fields? · >>= general?) {} (root.get? "general") =
      general? fun _ name => given? root "general" name :=
    orDefault_section general? rfl h.sections (by decide)
  have hboolean {default b : Bool} {given : Option Value} :
      orDefault boolean? default given = some b ↔ Holds .boolean default given b :=
    orDefault_eq_some_iff fun _ _ => boolean?_eq_some_iff
  have hage {default n : UInt32} {given : Option Value} :
      orDefault uint32? default given = some n ↔ Holds ageForm default given n :=
    orDefault_eq_some_iff fun _ _ => uint32?_eq_some_iff
  have hmethod {default method : SwapMethod} :
      orDefault swapMethod? default (given? root "glx" "swap_method") = some method ↔
        Holds methodForm default (given? root "glx" "swap_method") method :=
    orDefault_eq_some_iff fun value hvalue =>
      swapMethod?_eq_some_iff fun t ht => h.swapMethod t (ht ▸ hvalue)
  obtain ⟨⟨noStencil, swapMethod, maxBufferAge, debugContext⟩, ⟨debug, useOverlay⟩⟩ := settings
  rw [ofTable?, hglx, hgeneral]
  simp only [glx?, general?, Option.bind_eq_bind, Option.bind_eq_some_iff,
    Option.pure_def, Option.some.injEq, hboolean, hage, hmethod]
  constructor
  · rintro ⟨_, ⟨_, h₁, _, h₂, _, h₃, _, h₄, rfl⟩, _, ⟨_, h₅, _, h₆, rfl⟩, hsettings⟩
    cases hsettings
    exact ⟨h₁, h₂, h₃, h₄, h₅, h₆⟩
  · rintro ⟨h₁, h₂, h₃, h₄, h₅, h₆⟩
    exact ⟨_, ⟨_, h₁, _, h₂, _, h₃, _, h₄, rfl⟩, _, ⟨_, h₅, _, h₆, rfl⟩, rfl⟩

/-- The age that a document asks for, which is 5 if it does not give any. -/
def AsksFor (root : Table Value) (age : UInt32) : Prop :=
  Holds ageForm 5 (given? root "glx" "max_buffer_age") age

def InRange (age : UInt32) : Prop := 1 ≤ age.toNat ∧ age.toNat ≤ 16

/-- What loading a document answers: its settings if all fields have the right types and the age is
in range, and else what is wrong with them. -/
structure Answers (root : Table Value) (path : String) (answer : Except SettingsError Settings) :
    Prop where
  eq_ok_iff : ∀ settings, answer = .ok settings ↔
    Reads root settings ∧ InRange settings.glx.maxBufferAge
  succeeds_iff : (∃ settings, answer = .ok settings) ↔
    WellTyped root ∧ ∃ age, AsksFor root age ∧ InRange age
  malformed_iff : answer = .error (.malformed path) ↔ ¬ WellTyped root
  ageOutOfRange_iff : ∀ age, answer = .error (.ageOutOfRange age) ↔
    WellTyped root ∧ AsksFor root age ∧ ¬ InRange age

theorem AsksFor.eq {age other : UInt32} (h : AsksFor root age) (hother : AsksFor root other) :
    age = other := by
  have hdecode {n : UInt32} : AsksFor root n ↔
      orDefault uint32? 5 (given? root "glx" "max_buffer_age") = some n :=
    (orDefault_eq_some_iff fun _ _ => uint32?_eq_some_iff).symm
  rw [hdecode] at h hother
  rwa [h, Option.some.injEq] at hother

theorem answers_of_not_wellTyped (path : String) (h : ¬ WellTyped root) :
    Answers root path (.error (.malformed path)) where
  eq_ok_iff settings := ⟨nofun, fun hreads => absurd (wellTyped_iff.2 ⟨settings, hreads.1⟩) h⟩
  succeeds_iff := ⟨nofun, fun hwell => absurd hwell.1 h⟩
  malformed_iff := ⟨fun _ => h, fun _ => rfl⟩
  ageOutOfRange_iff _ := ⟨nofun, fun hwell => absurd hwell.1 h⟩

theorem answers_of_inRange (path : String) (h : Sectioned root) (hreads : Reads root settings)
    (hrange : InRange settings.glx.maxBufferAge) : Answers root path (.ok settings) where
  eq_ok_iff other := by
    constructor
    · rintro ⟨⟩
      exact ⟨hreads, hrange⟩
    · rintro ⟨hother, -⟩
      rw [← ofTable?_eq_some_iff h] at hreads hother
      rw [hreads, Option.some.injEq] at hother
      rw [hother]
  succeeds_iff := by
    refine ⟨fun _ => ⟨wellTyped_iff.2 ⟨settings, hreads⟩, ?_⟩, fun _ => ⟨settings, rfl⟩⟩
    exact ⟨settings.glx.maxBufferAge, hreads.maxBufferAge, hrange⟩
  malformed_iff := ⟨nofun, fun hill => absurd (wellTyped_iff.2 ⟨settings, hreads⟩) hill⟩
  ageOutOfRange_iff age := by
    refine ⟨nofun, ?_⟩
    rintro ⟨-, hage, hnot⟩
    have heq : settings.glx.maxBufferAge = age := AsksFor.eq hreads.maxBufferAge hage
    exact absurd (heq ▸ hrange) hnot

theorem answers_of_not_inRange (path : String) (hreads : Reads root settings)
    (hrange : ¬ InRange settings.glx.maxBufferAge) :
    Answers root path (.error (.ageOutOfRange settings.glx.maxBufferAge)) where
  eq_ok_iff other := by
    refine ⟨nofun, ?_⟩
    rintro ⟨hother, hin⟩
    exact absurd (AsksFor.eq hother.maxBufferAge hreads.maxBufferAge ▸ hin) hrange
  succeeds_iff := by
    refine ⟨nofun, ?_⟩
    rintro ⟨-, age, hage, hin⟩
    exact absurd (AsksFor.eq hage hreads.maxBufferAge ▸ hin) hrange
  malformed_iff := ⟨nofun, fun hill => absurd (wellTyped_iff.2 ⟨settings, hreads⟩) hill⟩
  ageOutOfRange_iff age := by
    constructor
    · rintro ⟨⟩
      exact ⟨wellTyped_iff.2 ⟨settings, hreads⟩, hreads.maxBufferAge, hrange⟩
    · rintro ⟨-, hage, -⟩
      rw [AsksFor.eq hage hreads.maxBufferAge]

theorem answers_load {text : String} (hparse : Toml.parse? text = some root)
    (hsectioned : Sectioned root) {home : Option String} {path expanded : String}
    (hpath : Host.Path.expandHome home path = some expanded)
    {read : String → Except ReadError ByteArray} (hread : read expanded = .ok text.toUTF8) :
    Answers root expanded (load home read path) := by
  have htext : ofText? text = ofTable? root := by
    rw [ofText?, hparse]
    rfl
  rw [load_of_expandHome hpath, hread, ofContent_toUTF8, htext]
  by_cases hwell : WellTyped root
  · obtain ⟨settings, hreads⟩ := wellTyped_iff.1 hwell
    rw [(ofTable?_eq_some_iff hsectioned).2 hreads]
    dsimp only
    split
    · next hrange => exact answers_of_inRange expanded hsectioned hreads hrange
    · next hrange => exact answers_of_not_inRange expanded hreads hrange
  · have hnone : ofTable? root = none := by
      rw [Option.eq_none_iff_forall_ne_some]
      intro settings hsettings
      exact hwell (wellTyped_iff.2 ⟨settings, (ofTable?_eq_some_iff hsectioned).1 hsettings⟩)
    rw [hnone]
    exact answers_of_not_wellTyped expanded hwell

end Settings
end Compositor
