import Mathlib.Tactic.SplitIfs
import Compositor.Settings.Load

namespace Compositor.Settings

open Host (ReadError)

variable {path : String} {settings : Settings}

theorem isValid_iff (settings : Settings) :
    settings.isValid = true ↔ 1 ≤ settings.glx.maxBufferAge.toNat ∧
      settings.glx.maxBufferAge.toNat ≤ 16 := by
  have hzero : settings.glx.maxBufferAge = 0 ↔ settings.glx.maxBufferAge.toNat = 0 := by
    rw [← UInt32.toNat_inj]
    rfl
  simp only [isValid, maxBufferAgeLimit, ne_eq, hzero, UInt32.le_iff_toNat_le, Bool.and_eq_true,
    decide_eq_true_eq]
  change ¬ _ ∧ _ ≤ 16 ↔ _
  omega

theorem isValid_default : ({} : Settings).isValid = true := by decide

theorem ofContent_toUTF8 (path text : String) :
    ofContent path (.ok text.toUTF8) =
      match ofText? text with
      | none => .error (.malformed path)
      | some settings =>
        if 1 ≤ settings.glx.maxBufferAge.toNat ∧ settings.glx.maxBufferAge.toNat ≤ 16 then
          .ok settings
        else .error (.ageOutOfRange settings.glx.maxBufferAge) := by
  have htext : String.fromUTF8? text.toUTF8 = some text := by
    unfold String.fromUTF8?
    rw [String.toUTF8_eq_toByteArray, dif_pos text.isValidUTF8]
    rfl
  simp only [ofContent, Except.mapError, bind, Except.bind, htext]
  cases ofText? text with
  | none => rfl
  | some settings =>
    simp only [validate, isValid_iff]
    split_ifs
    · rfl
    · rfl

/-- What becomes of the settings in a file, by what reading the file has given. -/
inductive Found (path : String) :
    Except ReadError ByteArray → Except SettingsError Settings → Prop
  | unreadable (cause : ReadError) :
    Found path (.error cause) (.error (.unreadable path cause))
  | notUtf8 {bytes : ByteArray} (hbytes : String.fromUTF8? bytes = none) :
    Found path (.ok bytes) (.error (.unreadable path .notUtf8))
  | malformed {bytes : ByteArray} {text : String} (hbytes : String.fromUTF8? bytes = some text)
    (htext : ofText? text = none) :
    Found path (.ok bytes) (.error (.malformed path))
  | outOfRange {bytes : ByteArray} {text : String} {settings : Settings}
    (hbytes : String.fromUTF8? bytes = some text) (htext : ofText? text = some settings)
    (hrange : settings.isValid = false) :
    Found path (.ok bytes) (.error (.ageOutOfRange settings.glx.maxBufferAge))
  | inRange {bytes : ByteArray} {text : String} {settings : Settings}
    (hbytes : String.fromUTF8? bytes = some text) (htext : ofText? text = some settings)
    (hrange : settings.isValid = true) :
    Found path (.ok bytes) (.ok settings)

theorem ofContent_found (path : String) (content : Except ReadError ByteArray) :
    Found path content (ofContent path content) := by
  cases content with
  | error cause => exact .unreadable cause
  | ok bytes =>
    simp only [ofContent, Except.mapError, bind, Except.bind]
    cases hbytes : String.fromUTF8? bytes with
    | none => exact .notUtf8 hbytes
    | some text =>
      dsimp only
      cases htext : ofText? text with
      | none => exact .malformed hbytes htext
      | some settings =>
        dsimp only [validate]
        cases hrange : settings.isValid with
        | false => exact .outOfRange hbytes htext hrange
        | true => exact .inRange hbytes htext hrange

theorem ofContent_ne_homeUnknown (path : String) (content : Except ReadError ByteArray) :
    ofContent path content ≠ .error .homeUnknown := by
  intro h
  have hfound := ofContent_found path content
  rw [h] at hfound
  cases hfound

theorem load_of_expandHome {home : Option String} {expanded : String}
    (h : Host.Path.expandHome home path = some expanded)
    (read : String → Except ReadError ByteArray) :
    load home read path = ofContent expanded (read expanded) := by
  rw [load, h]

theorem isValid_of_load {home : Option String} {read : String → Except ReadError ByteArray}
    (h : load home read path = .ok settings) : settings.isValid = true := by
  unfold load at h
  split at h
  · cases h
  · next expanded _ =>
    have hfound := ofContent_found expanded (read expanded)
    rw [h] at hfound
    generalize read expanded = content at hfound
    cases hfound with
    | inRange _ _ hrange => exact hrange

theorem validate_eq_ok_iff : settings.validate = .ok () ↔ settings.isValid = true := by
  unfold validate
  split_ifs with h
  · simp [h]
  · simp [h]

end Compositor.Settings
