import Mathlib.Control.Monad.Basic
import Compositor.Probe.Basic
import Compositor.Proofs.SettingsFile

namespace Compositor.Probe

open CommandLine (Options)
open Host (ReadError)

/-- Settings before and after the flags were put over them: a flag that is given sets its own
fields, and all else is as before. -/
structure Overridden (options : Options) (before after : Settings) : Prop where
  noStencil : after.glx.noStencil = if options.noStencil then true else before.glx.noStencil
  swapMethod : after.glx.swapMethod = before.glx.swapMethod
  maxBufferAge : after.glx.maxBufferAge = before.glx.maxBufferAge
  debugContext : after.glx.debugContext = if options.debug then true else before.glx.debugContext
  debug : after.general.debug = if options.debug then true else before.general.debug
  useOverlay : after.general.useOverlay =
    if options.noOverlay then false else before.general.useOverlay

/-- Entries of level info, and all that are more severe, are logged. -/
def Surroundings.LogsInfo (surroundings : Surroundings) (settings : Settings) : Prop :=
  ∀ notice : Notice, notice.level.depth ≤ Level.info.depth →
    surroundings.logs settings.general.logFilter notice = true

variable {options : Options} {settings before after : Settings} {surroundings : Surroundings}
  {requested : Option String} {arguments : List String}
  {load : String → Except SettingsError Settings}

theorem overridden_effective (options : Options) (settings : Settings) :
    Overridden options settings (effective options settings) where
  noStencil := by cases h : options.noStencil <;> simp [effective, h]
  swapMethod := rfl
  maxBufferAge := rfl
  debugContext := by cases h : options.debug <;> simp [effective, h]
  debug := by cases h : options.debug <;> simp [effective, h]
  useOverlay := by cases h : options.noOverlay <;> simp [effective, h]

theorem Overridden.isValid_eq (h : Overridden options before after) :
    after.isValid = before.isValid := by
  rw [Settings.isValid, Settings.isValid, h.maxBufferAge]

/-- The settings that a probe starts from are in range: those that were loaded have been checked,
and the default ones are. -/
theorem isValid_getD_load (home : Option String) (read : String → Except ReadError ByteArray)
    (path : String) : ((Settings.load home read path).toOption.getD {}).isValid = true := by
  cases h : Settings.load home read path with
  | error cause => exact Settings.isValid_default
  | ok settings => exact Settings.isValid_of_load h

theorem Notice.depth_le_info (notice : Notice) : notice.level.depth ≤ Level.info.depth := by
  cases notice <;> simp [level, Level.depth]

namespace Surroundings

theorem LogsInfo.filter_eq (h : surroundings.LogsInfo settings) (entries : List Notice) :
    entries.filter (surroundings.logs settings.general.logFilter) = entries :=
  List.filter_eq_self.2 fun notice _ => h notice notice.depth_le_info

theorem withoutDisplay_logsInfo_iff : (withoutDisplay requested).LogsInfo settings ↔
    (logFilter requested settings.general.logFilter).allows .info = true := by
  constructor
  · intro h
    exact h .started (Notice.depth_le_info _)
  · intro h notice hnotice
    exact LogFilter.allows_mono hnotice h

theorem run_eq (harguments : Options.ofArguments arguments = .ok options)
    (hsettings : effective options ((load options.config).toOption.getD {}) = settings)
    (hvalid : settings.isValid = true) (surroundings : Surroundings) :
    surroundings.run arguments load = (surroundings.examine options settings,
      (notices options (load options.config)).filter
        (surroundings.logs settings.general.logFilter)) := by
  subst hsettings
  have hvalidate := Settings.validate_eq_ok_iff.2 hvalid
  rw [run, harguments]
  dsimp only
  rw [start, hvalidate]

end Surroundings

/-- A probe that was given options gets to the display, whatever has become of the settings: those
that it goes on with pass the check. The log tells of the settings in a single way, as loaded or as
not loaded, and where there is no display, that is the only failure. -/
theorem run_examines (harguments : Options.ofArguments arguments = .ok options)
    (home : Option String) (read : String → Except ReadError ByteArray)
    (surroundings : Surroundings) (requested : Option String) :
    let load := Settings.load home read
    ∃ settings, Overridden options ((load options.config).toOption.getD {}) settings ∧
      settings.validate = .ok () ∧
      (surroundings.run arguments load).1 = surroundings.examine options settings ∧
      (surroundings.LogsInfo settings →
        (surroundings.run arguments load).2.map Notice.text =
          ["🔎 axiom-glx-probe 0.1.0"] ++
          (match load options.config with
            | .ok _ => ["✅ Configuration loaded from: " ++ options.config]
            | .error cause =>
              ["Failed to load configuration: " ++ cause.report,
                "📝 Using default configuration"]) ++
          if options.noStencil then ["Stencil buffer disabled via CLI flag"] else []) ∧
      (run arguments requested load).1 = .failed (.libraryMissing "libGL.so.1") ∧
      (run arguments requested load).1.exitCode = 1 ∧
      (run arguments requested load).1.errorLine? = some "Error: Failed to load libGL.so.1" := by
  intro load
  have hoverridden := overridden_effective options ((load options.config).toOption.getD {})
  have hvalid : (effective options ((load options.config).toOption.getD {})).isValid = true :=
    hoverridden.isValid_eq.trans (isValid_getD_load home read options.config)
  have hrun := Surroundings.run_eq harguments rfl hvalid
  have hfailed : (run arguments requested load).1 = .failed (.libraryMissing "libGL.so.1") := by
    rw [run, hrun]
    rfl
  refine ⟨_, hoverridden, Settings.validate_eq_ok_iff.2 hvalid, ?_, ?_, hfailed, ?_, ?_⟩
  · rw [hrun]
  · intro hlogs
    rw [hrun, hlogs.filter_eq]
    unfold notices
    cases load options.config with
    | error cause => cases options.noStencil <;> rfl
    | ok settings => cases options.noStencil <;> rfl
  · rw [hfailed]
    rfl
  · rw [hfailed]
    rfl

/-- A file that asks for more frames than are kept, given with two flags. -/
theorem run_examines_out_of_range :
    let tree := Host.FileTree.directory
      [("glx.toml", .file "[glx]\nmax_buffer_age = 17\n".toUTF8)]
    let arguments := ["-d", "--no-overlay", "--config=/glx.toml"]
    let options : Options := { config := "/glx.toml", debug := true, noOverlay := true }
    let load := Settings.load none (tree.read [])
    Options.ofArguments arguments = .ok options ∧
      (run arguments none load).2.map Notice.text =
        ["🔎 axiom-glx-probe 0.1.0",
          "Failed to load configuration: Invalid max_buffer_age 17: must be between 1 and 16",
          "📝 Using default configuration"] ∧
      (run arguments none load).1.exitCode = 1 := by
  intro tree arguments options load
  have harguments : Options.ofArguments arguments = .ok options := by decide +kernel
  have hload : Settings.load none (tree.read []) options.config = .error (.ageOutOfRange 17) := by
    decide +kernel
  obtain ⟨settings, hoverridden, -, -, hlog, -, hcode, -⟩ :=
    run_examines harguments none (tree.read []) (.withoutDisplay none) none
  have hlogs : (Surroundings.withoutDisplay none).LogsInfo settings := by
    rw [Surroundings.withoutDisplay_logsInfo_iff, logFilter, GeneralSettings.logFilter,
      hoverridden.debug]
    decide
  have htexts := hlog hlogs
  rw [hload] at htexts
  exact ⟨harguments, htexts, hcode⟩

end Compositor.Probe
