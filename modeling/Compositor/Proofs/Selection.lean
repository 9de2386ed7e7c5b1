import Compositor.FbConfig.Selection
import Compositor.Proofs.Ensures

namespace Compositor
namespace Selection

/-- A question about the display's configurations, or something that is reported. -/
def Inquiry : Event → Prop
  | .call (.display .configs) _ | .call (.display (.configAttribute ..)) _
  | .call (.display (.configVisualDepth _)) _ | .note _ => True
  | _ => False

/-- An inquiry is one of the three questions about configurations, or something that is reported. -/
@[elab_as_elim] theorem Inquiry.elim {motive : Event → Prop} {event : Event} (h : Inquiry event)
    (configs : ∀ found, motive (.call (.display .configs) found))
    (value : ∀ config name answer,
      motive (.call (.display (.configAttribute config name)) answer))
    (visualDepth : ∀ config answer, motive (.call (.display (.configVisualDepth config)) answer))
    (note : ∀ notice, motive (.note notice)) : motive event := by
  unfold Inquiry at h
  split at h
  · exact configs _
  · exact value _ _ _
  · exact visualDepth _ _
  · exact note _
  · cases h

variable {F : Fault → Prop}

theorem offer_confined (table : DepthTable) (depth : Int32) (candidate : FbConfig) :
    (table.offer depth candidate).Confined Inquiry F := by
  unfold DepthTable.offer
  split
  · exact .bind (.log trivial) fun _ => .pure _
  · exact .pure table

theorem register_confined (table : DepthTable) (report : ConfigReport) :
    (report.register table).Confined Inquiry (· = .subOverflow) := by
  unfold ConfigReport.register
  apply Program.Confined.bind
  · apply Program.Confined.ofExcept
    intro e he
    exact (Arithmetic.sub_eq_error_iff.1 he).1
  intro colorDepth
  have hrest (table : DepthTable) : Program.Confined Inquiry (· = .subOverflow)
      (if report.bufferSize = report.visualDepth ∧ report.bindsRgba then
        table.offer report.bufferSize (report.toConfig .rgba)
      else pure table) :=
    .ite (offer_confined _ _ _) (.pure table)
  exact .ite (.bind (offer_confined _ _ _) hrest) (.bind (.pure table) hrest)

theorem query_confined (config : ConfigHandle) (name : FbAttribute) :
    (query config name).Confined Inquiry F :=
  .display fun _ => trivial

theorem isEnabled_confined (config : ConfigHandle) (name : FbAttribute) :
    (isEnabled config name).Confined Inquiry F :=
  .bind (query_confined config name) fun _ => .pure _

theorem queryOrZero_confined (config : ConfigHandle) (name : FbAttribute) :
    (queryOrZero config name).Confined Inquiry F :=
  .bind (query_confined config name) fun _ => .pure _

theorem readRank_confined (config : ConfigHandle) : (readRank config).Confined Inquiry F :=
  .bind (queryOrZero_confined config _) fun _ => .bind (queryOrZero_confined config _) fun _ =>
    .bind (queryOrZero_confined config _) fun _ => .bind (queryOrZero_confined config _) fun _ =>
      .bind (queryOrZero_confined config _) fun _ => .bind (queryOrZero_confined config _) fun _ =>
        .pure _

theorem readUses_confined (config : ConfigHandle)
    (bufferSize alphaSize targets visualDepth : Int32) :
    (readUses config bufferSize alphaSize targets visualDepth).Confined Inquiry F := by
  have hrest (bindsRgba : Bool) : Program.Confined Inquiry F (do
      let bindsRgb ← isEnabled config .bindToTextureRgb
      let yInverted ← isEnabled config .yInverted
      let rank ← readRank config
      return ({
        handle := config
        bufferSize, alphaSize, visualDepth, targets, bindsRgb, bindsRgba, yInverted, rank } :
        ConfigReport)) :=
    .bind (isEnabled_confined config _) fun _ => .bind (isEnabled_confined config _) fun _ =>
      .bind (readRank_confined config) fun _ => .pure _
  exact .ite (.bind (isEnabled_confined config _) hrest) (.bind (.pure false) hrest)

theorem read_confined (position : Nat) (config : ConfigHandle) :
    (read position config).Confined Inquiry F := by
  apply Program.Confined.bind (query_confined config .samples)
  intro samples
  split
  · exact .pure none
  apply Program.Confined.bind (query_confined config .bufferSize)
  intro bufferSize
  apply Program.Confined.bind (query_confined config .alphaSize)
  intro alphaSize
  split
  · apply Program.Confined.bind (query_confined config .bindToTextureTargets)
    intro targets
    cases targets with
    | none => exact .bind (.log trivial) fun _ => .pure none
    | some targets =>
      apply Program.Confined.bind (.display fun _ => trivial)
      intro visualDepth
      cases visualDepth with
      | none => exact .pure none
      | some visualDepth => exact .bind (readUses_confined config _ _ _ _) fun _ => .pure _
  · exact .bind (.log trivial) fun _ => .pure none

theorem consider_confined (table : DepthTable) (entry : ConfigHandle × Nat) :
    (consider table entry).Confined Inquiry (· = .subOverflow) := by
  apply Program.Confined.bind (read_confined entry.2 entry.1)
  intro report
  cases report with
  | none => exact .pure table
  | some report => exact register_confined table report

/-- The events of filling the table and how it ends. -/
structure Enumerated (trace : List Event) (outcome : Except Fault DepthTable) : Prop where
  starts : ∃ configs rest, trace = .call (.display .configs) configs :: rest
  inquires : ∀ event ∈ trace, Inquiry event
  replays : ∀ rest, enumerate.replay (trace ++ rest) = some outcome
  overflow : ∀ e, outcome = .error e → e = .subOverflow

theorem enumerate_ensures : enumerate.Ensures Enumerated := by
  have hstarts : enumerate.Ensures fun trace _ =>
      ∃ configs rest, trace = .call (.display .configs) configs :: rest := by
    intro configs
    apply Program.Ensures.mono (Program.Confined.foldlM configs.zipIdx consider_confined _)
    exact fun rest _ _ => ⟨configs, rest, rfl⟩
  have hconfined : enumerate.Confined Inquiry (· = .subOverflow) :=
    .bind (.display fun _ => trivial) fun configs => .foldlM _ consider_confined _
  apply (hstarts.and (hconfined.and enumerate.replay_ensures)).mono
  intro trace outcome h
  obtain ⟨hstart, ⟨hinquires, hoverflow⟩, hreplay⟩ := h
  exact ⟨hstart, hinquires, hreplay, hoverflow⟩

inductive Selected (depth : UInt8) :
    List Event → Except Fault (Except InitError DepthTable) → Prop
  | overflow {trace : List Event} {e : Fault} (h : Enumerated trace (.error e)) :
    Selected depth trace (.error e)
  | missing {trace : List Event} {table : DepthTable} (h : Enumerated trace (.ok table))
    (hdepth : table.contains depth = false) :
    Selected depth (trace ++ [.note (.noConfigForDefault depth)])
      (.ok (.error (.noConfigForDepth depth)))
  | found {trace notes : List Event} {table : DepthTable} (h : Enumerated trace (.ok table))
    (hdepth : table.contains depth = true)
    (hnotes : notes = [] ∨ notes = [.note (.noConfigForAlpha DepthTable.alphaDepth)]) :
    Selected depth (trace ++ notes) (.ok (.ok table))

theorem Selected.inquires {depth : UInt8} {trace : List Event}
    {outcome : Except Fault (Except InitError DepthTable)} (h : Selected depth trace outcome) :
    ∀ event ∈ trace, Inquiry event := by
  have hwith {trace notes : List Event} {outcome : Except Fault DepthTable}
      (h : Enumerated trace outcome) (hnotes : ∀ event ∈ notes, Inquiry event) :
      ∀ event ∈ trace ++ notes, Inquiry event := by
    intro event hevent
    rcases List.mem_append.1 hevent with hevent | hevent
    · exact h.inquires event hevent
    · exact hnotes event hevent
  have hnote (notice : Notice) : ∀ event ∈ [.note notice], Inquiry event := by
    intro event hevent
    rw [List.mem_singleton.1 hevent]
    trivial
  cases h with
  | overflow h => exact h.inquires
  | missing h hdepth => exact hwith h (hnote _)
  | found h hdepth hnotes =>
    rcases hnotes with rfl | rfl
    · rw [List.append_nil]
      exact h.inquires
    · exact hwith h (hnote _)

theorem select_ensures (depth : UInt8) : (select depth).Ensures (Selected depth) := by
  apply Program.Ensures.bind enumerate_ensures
  · intro trace table h
    cases hdepth : table.contains depth with
    | false => exact .missing h hdepth
    | true =>
      cases halpha : table.contains DepthTable.alphaDepth with
      | false => exact .found h hdepth (.inr rfl)
      | true => exact .found h hdepth (.inl rfl)
  · intro trace e h
    exact .overflow h

end Selection
end Compositor
