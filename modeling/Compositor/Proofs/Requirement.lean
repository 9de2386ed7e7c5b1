import Mathlib.Data.List.TakeWhile
import Compositor.Proofs.Conservation

namespace Compositor

inductive Requirement where
  | glx
  | visual
  | useGl
  | doubleBuffer
  | textureFromPixmap
  | context
  | current
  | stencil
  | bindEntry
  | releaseEntry
  | config
deriving DecidableEq

namespace Requirement

def ofContext : List Requirement :=
  [.glx, .visual, .useGl, .doubleBuffer, .textureFromPixmap, .context]

def ofAttachment (settings : GlxSettings) : List Requirement :=
  .current :: (if settings.noStencil then [] else [.stencil]) ++ [.bindEntry, .releaseEntry]

def asked (settings : GlxSettings) : List Requirement :=
  ofContext ++ ofAttachment settings ++ [.config]

/-- What is reported if a requirement is the first that is not met. -/
def error (screen : Screen) : Requirement → InitError
  | .glx => .extensionMissing "GLX"
  | .visual => .visualUnsuitable ("no XVisualInfo for visual " ++ Text.hex screen.visual.toNat 1)
  | .useGl => .visualUnsuitable "root visual is not a GL visual"
  | .doubleBuffer => .visualUnsuitable "root visual is not double buffered"
  | .textureFromPixmap => .extensionMissing Extension.textureFromPixmap
  | .context => .contextCreationFailed
  | .current => .contextAttachFailed
  | .stencil => .noStencilBuffer
  | .bindEntry => .entryPointUnresolved Extension.bindTexImage
  | .releaseEntry => .entryPointUnresolved Extension.releaseTexImage
  | .config => .noConfigForDepth screen.depth

/-- Of the requirements that are asked for, those before the failing one are met, and nothing after
it is put to the test. -/
inductive FailsFirst (asked : List Requirement) (failing : Requirement) :
    List (Requirement × Bool) → Prop
  | intro (met rest : List Requirement) (hasked : asked = met ++ failing :: rest) :
    FailsFirst asked failing (met.map (·, true) ++ [(failing, false)])

theorem FailsFirst.append {asked : List Requirement} {failing : Requirement}
    {verdicts : List (Requirement × Bool)} (h : FailsFirst asked failing verdicts)
    (more : List Requirement) : FailsFirst (asked ++ more) failing verdicts := by
  obtain ⟨met, rest, rfl⟩ := h
  exact .intro met (rest ++ more) (by rw [List.append_assoc, List.cons_append])

theorem FailsFirst.after {asked : List Requirement} {failing : Requirement}
    {verdicts : List (Requirement × Bool)} (h : FailsFirst asked failing verdicts)
    (before : List Requirement) :
    FailsFirst (before ++ asked) failing (before.map (·, true) ++ verdicts) := by
  obtain ⟨met, rest, rfl⟩ := h
  have hwhole : FailsFirst (before ++ met ++ failing :: rest) failing _ := .intro _ rest rfl
  rw [List.append_assoc, List.map_append, List.append_assoc] at hwhole
  exact hwhole

end Requirement

/-- What an event tells about the requirements, and about what is obtained and freed. -/
inductive Mark where
  | settled (requirement : Requirement) (met : Bool)
  | visualFound (visual : VisualHandle)
  | contextCreated (context : ContextHandle)
  | visualFreed (visual : VisualHandle)
  | blurFreed (program : BlurProgram)
  | windowFreed (program : WindowProgram)
  | contextDestroyed (context : ContextHandle)

namespace Mark

def verdict? : Mark → Option (Requirement × Bool)
  | settled requirement met => some (requirement, met)
  | _ => none

def visual? : Mark → Option VisualHandle
  | visualFound visual => some visual
  | _ => none

def context? : Mark → Option ContextHandle
  | contextCreated context => some context
  | _ => none

def isCleanup : Mark → Bool
  | visualFreed _ | blurFreed _ | windowFreed _ | contextDestroyed _ => true
  | _ => false

end Mark

/-- The marks of an event on a screen: only the screen's visual and its target count. -/
def Event.marks (screen : Screen) : Event → List Mark
  | .call (.display .queryExtension) present => [.settled .glx present]
  | .call (.display (.visualInfo visual)) found =>
    (if visual = screen.visual then [.settled .visual found.isSome] else []) ++
      found.toList.map .visualFound
  | .call (.display (.visualAttribute _ .useGl)) value => [.settled .useGl (value.getD 0 ≠ 0)]
  | .call (.display (.visualAttribute _ .doubleBuffer)) value =>
    [.settled .doubleBuffer (value.getD 0 ≠ 0)]
  | .call (.display .extensions) list =>
    [.settled .textureFromPixmap
      (list.any fun list => Extension.isListed list Extension.textureFromPixmap)]
  | .call (.display (.createContext _)) context =>
    .settled .context context.isSome :: context.toList.map .contextCreated
  | .call (.display (.makeCurrent target _)) attached =>
    if target = screen.target then [.settled .current attached] else []
  | .call (.gl (.getInteger name)) bits =>
    if name = Gl.stencilBits then [.settled .stencil (bits ≠ (0 : Int32))] else []
  | .call (.display (.entryPoint name)) entry =>
    if name = Extension.bindTexImage then [.settled .bindEntry entry.isSome]
    else if name = Extension.releaseTexImage then [.settled .releaseEntry entry.isSome]
    else []
  | .call (.display (.freeVisual visual)) _ => [.visualFreed visual]
  | .call (.paint (.freeBlurProgram program)) _ => [.blurFreed program]
  | .call (.paint (.freeWindowProgram program)) _ => [.windowFreed program]
  | .call (.display (.destroyContext context)) _ => [.contextDestroyed context]
  | _ => []

def Event.asksConfigs : Event → Bool
  | .call (.display .configs) _ => true
  | _ => false

def marks (screen : Screen) (trace : List Event) : List Mark := trace.flatMap (Event.marks screen)

/-- The table that the answers in a trace make, if the configurations are asked for. -/
def table? (trace : List Event) : Option (Except Fault DepthTable) :=
  Selection.enumerate.replay (trace.dropWhile fun event => !event.asksConfigs)

/-- Whether the table has an entry for the default depth, if there is a table. -/
def configVerdict? (screen : Screen) (trace : List Event) : Option (Requirement × Bool) :=
  match table? trace with
  | some (.ok table) => some (.config, table.contains screen.depth)
  | _ => none

/-- The requirements that were put to the test, in order, each with whether it was met. -/
def verdicts (screen : Screen) (trace : List Event) : List (Requirement × Bool) :=
  (marks screen trace).filterMap Mark.verdict? ++ (configVerdict? screen trace).toList

def visuals (screen : Screen) (trace : List Event) : List VisualHandle :=
  (marks screen trace).filterMap Mark.visual?

def contexts (screen : Screen) (trace : List Event) : List ContextHandle :=
  (marks screen trace).filterMap Mark.context?

def cleanup (screen : Screen) (trace : List Event) : List Mark :=
  (marks screen trace).filter Mark.isCleanup

def Shaders.marks (shaders : Shaders) : List Mark :=
  shaders.blur.toList.map .blurFreed ++ [.windowFreed shaders.window]

variable {screen : Screen} {settings : GlxSettings} {trace first rest : List Event}

theorem marks_append (screen : Screen) (first rest : List Event) :
    marks screen (first ++ rest) = marks screen first ++ marks screen rest :=
  List.flatMap_append

theorem marks_cons (screen : Screen) (event : Event) (rest : List Event) :
    marks screen (event :: rest) = event.marks screen ++ marks screen rest :=
  List.flatMap_cons

theorem marks_eq_nil (h : ∀ event ∈ trace, event.marks screen = []) : marks screen trace = [] :=
  List.flatMap_eq_nil_iff.2 h

theorem table?_eq_none (h : trace.any Event.asksConfigs = false) : table? trace = none := by
  have hdrop : trace.dropWhile (fun event => !event.asksConfigs) = [] := by
    rw [List.dropWhile_eq_nil_iff]
    intro event hevent
    rw [Bool.not_eq_true']
    exact Bool.eq_false_iff.2 (List.any_eq_false.1 h event hevent)
  rw [table?, hdrop]
  rfl

theorem table?_append (h : first.any Event.asksConfigs = false) :
    table? (first ++ rest) = table? rest := by
  have hdrop : (first ++ rest).dropWhile (fun event => !event.asksConfigs) =
      rest.dropWhile fun event => !event.asksConfigs := by
    apply List.dropWhile_append_of_pos
    intro event hevent
    rw [Bool.not_eq_true']
    exact Bool.eq_false_iff.2 (List.any_eq_false.1 h event hevent)
  rw [table?, hdrop, table?]

theorem configVerdict?_append (h : first.any Event.asksConfigs = false) :
    configVerdict? screen (first ++ rest) = configVerdict? screen rest := by
  rw [configVerdict?, configVerdict?, table?_append h]

theorem Selection.Enumerated.table?_append {outcome : Except Fault DepthTable}
    (h : Selection.Enumerated trace outcome) (rest : List Event) :
    table? (trace ++ rest) = some outcome := by
  obtain ⟨configs, others, rfl⟩ := h.starts
  exact h.replays rest

theorem Gl.Emptied.marks_eq_nil (h : Gl.Emptied site trace) : marks screen trace = [] := by
  apply Compositor.marks_eq_nil
  exact h.forall_mem (fun _ => rfl) fun _ => rfl

theorem Gl.Emptied.any_asksConfigs (h : Gl.Emptied site trace) :
    trace.any Event.asksConfigs = false := by
  rw [List.any_eq_false]
  exact h.forall_mem (fun _ => Bool.false_ne_true) fun _ => Bool.false_ne_true

theorem Selection.Inquiry.marks_eq_nil {event : Event} (h : Selection.Inquiry event) :
    event.marks screen = [] :=
  h.elim (fun _ => rfl) (fun _ _ _ => rfl) (fun _ _ => rfl) fun _ => rfl

theorem Selection.Selected.marks_eq_nil {depth : UInt8}
    {outcome : Except Fault (Except InitError DepthTable)}
    (h : Selection.Selected depth trace outcome) : marks screen trace = [] :=
  Compositor.marks_eq_nil fun event hevent => (h.inquires event hevent).marks_eq_nil

theorem Shaders.marks_freeEvents (screen : Screen) (shaders : Shaders) :
    Compositor.marks screen shaders.freeEvents = shaders.marks := by
  rw [Shaders.freeEvents, Shaders.marks, marks_append]
  congr 1
  induction shaders.blur.toList with
  | nil => rfl
  | cons program programs ih =>
    rw [List.map_cons, marks_cons, ih]
    rfl

theorem marks_tearDownEvents (screen : Screen) (shaders : Shaders) (context : ContextHandle)
    {drain : List Event} (hdrain : Gl.Emptied "GLX deinit" drain) :
    marks screen (tearDownEvents shaders context drain) =
      shaders.marks ++ [.contextDestroyed context] := by
  rw [tearDownEvents, marks_append, marks_append, shaders.marks_freeEvents, hdrain.marks_eq_nil,
    List.append_nil]
  rfl

theorem any_asksConfigs_tearDownEvents (context : ContextHandle) {drain : List Event}
    (hdrain : Gl.Emptied "GLX deinit" drain) :
    (tearDownEvents {} context drain).any Event.asksConfigs = false := by
  rw [tearDownEvents, List.any_append, List.any_append, hdrain.any_asksConfigs]
  rfl

theorem Glx.Listed.any_asksConfigs {name : String} {listed : Bool}
    (h : Glx.Listed name trace listed) : trace.any Event.asksConfigs = false := by
  cases h <;> rfl

theorem Glx.Listed.marks_eq {listed : Bool}
    (h : Glx.Listed Extension.textureFromPixmap trace listed) :
    marks screen trace = [.settled .textureFromPixmap listed] := by
  cases h with
  | noList => rfl
  | found hlisted => simp [marks, Event.marks, hlisted]
  | missing hlisted => simp [marks, Event.marks, hlisted]

def metMarks (met : List Requirement) : List Mark := met.map (.settled · true)

@[simp] theorem filterMap_verdict?_metMarks (met : List Requirement) :
    (metMarks met).filterMap Mark.verdict? = met.map (·, true) := by
  induction met with
  | nil => rfl
  | cons requirement met ih => exact congrArg _ ih

@[simp] theorem filterMap_visual?_metMarks (met : List Requirement) :
    (metMarks met).filterMap Mark.visual? = [] := by
  induction met with
  | nil => rfl
  | cons requirement met ih => exact ih

@[simp] theorem filterMap_context?_metMarks (met : List Requirement) :
    (metMarks met).filterMap Mark.context? = [] := by
  induction met with
  | nil => rfl
  | cons requirement met ih => exact ih

@[simp] theorem filter_isCleanup_metMarks (met : List Requirement) :
    (metMarks met).filter Mark.isCleanup = [] := by
  induction met with
  | nil => rfl
  | cons requirement met ih => exact ih

namespace Shaders

@[simp] theorem filterMap_verdict?_marks (shaders : Shaders) :
    shaders.marks.filterMap Mark.verdict? = [] := by
  simp [marks, Function.comp_def, Mark.verdict?]

@[simp] theorem filterMap_visual?_marks (shaders : Shaders) :
    shaders.marks.filterMap Mark.visual? = [] := by
  simp [marks, Function.comp_def, Mark.visual?]

@[simp] theorem filterMap_context?_marks (shaders : Shaders) :
    shaders.marks.filterMap Mark.context? = [] := by
  simp [marks, Function.comp_def, Mark.context?]

@[simp] theorem filter_isCleanup_marks (shaders : Shaders) :
    shaders.marks.filter Mark.isCleanup = shaders.marks := by
  simp [marks, Function.comp_def, Mark.isCleanup, List.filter_map]

end Shaders
end Compositor
