import Compositor.Renderer.Basic

namespace Compositor

/-- Frees the shader programs, then the context if there is one. -/
def tearDown (shaders : Shaders) (context : Option ContextHandle) : Program Unit := do
  shaders.blur.toList.forM fun program => Program.paint (.freeBlurProgram program)
  Program.paint (.freeWindowProgram shaders.window)
  if let some context := context then
    let _ ← Gl.drainErrors "GLX deinit"
    Program.display (.destroyContext context)
    Program.log .contextDestroyed

namespace Renderer

/-- Gives the renderer up. Window textures have to be destroyed before. -/
def shutDown (renderer : Renderer) : Program Unit :=
  tearDown renderer.shaders (some renderer.context)

namespace BringUp

def refuse (notice : Notice) (cause : InitError) : ExceptT InitError Program α := do
  ExceptT.lift (Program.log notice)
  throw cause

def display (request : DisplayRequest) : ExceptT InitError Program request.Answer :=
  ExceptT.lift (Program.display request)

def gl (request : GlRequest) : ExceptT InitError Program request.Answer :=
  ExceptT.lift (Program.gl request)

def isEnabled (visual : VisualHandle) (name : VisualAttribute) :
    ExceptT InitError Program Bool := do
  return (← display (.visualAttribute visual name)).getD 0 ≠ 0

def createContext (visual : VisualHandle) : ExceptT InitError Program ContextHandle := do
  if !(← isEnabled visual .useGl) then
    refuse .visualWithoutGl (.visualUnsuitable "root visual is not a GL visual")
  if !(← isEnabled visual .doubleBuffer) then
    refuse .visualNotDoubleBuffered (.visualUnsuitable "root visual is not double buffered")
  if !(← ExceptT.lift (Glx.hasExtension Extension.textureFromPixmap)) then
    throw (.extensionMissing Extension.textureFromPixmap)
  match ← display (.createContext visual) with
  | none => refuse .noContext .contextCreationFailed
  | some context => return context

/-- A context for the screen's visual. The visual is freed whether or not there is a context. -/
def acquireContext (screen : Screen) : ExceptT InitError Program ContextHandle := do
  if !(← display .queryExtension) then
    refuse .noGlx (.extensionMissing "GLX")
  match ← display (.visualInfo screen.visual) with
  | none =>
    refuse .noVisual
      (.visualUnsuitable ("no XVisualInfo for visual " ++ Text.hex screen.visual.toNat 1))
  | some visual =>
    let created ← ExceptT.lift (createContext visual).run
    display (.freeVisual visual)
    ExceptT.mk (pure created)

/-- The state that all painting relies on. -/
def setRenderState (screen : Screen) (settings : GlxSettings) : Program Unit := do
  Program.paint (.resize screen.width screen.height)
  Program.gl (.disable Gl.depthTest)
  Program.gl (.depthMask false)
  Program.gl (.textureEnvironment Gl.replace)
  Program.gl (.disable Gl.blend)
  if !settings.noStencil then
    Program.gl (.clear Gl.stencilBufferBit)
    Program.gl (.disable Gl.stencilTest)
    Program.gl (.stencilMask 1)
    Program.gl (.stencilFunction Gl.equal 1 1)
  Program.gl (.clearColor 0 0 0 1000)
  let _ ← Gl.drainErrors "render state setup"

/-- Asks for debug messages where they are wanted. Painting goes on without them. -/
def requestDebugMessages (settings : GlxSettings) : Program Unit := do
  if settings.debugContext then
    if !(← Program.gl .installDebugCallback) then
      Program.log .noDebugCallback

/-- Refuses a screen without a stencil buffer, unless painting does not use one. -/
def requireStencil (settings : GlxSettings) : ExceptT InitError Program Unit := do
  if !settings.noStencil then
    if (← gl (.getInteger Gl.stencilBits)) = 0 then
      refuse .noStencilBuffer .noStencilBuffer

def attach (screen : Screen) (settings : GlxSettings) (context : ContextHandle) :
    ExceptT InitError Program Renderer := do
  if !(← display (.makeCurrent screen.target context)) then
    refuse .contextNotAttached .contextAttachFailed
  ExceptT.lift (requestDebugMessages settings)
  requireStencil settings
  let anySize := Extension.isListed (← gl .extensions) Extension.nonPowerOfTwo
  let texImage ← ExceptT.mk Glx.resolveTexImage
  let configs ← ExceptT.mk (Selection.select screen.depth)
  ExceptT.lift (setRenderState screen settings)
  return { context, anySize, configs, texImage, shaders := {}, screen, settings }

/-- Reports why there is no renderer and frees what there was. -/
def abandon (cause : InitError) (context : Option ContextHandle) :
    Program (Except InitError Renderer) := do
  Program.log (.initFailed cause)
  tearDown {} context
  return .error cause

end BringUp

/-- A renderer on a screen, or the first requirement that failed. -/
def bringUp (screen : Screen) (settings : GlxSettings) :
    Program (Except InitError Renderer) := do
  match ← (BringUp.acquireContext screen).run with
  | .error cause => BringUp.abandon cause none
  | .ok context =>
    match ← (BringUp.attach screen settings context).run with
    | .error cause => BringUp.abandon cause (some context)
    | .ok renderer =>
      Program.log (.contextReady screen.target renderer.configs.size renderer.anySize)
      return .ok renderer

end Renderer
end Compositor
