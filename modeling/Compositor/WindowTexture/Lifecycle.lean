import Compositor.WindowTexture.Basic

namespace Compositor
namespace Holdings

def releaseBridge (held : Holdings) (renderer : Renderer) (target : TextureTarget) :
    Program Unit := do
  if let some bridge := held.bridge then
    if let some texture := held.texture then
      Program.gl (.bindTexture target (some texture))
      Program.display (.releaseTexImage renderer.texImage.release bridge)
      Program.gl (.bindTexture target none)
    Program.display (.destroyBridge bridge)
  let _ ← Gl.drainErrors "release pixmap"

def giveBack (held : Holdings) (renderer : Renderer) (target : TextureTarget) :
    Program Unit := do
  held.releaseBridge renderer target
  if let some texture := held.texture then
    Program.gl (.deleteTexture texture)
  if let some (.owned pixmap) := held.pixmap then
    Program.display (.freePixmap pixmap)

end Holdings

namespace WindowTexture

/-- The pixmap of a window: a named one where the display can name it, else the window itself.
An identifier of zero counts as none. -/
def nativePixmap (window : XId) : Program (Option NativePixmap) := do
  let pixmap ←
    if ← Program.display .canNamePixmap then
      pure ((← Program.display (.namePixmap window)).map .owned)
    else
      pure (some (.borrowed window))
  return pixmap.filter (·.id ≠ 0)

/-- A new texture with nearest filtering and clamped edges, which is left unbound. -/
def prepareTexture (texture : TextureId) (target : TextureTarget) : Program Unit := do
  Program.gl (.bindTexture target (some texture))
  Program.gl (.textureParameter target Gl.textureMinFilter Gl.nearest)
  Program.gl (.textureParameter target Gl.textureMagFilter Gl.nearest)
  Program.gl (.textureParameter target Gl.textureWrapS Gl.clampToEdge)
  Program.gl (.textureParameter target Gl.textureWrapT Gl.clampToEdge)
  Program.gl (.bindTexture target none)

/-- Reports what could not be had and gives back what was. -/
def abandon (renderer : Renderer) (target : TextureTarget) (notice : Notice)
    (cause : WindowError) (held : Holdings) : Program (Except WindowError WindowTexture) := do
  Program.log notice
  held.giveBack renderer target
  return .error cause

def acquire (renderer : Renderer) (window : Window) (config : FbConfig) (target : TextureTarget) :
    Program (Except WindowError WindowTexture) := do
  match ← nativePixmap window.id with
  | none =>
    abandon renderer target (.noPixmap window.id) (.pixmapUnavailable window.id) {}
  | some pixmap =>
    match ← Program.display (.createBridge config.handle pixmap.id config.format target) with
    | none =>
      abandon renderer target (.noBridge window.id) (.bridgeCreationFailed window.id)
        { pixmap := some pixmap }
    | some bridge =>
      match ← Program.gl .generateTexture with
      | none =>
        abandon renderer target (.noTexture window.id) (.textureCreationFailed window.id)
          { pixmap := some pixmap, bridge := some bridge }
      | some texture =>
        prepareTexture texture target
        return .ok {
          window := window.id
          pixmap, bridge := some bridge, texture, target
          width := window.width
          height := window.height
          yInverted := config.yInverted }

/-- The texture of a window, or nothing at all. -/
def create (renderer : Renderer) (window : Window) :
    Program (Except WindowError WindowTexture) := do
  if window.depth > DepthTable.depthLimit then
    Program.log (.depthTooHigh window.depth DepthTable.depthLimit)
    return .error (.unsupportedDepth window.depth)
  match renderer.configs.get? window.depth with
  | none =>
    Program.log (.noConfigForWindow window.depth)
    return .error (.unsupportedDepth window.depth)
  | some config =>
    let target := config.targets.choose renderer.anySize
    Program.log (.textureChosen window.depth target config.format)
    acquire renderer window config target

/-- Takes the window's present contents into the texture; before every frame that shows it. -/
def refresh (t : WindowTexture) (renderer : Renderer) : Program Unit := do
  match t.bridge with
  | none => Program.fault .releasedTexture
  | some bridge =>
    Program.gl (.bindTexture t.target (some t.texture))
    Program.display (.bindTexImage renderer.texImage.bind bridge)
    Program.gl (.bindTexture t.target none)
    let _ ← Gl.drainErrors "bind pixmap"

/-- Gives up the bridge and keeps texture and pixmap. -/
def release (t : WindowTexture) (renderer : Renderer) : Program WindowTexture := do
  t.holdings.releaseBridge renderer t.target
  return { t with bridge := none }

def destroy (t : WindowTexture) (renderer : Renderer) : Program Unit := do
  t.holdings.giveBack renderer t.target
  Program.log (.textureReleased t.window)

/-- The quad that shows the whole texture with its lower left corner at a place. -/
def quad (t : WindowTexture) (x y : Int32) : Quad where
  texture := t.texture
  target := t.target
  srcX := 0
  srcY := 0
  dstX := x
  dstY := y
  width := t.width
  height := t.height
  opacity := 1000
  yInverted := t.yInverted
  dualTexture := false

/-- Paints the texture with its upper left corner at a place, inside of a clip region. A released
one is passed over. -/
def compose (t : WindowTexture) (renderer : Renderer) (x y : Int32) (clip : Region) :
    Program Unit := do
  if t.isBound then
    let (lower, clip) ← Program.ofExcept
      (Flip.place y t.height clip renderer.screen.height t.yInverted)
    Program.paint (.drawQuad (t.quad x lower) clip)
  else
    Program.log (.notBound t.window)

end WindowTexture
end Compositor
