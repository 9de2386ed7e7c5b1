import Compositor.Boundary.Program
import Compositor.FbConfig.DepthTable

namespace Compositor

/-- What the display answered about a configuration that can be considered at all. -/
structure ConfigReport where
  handle : ConfigHandle
  bufferSize : Int32
  alphaSize : Int32
  visualDepth : Int32
  targets : Int32
  bindsRgb : Bool
  bindsRgba : Bool
  yInverted : Bool
  rank : RankAttributes
deriving DecidableEq

namespace DepthTable

def offer (table : DepthTable) (depth : Int32) (candidate : FbConfig) : Program DepthTable :=
  match table.depth? depth, table.offer? depth candidate with
  | some depth, some changed => do
    Program.log (.configChosen depth candidate ((table.get? depth).map (·.handle)))
    return changed
  | _, _ => return table

end DepthTable

namespace ConfigReport

def toConfig (report : ConfigReport) (format : TextureFormat) : FbConfig where
  handle := report.handle
  format := format
  targets := ⟨report.targets.toUInt32⟩
  yInverted := report.yInverted
  rank := report.rank

/-- Offers a configuration without alpha for the depth of its colors, and one with alpha for its
whole depth, where the visual has that depth. -/
def register (table : DepthTable) (report : ConfigReport) : Program DepthTable := do
  let colorDepth ← Program.ofExcept (Arithmetic.sub report.bufferSize report.alphaSize)
  let table ←
    if colorDepth = report.visualDepth ∧ colorDepth < 32 ∧ report.bindsRgb then
      table.offer colorDepth (report.toConfig .rgb)
    else
      pure table
  if report.bufferSize = report.visualDepth ∧ report.bindsRgba then
    table.offer report.bufferSize (report.toConfig .rgba)
  else
    return table

end ConfigReport

namespace Selection

def query (config : ConfigHandle) (name : FbAttribute) : Program (Option Int32) :=
  Program.display (.configAttribute config name)

def isEnabled (config : ConfigHandle) (name : FbAttribute) : Program Bool := do
  return (← query config name).any (· ≠ 0)

/-- An attribute that counts as zero where it is not answered. -/
def queryOrZero (config : ConfigHandle) (name : FbAttribute) : Program Int32 := do
  return (← query config name).getD 0

def readRank (config : ConfigHandle) : Program RankAttributes := do
  let redSize ← queryOrZero config .redSize
  let bindRgba ← queryOrZero config .bindToTextureRgba
  let doubleBuffer ← queryOrZero config .doubleBuffer
  let stencilSize ← queryOrZero config .stencilSize
  let depthSize ← queryOrZero config .depthSize
  let bindMipmap ← queryOrZero config .bindToMipmapTexture
  return { redSize, bindRgba, doubleBuffer, stencilSize, depthSize, bindMipmap }

/-- The rest of a report, once sizes, targets and visual depth are known. -/
def readUses (config : ConfigHandle) (bufferSize alphaSize targets visualDepth : Int32) :
    Program ConfigReport := do
  let bindsRgba ←
    if 32 ≤ bufferSize ∧ alphaSize ≠ 0 then isEnabled config .bindToTextureRgba else pure false
  let bindsRgb ← isEnabled config .bindToTextureRgb
  let yInverted ← isEnabled config .yInverted
  let rank ← readRank config
  return {
    handle := config
    bufferSize, alphaSize, visualDepth, targets, bindsRgb, bindsRgba, yInverted, rank }

/-- Reads a configuration, or passes over it: multi-sampled ones, and ones whose sizes, targets or
visual depth are not answered. `position` is its place in the display's list. -/
def read (position : Nat) (config : ConfigHandle) : Program (Option ConfigReport) := do
  if (← query config .samples).any (1 < ·) then
    return none
  match ← query config .bufferSize, ← query config .alphaSize with
  | some bufferSize, some alphaSize =>
    match ← query config .bindToTextureTargets with
    | none =>
      Program.log (.targetsUnknown position)
      return none
    | some targets =>
      match ← Program.display (.configVisualDepth config) with
      | none => return none
      | some visualDepth => return some (← readUses config bufferSize alphaSize targets visualDepth)
  | _, _ =>
    Program.log (.sizesUnknown position)
    return none

def consider (table : DepthTable) (entry : ConfigHandle × Nat) : Program DepthTable := do
  match ← read entry.2 entry.1 with
  | none => return table
  | some report => report.register table

def enumerate : Program DepthTable := do
  let configs ← Program.display .configs
  configs.zipIdx.foldlM consider (DepthTable.empty DepthTable.depthLimit)

/-- The table, if it has an entry for the default depth. -/
def select (defaultDepth : UInt8) : Program (Except InitError DepthTable) := do
  let table ← enumerate
  if !table.contains defaultDepth then
    Program.log (.noConfigForDefault defaultDepth)
    return .error (.noConfigForDepth defaultDepth)
  if !table.contains DepthTable.alphaDepth then
    Program.log (.noConfigForAlpha DepthTable.alphaDepth)
  return .ok table

end Selection
end Compositor
