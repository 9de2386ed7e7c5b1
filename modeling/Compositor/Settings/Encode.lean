import Compositor.Settings.Basic

namespace Compositor.Settings

def boolText (b : Bool) : String := if b then "true" else "false"

def render (settings : Settings) : String :=
  "[glx]\n" ++
  "no_stencil = " ++ boolText settings.glx.noStencil ++ "\n" ++
  "swap_method = \"" ++ settings.glx.swapMethod.name ++ "\"\n" ++
  "max_buffer_age = " ++ toString settings.glx.maxBufferAge.toNat ++ "\n" ++
  "debug_context = " ++ boolText settings.glx.debugContext ++ "\n" ++
  "\n" ++
  "[general]\n" ++
  "debug = " ++ boolText settings.general.debug ++ "\n" ++
  "use_overlay = " ++ boolText settings.general.useOverlay ++ "\n"

end Compositor.Settings
