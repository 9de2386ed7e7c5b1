import Compositor.Gl.Token

namespace Compositor.Gl

def noError : Token := 0

def errorName (code : Token) : String :=
  if code = noError then "GL_NO_ERROR"
  else if code = 0x0500 then "GL_INVALID_ENUM"
  else if code = 0x0501 then "GL_INVALID_VALUE"
  else if code = 0x0502 then "GL_INVALID_OPERATION"
  else if code = 0x0503 then "GL_STACK_OVERFLOW"
  else if code = 0x0504 then "GL_STACK_UNDERFLOW"
  else if code = 0x0505 then "GL_OUT_OF_MEMORY"
  else if code = 0x0506 then "GL_INVALID_FRAMEBUFFER_OPERATION"
  else "unknown GL error"

end Compositor.Gl
