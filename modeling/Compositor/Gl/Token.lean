namespace Compositor.Gl

abbrev Token := UInt32

def depthTest : Token := 0x0B71
def stencilTest : Token := 0x0B90
def blend : Token := 0x0BE2
def stencilBits : Token := 0x0D57
def stencilBufferBit : Token := 0x0400
def equal : Token := 0x0202
def replace : Token := 0x1E01
def textureEnv : Token := 0x2300
def textureEnvMode : Token := 0x2200
def texture2D : Token := 0x0DE1
def textureRectangle : Token := 0x84F5
def textureMagFilter : Token := 0x2800
def textureMinFilter : Token := 0x2801
def textureWrapS : Token := 0x2802
def textureWrapT : Token := 0x2803
def nearest : Token := 0x2600
def clampToEdge : Token := 0x812F

end Compositor.Gl
