namespace Compositor.Glx

abbrev Token := UInt32

def useGl : Token := 1
def bufferSize : Token := 2
def doubleBuffer : Token := 5
def redSize : Token := 8
def alphaSize : Token := 11
def depthSize : Token := 12
def stencilSize : Token := 13
def samples : Token := 100001
def bindToTextureRgb : Token := 0x20D0
def bindToTextureRgba : Token := 0x20D1
def bindToMipmapTexture : Token := 0x20D2
def bindToTextureTargets : Token := 0x20D3
def yInverted : Token := 0x20D4
def textureFormat : Token := 0x20D5
def textureTarget : Token := 0x20D6
def textureFormatNone : Token := 0x20D8
def textureFormatRgb : Token := 0x20D9
def textureFormatRgba : Token := 0x20DA
def texture1DBit : UInt32 := 0x1
def texture2DBit : UInt32 := 0x2
def textureRectangleBit : UInt32 := 0x4
def texture1D : Token := 0x20DB
def texture2D : Token := 0x20DC
def textureRectangle : Token := 0x20DD
def frontLeft : Token := 0x20DE
def backBufferAge : Token := 0x20F4

end Compositor.Glx
