import SerialPanel.Bytes
namespace SerialPanel

def frameTail : Bytes := [0xCC, 0x33, 0xC3, 0x3C]

def frameHead : UInt8 := 0xAA

def acknowledgement : Bytes := [0xAA, 0x00, 0x4F, 0x4B]

def isAcknowledgement (bytes : Bytes) : Bool := acknowledgement.isPrefixOf bytes

-- Cuts a stream of bytes at every tail, from left to right: the contents that
-- were closed, and what no tail has closed yet. A tail inside of a content cuts
-- it all the same.
def unframe (content : Bytes) : Bytes → List Bytes × Bytes
  | [] => ([], content)
  | 0xCC :: 0x33 :: 0xC3 :: 0x3C :: rest =>
    let (closed, left) := unframe [] rest
    (content :: closed, left)
  | byte :: rest => unframe (content ++ [byte]) rest

def backlightFloor : UInt8 := 0x1F

-- Characters, not bytes, that one text instruction may carry.
def maxTextLength : Nat := 40

namespace Opcode

def handshake : UInt8 := 0x00
def rectangle : UInt8 := 0x05
def moveArea : UInt8 := 0x09
def text : UInt8 := 0x11
def number : UInt8 := 0x14
def icon : UInt8 := 0x23
def backlight : UInt8 := 0x30
def orientation : UInt8 := 0x34
def refresh : UInt8 := 0x3D
def palette : UInt8 := 0x40
def line : UInt8 := 0x51
def clear : UInt8 := 0x52
def image : UInt16 := 0x2200

def orientationKey : Bytes := [0x5A, 0xA5]

end Opcode

end SerialPanel
