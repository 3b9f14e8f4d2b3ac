namespace DirectoryClient.Tlv

/-- The first byte of an element. Its low five bits number the tag within its class. -/
abbrev Tag := UInt8

namespace Tag

def boolean : Tag := 0x01

def integer : Tag := 0x02

def octetString : Tag := 0x04

def null : Tag := 0x05

def enumerated : Tag := 0x0A

def sequence : Tag := 0x30

/-- Whether the value is a sequence of further elements. -/
def isConstructed (tag : Tag) : Bool :=
  tag &&& 0x20 != 0

/-- Whether the tag would continue in further bytes, which the protocol does not use. -/
def isMultiByte (tag : Tag) : Bool :=
  tag &&& 0x1F == 0x1F

def text (tag : Tag) : String :=
  String.ofList ['0', 'x', Nat.digitChar (tag.toNat / 16), Nat.digitChar (tag.toNat % 16)]

end Tag

end DirectoryClient.Tlv
