import DirectoryClient.Tlv.Integer

namespace DirectoryClient.Tlv.Element

/-- A truth value under any tag, since the same payload stands under universal and context tags. -/
def ofBool (tag : Tag) (truth : Bool) : Element :=
  ⟨tag, [if truth then 0xFF else 0x00]⟩

/-- The truth value of a one-byte payload: any byte but zero is true. -/
def decodeBool (element : Element) : Except DecodeError Bool :=
  match element.value with
  | [byte] => .ok (byte != 0)
  | other => .error (.booleanLength other.length)

def ofEnumerated (tag : Tag) (code : Int) : Element :=
  ofInteger tag code

def ofOctets (tag : Tag) (octets : List UInt8) : Element :=
  ⟨tag, octets⟩

/-- An element that holds nothing. -/
def ofNull (tag : Tag) : Element :=
  ⟨tag, []⟩

def sequence (elements : List Element) : Element :=
  constructed Tag.sequence elements

end DirectoryClient.Tlv.Element
