import DirectoryClient.Text.Unprintable

namespace DirectoryClient.Text

def codePointEscape (c : Char) : List Char :=
  ['\\', 'u', '\x7b'] ++ Nat.toDigits 16 c.toNat ++ ['\x7d']

def quotedChar (c : Char) : List Char :=
  match c with
  | '\x00' => ['\\', '0']
  | '\t' => ['\\', 't']
  | '\r' => ['\\', 'r']
  | '\n' => ['\\', 'n']
  | '\\' => ['\\', '\\']
  | '"' => ['\\', '"']
  | c =>
      if c.toNat < 0x20 || c.toNat = 0x7F || isUnprintable c then codePointEscape c else [c]

/-- The text between double quotes, with escapes for characters that would not be told apart. -/
def quoted (text : String) : String :=
  String.ofList ('"' :: (text.toList.flatMap quotedChar ++ ['"']))

end DirectoryClient.Text
