namespace DirectoryClient.Options

/-- A piece of a line, or its end. Blanks and comments are no tokens. -/
inductive Token where
  /-- A run of letters, digits, underscores and signs, whatever it will stand for. -/
  | word (text : List Char)
  /-- A text between quotes. -/
  | quoted (text : List Char)
  | equals
  | dot
  | comma
  | openBrace
  | closeBrace
  | openBracket
  | closeBracket
  | newline
deriving DecidableEq, Repr

namespace Token

def ofMark? : Char → Option Token
  | '=' => some .equals
  | '.' => some .dot
  | ',' => some .comma
  | '\x7b' => some .openBrace
  | '\x7d' => some .closeBrace
  | '[' => some .openBracket
  | ']' => some .closeBracket
  | '\n' => some .newline
  | _ => none

def isWordChar (c : Char) : Bool :=
  c.isAlphanum || c = '_' || c = '-' || c = '+'

/-- Whether a character may stand in a comment or between quotes: a control other than the tab may
not. -/
def isTextChar (c : Char) : Bool :=
  c = '\t' || (' ' ≤ c && c ≠ '\x7f')

def digit? (base : Nat) (c : Char) : Option Nat :=
  let value :=
    if c.isDigit then c.toNat - '0'.toNat
    else if c.isLower then c.toNat - 'a'.toNat + 10
    else if c.isUpper then c.toNat - 'A'.toNat + 10
    else base
  if value < base then some value else none

def ofCodePoint? (digits : List Char) : Option Char := do
  let code ← digits.foldlM (fun code c => (digit? 16 c).map (code * 16 + ·)) 0
  if code.isValidChar then some (Char.ofNat code) else none

def ofEscape? : Char → Option Char
  | 'b' => some '\x08'
  | 't' => some '\t'
  | 'n' => some '\n'
  | 'f' => some '\x0c'
  | 'r' => some '\r'
  | 'e' => some '\x1b'
  | '"' => some '"'
  | '\\' => some '\\'
  | _ => none

/-- Puts a character, if it could be read, in front of the text that follows it. -/
def prepend (first : Option Char) (read : Option (List Char × List Char)) :
    Option (List Char × List Char) := do
  let c ← first
  let (text, after) ← read
  return (c :: text, after)

/-- What follows a text also follows the text without its first character. -/
theorem of_prepend {first : Option Char} {read : Option (List Char × List Char)}
    {text after : List Char} (found : prepend first read = some (text, after)) :
    ∃ rest, read = some (rest, after) := by
  cases first with
  | none => cases found
  | some c =>
      cases read with
      | none => cases found
      | some pair =>
          cases found
          exact ⟨pair.1, rfl⟩

def readQuoted : List Char → Option (List Char × List Char)
  | [] => none
  | '"' :: rest => some ([], rest)
  | '\\' :: 'x' :: a :: b :: rest => prepend (ofCodePoint? [a, b]) (readQuoted rest)
  | '\\' :: 'u' :: a :: b :: c :: d :: rest => prepend (ofCodePoint? [a, b, c, d]) (readQuoted rest)
  | '\\' :: 'U' :: a :: b :: c :: d :: e :: f :: g :: h :: rest =>
      prepend (ofCodePoint? [a, b, c, d, e, f, g, h]) (readQuoted rest)
  | '\\' :: letter :: rest => prepend (ofEscape? letter) (readQuoted rest)
  | c :: rest =>
      prepend (if isTextChar c && c ≠ '\\' then some c else none) (readQuoted rest)

theorem length_lt_of_readQuoted {chars text after : List Char}
    (found : readQuoted chars = some (text, after)) : after.length < chars.length := by
  fun_induction readQuoted chars generalizing text after with
  | case1 => cases found
  | case2 rest =>
      cases found
      exact Nat.lt_succ_self _
  | _ =>
      rename_i ih
      obtain ⟨shorter, read⟩ := of_prepend found
      have := ih read
      simp only [List.length_cons]
      omega

theorem length_dropWhile_le (belongs : Char → Bool) (chars : List Char) :
    (chars.dropWhile belongs).length ≤ chars.length :=
  (List.dropWhile_suffix belongs).length_le

/-- Whether a character may stand between single quotes. -/
def isLiteralChar (c : Char) : Bool :=
  isTextChar c && c ≠ '\''

/-- The tokens of a text; nothing if some of it belongs to no token. -/
def scan (chars : List Char) : Option (List Token) :=
  match chars with
  | [] => some []
  | '\r' :: '\n' :: rest => (scan rest).map (.newline :: ·)
  | '"' :: rest =>
      match _ : readQuoted rest with
      | none => none
      | some (text, after) => (scan after).map (.quoted text :: ·)
  | c :: rest =>
      if c = ' ' ∨ c = '\t' then
        scan rest
      else if c = '#' then
        scan (rest.dropWhile isTextChar)
      else if isWordChar c then
        (scan (rest.dropWhile isWordChar)).map (.word (c :: rest.takeWhile isWordChar) :: ·)
      else if c = '\'' then
        match _ : rest.dropWhile isLiteralChar with
        | '\'' :: after => (scan after).map (.quoted (rest.takeWhile isLiteralChar) :: ·)
        | _ => none
      else do
        let token ← ofMark? c
        let tokens ← scan rest
        return token :: tokens
termination_by chars.length
decreasing_by
  all_goals simp only [List.length_cons]
  · omega
  · have := length_lt_of_readQuoted ‹readQuoted rest = _›
    omega
  · omega
  · have := length_dropWhile_le isTextChar rest
    omega
  · have := length_dropWhile_le isWordChar rest
    omega
  · have := length_dropWhile_le isLiteralChar rest
    simp_all
    omega
  · omega

/-- The name that a token is as a key; a sign can start a number and is no part of a name. -/
def key? : Token → Option String
  | .word text => if text.contains '+' then none else some (String.ofList text)
  | .quoted text => some (String.ofList text)
  | _ => none

end Token

end DirectoryClient.Options
