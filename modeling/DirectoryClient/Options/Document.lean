import DirectoryClient.Options.Token

/-!
# Options documents

A document is a list of statements, each on a line of its own; a line goes on while a brace is open.
A statement gives a value to a path of keys, or it opens a table to which the statements after it
belong. Only values that an option can have are read: truth values, integers, and tables of these
between braces.
-/

namespace DirectoryClient.Options

/-- A value that is no table. -/
inductive Scalar where
  | boolean (truth : Bool)
  | integer (number : Int)
deriving DecidableEq, Repr

namespace Scalar

/-- Reads digits in the given base after those that give `value`. Underscores may stand between
digits; `afterDigit` says that the last character was a digit. -/
def number? (base : Nat) (value : Nat) (afterDigit : Bool) : List Char → Option Nat
  | [] => if afterDigit then some value else none
  | '_' :: rest => if afterDigit then number? base value false rest else none
  | c :: rest => do
      let digit ← Token.digit? base c
      number? base (value * base + digit) true rest

/-- Reads a number in decimal digits, which does not start with a zero unless it is zero. -/
def decimal? : List Char → Option Nat
  | ['0'] => some 0
  | '0' :: _ => none
  | digits => number? 10 0 false digits

/-- Reads an integer. A sign goes with decimal digits only. -/
def integer? : List Char → Option Int
  | '0' :: 'x' :: digits => (number? 16 0 false digits).map Int.ofNat
  | '0' :: 'o' :: digits => (number? 8 0 false digits).map Int.ofNat
  | '0' :: 'b' :: digits => (number? 2 0 false digits).map Int.ofNat
  | '+' :: digits => (decimal? digits).map Int.ofNat
  | '-' :: digits => (decimal? digits).map fun number => -Int.ofNat number
  | digits => (decimal? digits).map Int.ofNat

def ofWord? (word : List Char) : Option Scalar :=
  if word = "true".toList then some (.boolean true)
  else if word = "false".toList then some (.boolean false)
  else (integer? word).map .integer

end Scalar

inductive Value where
  | scalar (value : Scalar)
  | table (entries : List (List String × Scalar))
deriving DecidableEq, Repr

inductive Statement where
  /-- A value is given to a path of keys. -/
  | entry (path : List String) (value : Value)
  | header (path : List String)
deriving DecidableEq, Repr

namespace Document

def path? : List Token → Option (List String)
  | [key] => key.key?.map ([·])
  | key :: .dot :: rest => do
      let name ← key.key?
      let more ← path? rest
      return name :: more
  | _ => none

def splitAt (separator : Token) : List Token → List (List Token)
  | [] => [[]]
  | token :: rest =>
      match splitAt separator rest with
      | [] => [[token]]
      | piece :: pieces =>
          if token = separator then [] :: piece :: pieces else (token :: piece) :: pieces

/-- Takes the ends of lines off both ends. -/
def trim (tokens : List Token) : List Token :=
  let isBreak : Token → Bool := (· = .newline)
  ((tokens.dropWhile isBreak).reverse.dropWhile isBreak).reverse

def splitEntry? (tokens : List Token) : Option (List Token × List Token) :=
  match tokens.dropWhile (· ≠ .equals) with
  | .equals :: value => some (tokens.takeWhile (· ≠ .equals), value)
  | _ => none

def inlineEntry? (tokens : List Token) : Option (List String × Scalar) := do
  let (path, value) ← splitEntry? tokens
  match value with
  | [.word word] => return (← path? path, ← Scalar.ofWord? word)
  | _ => none

/-- Reads what stands between braces: entries with commas between them, and perhaps a comma after
the last. Lines may end around the entries. -/
def inlineTable? (tokens : List Token) : Option (List (List String × Scalar)) :=
  let pieces := (splitAt .comma tokens).map trim
  if pieces = [[]] then
    some []
  else
    (if pieces.getLast? = some [] then pieces.dropLast else pieces).mapM inlineEntry?

def value? (tokens : List Token) : Option Value :=
  match tokens with
  | [.word word] => (Scalar.ofWord? word).map .scalar
  | .openBrace :: rest =>
      if rest.getLast? = some .closeBrace then (inlineTable? rest.dropLast).map .table else none
  | _ => none

def statement? (tokens : List Token) : Option Statement :=
  match tokens with
  | .openBracket :: rest =>
      if rest.getLast? = some .closeBracket then (path? rest.dropLast).map .header else none
  | _ => do
      let (path, value) ← splitEntry? tokens
      return .entry (← path? path) (← value? value)

def lines (depth : Nat) : List Token → List (List Token)
  | [] => [[]]
  | token :: rest =>
      let inside :=
        match token with
        | .openBrace => depth + 1
        | .closeBrace => depth - 1
        | _ => depth
      match lines inside rest with
      | [] => [[token]]
      | line :: more =>
          if token = .newline ∧ depth = 0 then [] :: line :: more else (token :: line) :: more

/-- Reads a document. A mark of the byte order at its start is passed over. -/
def statements? (text : String) : Option (List Statement) := do
  let chars := text.toList
  let tokens ← Token.scan (if chars.head? = some '\ufeff' then chars.tail else chars)
  ((lines 0 tokens).filter (!·.isEmpty)).mapM statement?

end Document

end DirectoryClient.Options
