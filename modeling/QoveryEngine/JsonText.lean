import Mathlib

/-!
# JSON texts

Modelled from the specification, which speaks of JSON texts where the code does not define them.
This is the JSON grammar: a text is one value between optional whitespace; a value is an object, an
array, a number, a string or one of the literals `true`, `false` and `null`; numbers are an optional
minus, an integer part without leading zeros, an optional fraction and an optional exponent; strings
hold any character from U+0020 on but the quote and the backslash, and the escapes `\"`, `\\`, `\/`,
`\b`, `\f`, `\n`, `\r`, `\t` and `\u` with four hexadecimal digits. The grammar has no limit on
nesting and none on the size of numbers.

Each recognizer takes the input and returns what follows the phrase it recognized.
-/

namespace QoveryEngine.JsonText

/-- Insignificant whitespace: space, tab, line feed, carriage return. -/
def isWs (c : Char) : Bool := c = ' ' || c = '\t' || c = '\n' || c = '\r'

/-- The input after its leading whitespace. -/
def ws (cs : List Char) : List Char := cs.dropWhile isWs

/-- A hexadecimal digit. -/
def isHexDigit (c : Char) : Bool := c.isDigit || ('a' ≤ c && c ≤ 'f') || ('A' ≤ c && c ≤ 'F')

/-- One or more digits. -/
def digits : List Char → Option (List Char)
  | c :: cs => if c.isDigit then some (cs.dropWhile Char.isDigit) else none
  | [] => none

/-- The integer part: `0`, or a non-zero digit and more digits. -/
def int : List Char → Option (List Char)
  | '0' :: cs => some cs
  | c :: cs => if '1' ≤ c ∧ c ≤ '9' then some (cs.dropWhile Char.isDigit) else none
  | [] => none

/-- An optional fraction. -/
def frac : List Char → Option (List Char)
  | '.' :: cs => digits cs
  | cs => some cs

/-- An optional exponent, with its optional sign. -/
def exp : List Char → Option (List Char)
  | 'e' :: cs => digits (match cs with | '+' :: r => r | '-' :: r => r | _ => cs)
  | 'E' :: cs => digits (match cs with | '+' :: r => r | '-' :: r => r | _ => cs)
  | cs => some cs

/-- A number. -/
def number (cs : List Char) : Option (List Char) :=
  ((int (match cs with | '-' :: r => r | _ => cs)).bind frac).bind exp

/-- A string after its opening quote, through its closing quote. -/
def stringChars : List Char → Option (List Char)
  | '"' :: cs => some cs
  | '\\' :: 'u' :: a :: b :: c :: d :: cs =>
    if isHexDigit a && isHexDigit b && isHexDigit c && isHexDigit d then stringChars cs else none
  | '\\' :: e :: cs =>
    if e ∈ ['"', '\\', '/', 'b', 'f', 'n', 'r', 't'] then stringChars cs else none
  | c :: cs => if c ≠ '\\' ∧ 0x20 ≤ c.toNat then stringChars cs else none
  | [] => none

/-- An object member, `string : value`, read with `value`. -/
def member (value : List Char → Option (List Char)) (cs : List Char) : Option (List Char) :=
  match ws cs with
  | '"' :: rest =>
    (stringChars rest).bind fun rest =>
      match ws rest with
      | ':' :: rest => value rest
      | _ => none
  | _ => none

/-- The rest of a sequence after an item: more items, each after a comma, then `close`. -/
def items (item : List Char → Option (List Char)) (close : Char) :
    Nat → List Char → Option (List Char)
  | 0, _ => none
  | fuel + 1, cs =>
    match cs with
    | ',' :: rest => (item rest).bind (items item close fuel)
    | c :: rest => if c = close then some rest else none
    | [] => none

/-- A value, with the whitespace around it; `fuel` bounds its nesting. -/
def value : Nat → List Char → Option (List Char)
  | 0, _ => none
  | fuel + 1, cs =>
    let after : Option (List Char) :=
      match ws cs with
      | '{' :: rest =>
        match ws rest with
        | '}' :: rest => some rest
        | _ => (member (value fuel) rest).bind (items (member (value fuel)) '}' rest.length)
      | '[' :: rest =>
        match ws rest with
        | ']' :: rest => some rest
        | _ => (value fuel rest).bind (items (value fuel) ']' rest.length)
      | '"' :: rest => stringChars rest
      | 't' :: 'r' :: 'u' :: 'e' :: rest => some rest
      | 'f' :: 'a' :: 'l' :: 's' :: 'e' :: rest => some rest
      | 'n' :: 'u' :: 'l' :: 'l' :: rest => some rest
      | cs => number cs
    after.map ws

/-- A JSON text. Every level of nesting takes a character, so the length of the text bounds
the nesting. -/
def isJsonText (s : String) : Bool := value (s.length + 1) s.data == some []

/-- A JSON text whose value is an object. -/
def isJsonObjectText (s : String) : Bool := isJsonText s && (ws s.data).head? == some '{'

end QoveryEngine.JsonText
