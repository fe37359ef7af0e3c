import Mathlib
import QoveryEngine.F64

/-!
# serde_json

The part of `serde_json` the job output goes through: `from_str` into a `Value` and into a
`HashMap<&str, Value>`, and the compact `Display` of a `Value` (`value.to_string()`).

The parser follows serde_json's recursive descent over the input's characters: whitespace,
the literals, numbers, strings with their escapes, and arrays and objects through the same
element and entry loops, with the `remaining_depth` budget of 128 that `check_recursion!` spends
on every array or object. A map key is deserialized by the key's own type: an owned `String`
takes any key, a borrowed `&str` only one written without escape sequences (serde_json hands a
key with escapes to the visitor as a copied string, which `&str` refuses).

A number is read as serde_json reads it without its `float_roundtrip` feature: digits into a
`u64` while they fit, and otherwise a `u64` and a power of ten that `f64_from_parts` turns into a
double (see `QoveryEngine.F64`). i32 exponents are unbounded integers here, except where the code
checks or saturates them; only an input gigabytes long could tell the two apart.
-/

namespace QoveryEngine.Json

/-- The `serde_json::error::ErrorCode`s the parser raises (positions are not modelled). -/
inductive ErrorCode
  | eofWhileParsingList
  | eofWhileParsingObject
  | eofWhileParsingString
  | eofWhileParsingValue
  | expectedColon
  | expectedListCommaOrEnd
  | expectedObjectCommaOrEnd
  | expectedSomeIdent
  | expectedSomeValue
  | invalidEscape
  | invalidNumber
  | numberOutOfRange
  | controlCharacterWhileParsingString
  | keyMustBeAString
  | loneLeadingSurrogateInHexEscape
  | unexpectedEndOfHexEscape
  | trailingCharacters
  | trailingComma
  | recursionLimitExceeded
  /-- `serde::de::Error::invalid_type`: the input holds another type than the one asked for. -/
  | invalidType
  deriving DecidableEq, Repr

/-- `serde_json::Number`: a `u64`, a negative `i64`, or a finite `f64` (its sign and its magnitude). -/
inductive Number
  | posInt (n : Nat)
  | negInt (n : Int)
  | float (negative : Bool) (x : Binary64)
  deriving DecidableEq, Repr

/-- `serde_json::Value`. An object (`Map`, a `BTreeMap`) is its entries in increasing key order. -/
inductive Value
  | null
  | bool (b : Bool)
  | number (n : Number)
  | string (s : String)
  | array (elems : List Value)
  | object (entries : List (String × Value))
  deriving Repr, Inhabited

/-- Results are compared by their payloads, so that a parse's or a run's result can be decided. -/
instance instDecidableEqExcept {ε α : Type _} [DecidableEq ε] [DecidableEq α] :
    DecidableEq (Except ε α)
  | .error a, .error b => decidable_of_iff (a = b) (by simp)
  | .ok a, .ok b => decidable_of_iff (a = b) (by simp)
  | .error _, .ok _ => isFalse (by simp)
  | .ok _, .error _ => isFalse (by simp)

/-- A result is `ok` after a `bind` when both computations are. -/
theorem bind_eq_ok {ε α β : Type} {x : Except ε α} {f : α → Except ε β} {b : β} :
    x.bind f = .ok b ↔ ∃ a, x = .ok a ∧ f a = .ok b := by
  cases x <;> simp [Except.bind]

/-- A result is `ok` after a `map` when it was before. -/
theorem map_eq_ok {ε α β : Type} {x : Except ε α} {f : α → β} {b : β} :
    x.map f = .ok b ↔ ∃ a, x = .ok a ∧ f a = b := by
  cases x <;> simp [Except.map]

/-! ## Maps -/

/-- `Ord for str`: lexicographic on the UTF-8 bytes, which orders strings as their characters'
code points do. -/
def keyLt : List Char → List Char → Bool
  | [], [] => false
  | [], _ :: _ => true
  | _ :: _, [] => false
  | c :: cs, d :: ds => c.toNat < d.toNat || (c = d && keyLt cs ds)

/-- `BTreeMap::insert`: the entry takes its place in key order, replacing one with the same key. -/
def btreeInsert {α : Type} : List (String × α) → String × α → List (String × α)
  | [], kv => [kv]
  | (k, v) :: rest, kv =>
    if kv.1 = k then kv :: rest
    else if keyLt kv.1.data k.data then kv :: (k, v) :: rest
    else (k, v) :: btreeInsert rest kv

/-- `HashMap::insert`, on the entries in the order their keys were first inserted: a new key is
appended, an existing one takes the new value. -/
def hashInsert {α : Type} : List (String × α) → String × α → List (String × α)
  | [], kv => [kv]
  | (k, v) :: rest, kv => if kv.1 = k then kv :: rest else (k, v) :: hashInsert rest kv

/-- `get` on a map's entries. -/
def lookup {α : Type} (entries : List (String × α)) (key : String) : Option α :=
  (entries.find? fun kv => kv.1 = key).map Prod.snd

/-! ## Leaves: whitespace, literals, numbers, strings -/

/-- `parse_whitespace`: spaces, line feeds, tabs and carriage returns. -/
def isWhitespace (c : Char) : Bool := c = ' ' || c = '\n' || c = '\t' || c = '\r'

/-- The input after `parse_whitespace`. -/
def parseWhitespace (cs : List Char) : List Char := cs.dropWhile isWhitespace

/-- `parse_ident`: the remaining letters of `null`, `true` or `false`. -/
def parseIdent : List Char → List Char → Except ErrorCode (List Char)
  | [], rest => .ok rest
  | _ :: _, [] => .error .eofWhileParsingValue
  | c :: cs, d :: rest => if c = d then parseIdent cs rest else .error .expectedSomeIdent

/-- `overflow!(a * 10 + b, c)`: whether `a * 10 + b` would exceed `c`. -/
def overflows (a b c : Nat) : Bool := c / 10 ≤ a && (c / 10 < a || c % 10 < b)

/-- `u64::MAX`. -/
def u64Max : Nat := 2 ^ 64 - 1

/-- `i32::MAX`. -/
def i32Max : Nat := 2 ^ 31 - 1

/-- `i32::saturating_add` and `i32::saturating_sub`: the exact result, clamped to the range of
`i32`. -/
def saturateI32 (n : Int) : Int := max (-2 ^ 31) (min n (2 ^ 31 - 1))

/-- The value of a decimal digit. -/
def digitValue (c : Char) : Nat := c.toNat - '0'.toNat

/-- `ParserNumber`: a number as the parser hands it to the visitor. -/
inductive ParserNumber
  | f64 (negative : Bool) (f : F64)
  | u64 (n : Nat)
  | i64 (n : Int)
  deriving DecidableEq, Repr

/-- The loop of `f64_from_parts`, with `fuel` turns left: a multiplication or division by
`POW10[|exponent|]` when the table has it, and otherwise a division by `1e308` for a negative
exponent (or the end, for zero, or `NumberOutOfRange`, for a positive one). -/
def f64FromPartsLoop : Nat → F64 → Int → Except ErrorCode F64
  | 0, f, _ => .ok f
  | fuel + 1, f, exponent =>
    match Binary64.pow10Table exponent.natAbs with
    | some pow =>
      if 0 ≤ exponent then
        let f := f.mul pow
        if f.isInfinite then .error .numberOutOfRange else .ok f
      else .ok (f.div pow)
    | none =>
      if f.isZero then .ok f
      else if 0 ≤ exponent then .error .numberOutOfRange
      else f64FromPartsLoop fuel (f.div (Binary64.pow10 308 le_rfl)) (exponent + 308)

/-- `f64_from_parts`: `significand × 10^exponent` as a double, with its sign. The loop divides
by `1e308` at most `|exponent| / 308` times before it ends. -/
def f64FromParts (positive : Bool) (significand : Nat) (exponent : Int) :
    Except ErrorCode ParserNumber :=
  (f64FromPartsLoop (exponent.natAbs / 308 + 1) (F64.ofU64 significand) exponent).map
    (.f64 (!positive))

/-- `parse_exponent_overflow`: an exponent beyond `i32::MAX`. It is an error for a non-zero
number growing; otherwise the number is `±0.0`, after the exponent's remaining digits. -/
def parseExponentOverflow (positive zeroSignificand positiveExp : Bool) (cs : List Char) :
    Except ErrorCode (ParserNumber × List Char) :=
  if !zeroSignificand && positiveExp then .error .numberOutOfRange
  else .ok (.f64 (!positive) F64.zero, cs.dropWhile Char.isDigit)

/-- The end of `parse_exponent`: the exponent `exp`, with its sign, added to `startingExp`. -/
def parseExponentEnd (positive : Bool) (significand : Nat) (startingExp : Int) (positiveExp : Bool)
    (exp : Nat) (cs : List Char) : Except ErrorCode (ParserNumber × List Char) :=
  let finalExp := saturateI32 (if positiveExp then startingExp + exp else startingExp - exp)
  (f64FromParts positive significand finalExp).map fun n => (n, cs)

/-- The digit loop of `parse_exponent`, with `exp` read so far. -/
def parseExponentDigits (positive : Bool) (significand : Nat) (startingExp : Int)
    (positiveExp : Bool) : Nat → List Char → Except ErrorCode (ParserNumber × List Char)
  | exp, c :: cs =>
    if c.isDigit then
      if overflows exp (digitValue c) i32Max then
        parseExponentOverflow positive (significand = 0) positiveExp cs
      else parseExponentDigits positive significand startingExp positiveExp
        (exp * 10 + digitValue c) cs
    else parseExponentEnd positive significand startingExp positiveExp exp (c :: cs)
  | exp, [] => parseExponentEnd positive significand startingExp positiveExp exp []

/-- The optional sign of `parse_exponent`: whether the exponent is positive, and the input after
the sign. -/
def exponentSign : List Char → Bool × List Char
  | '+' :: rest => (true, rest)
  | '-' :: rest => (false, rest)
  | cs => (true, cs)

/-- `parse_exponent`, after the `e`: an optional sign and at least one digit. -/
def parseExponent (positive : Bool) (significand : Nat) (startingExp : Int) (cs : List Char) :
    Except ErrorCode (ParserNumber × List Char) :=
  match exponentSign cs with
  | (_, []) => .error .eofWhileParsingValue
  | (positiveExp, c :: rest) =>
    if c.isDigit then parseExponentDigits positive significand startingExp positiveExp
      (digitValue c) rest
    else .error .invalidNumber

/-- After the digits of a double's significand: `parse_exponent` at an `e` or `E`, and
`f64_from_parts` otherwise. -/
def parseExponentOrParts (positive : Bool) (significand : Nat) (exponent : Int) :
    List Char → Except ErrorCode (ParserNumber × List Char)
  | 'e' :: cs => parseExponent positive significand exponent cs
  | 'E' :: cs => parseExponent positive significand exponent cs
  | cs => (f64FromParts positive significand exponent).map fun n => (n, cs)

/-- `parse_decimal_overflow`: the significand is full, the remaining digits are skipped. -/
def parseDecimalOverflow (positive : Bool) (significand : Nat) (exponent : Int) (cs : List Char) :
    Except ErrorCode (ParserNumber × List Char) :=
  parseExponentOrParts positive significand exponent (cs.dropWhile Char.isDigit)

/-- The digit loop of `parse_decimal`, with `exponentAfter` the negated number of digits read
after the point. At least one digit must follow the point. -/
def parseDecimalDigits (positive : Bool) (exponentBefore : Int) :
    Nat → Int → List Char → Except ErrorCode (ParserNumber × List Char)
  | significand, exponentAfter, cs =>
    match cs with
    | c :: rest =>
      if c.isDigit then
        if overflows significand (digitValue c) u64Max then
          parseDecimalOverflow positive significand (exponentBefore + exponentAfter) cs
        else parseDecimalDigits positive exponentBefore (significand * 10 + digitValue c)
          (exponentAfter - 1) rest
      else if exponentAfter = 0 then .error .invalidNumber
      else parseExponentOrParts positive significand (exponentBefore + exponentAfter) cs
    | [] =>
      if exponentAfter = 0 then .error .eofWhileParsingValue
      else parseExponentOrParts positive significand (exponentBefore + exponentAfter) cs

/-- `parse_decimal`, after the point. -/
def parseDecimal (positive : Bool) (significand : Nat) (exponentBefore : Int) (cs : List Char) :
    Except ErrorCode (ParserNumber × List Char) :=
  parseDecimalDigits positive exponentBefore significand 0 cs

/-- `parse_long_integer`: the integer's digits beyond those of a full `u64` count into the
exponent. -/
def parseLongInteger (positive : Bool) (significand : Nat) :
    Int → List Char → Except ErrorCode (ParserNumber × List Char)
  | exponent, c :: cs =>
    if c.isDigit then parseLongInteger positive significand (exponent + 1) cs
    else if c = '.' then parseDecimal positive significand exponent cs
    else if c = 'e' ∨ c = 'E' then parseExponent positive significand exponent cs
    else (f64FromParts positive significand exponent).map fun n => (n, c :: cs)
  | exponent, [] => (f64FromParts positive significand exponent).map fun n => (n, [])

/-- The `ParserNumber` of an integer without fraction or exponent: a `u64` when positive, an
`i64` when negative and `significand as i64` wraps to a negative value when negated, and the
negated `significand as f64` otherwise (for `-0` and below `i64::MIN`). -/
def integerNumber (positive : Bool) (significand : Nat) : ParserNumber :=
  if positive then .u64 significand
  else if 0 < significand ∧ significand ≤ 2 ^ 63 then .i64 (-(significand : Int))
  else .f64 true (F64.ofU64 significand)

/-- `ParserNumber::visit` with the visitor of `Value`: an `i64` is a `NegInt` when negative, and
an `f64` that is not finite is `null` (`Number::from_f64`). -/
def ParserNumber.visit : ParserNumber → Value
  | .u64 n => .number (.posInt n)
  | .i64 n => .number (if n < 0 then .negInt n else .posInt n.toNat)
  | .f64 negative (.finite x) => .number (.float negative x)
  | .f64 _ .infinity => .null

/-- `parse_number`, after the integer part `significand`: an optional fraction, an optional
exponent. -/
def parseNumber (positive : Bool) (significand : Nat) :
    List Char → Except ErrorCode (ParserNumber × List Char)
  | '.' :: cs => parseDecimal positive significand 0 cs
  | 'e' :: cs => parseExponent positive significand 0 cs
  | 'E' :: cs => parseExponent positive significand 0 cs
  | cs => .ok (integerNumber positive significand, cs)

/-- The digit loop of `parse_integer`: digits into the `u64` `significand` while they fit. -/
def parseIntegerDigits (positive : Bool) : Nat → List Char → Except ErrorCode (ParserNumber × List Char)
  | significand, c :: cs =>
    if c.isDigit then
      if overflows significand (digitValue c) u64Max then
        parseLongInteger positive significand 0 (c :: cs)
      else parseIntegerDigits positive (significand * 10 + digitValue c) cs
    else parseNumber positive significand (c :: cs)
  | significand, [] => parseNumber positive significand []

/-- `parse_integer`: a number after its optional minus sign. -/
def parseInteger (positive : Bool) : List Char → Except ErrorCode (ParserNumber × List Char)
  | [] => .error .eofWhileParsingValue
  | '0' :: cs =>
    match cs with
    | c :: _ => if c.isDigit then .error .invalidNumber else parseNumber positive 0 cs
    | [] => parseNumber positive 0 cs
  | c :: cs =>
    if c.isDigit then parseIntegerDigits positive (digitValue c) cs
    else .error .invalidNumber

/-- The value of a hexadecimal digit. -/
def hexValue (c : Char) : Option Nat :=
  if c.isDigit then some (c.toNat - '0'.toNat)
  else if 'a' ≤ c ∧ c ≤ 'f' then some (c.toNat - 'a'.toNat + 10)
  else if 'A' ≤ c ∧ c ≤ 'F' then some (c.toNat - 'A'.toNat + 10)
  else none

/-- `decode_hex_escape`: four hexadecimal digits. -/
def hex4 (a b c d : Char) : Option Nat := do
  let a ← hexValue a
  let b ← hexValue b
  let c ← hexValue c
  let d ← hexValue d
  pure (((a * 16 + b) * 16 + c) * 16 + d)

/-- The one-character escapes of `parse_escape`. -/
def simpleEscape : Char → Option Char
  | '"' => some '"'
  | '\\' => some '\\'
  | '/' => some '/'
  | 'b' => some '\x08'
  | 'f' => some '\x0c'
  | 'n' => some '\n'
  | 'r' => some '\r'
  | 't' => some '\t'
  | _ => none

/-- `parse_escape`, after the backslash: the character an escape stands for, and the input after
the escape. A `\u` escape must encode a character: a leading surrogate must be followed by `\u`
and a trailing one, each read with `next_or_eof` and `decode_hex_escape`, and the two give one
character. -/
def parseEscape : List Char → Except ErrorCode (Char × List Char)
  | [] => .error .eofWhileParsingString
  | e :: rest =>
    if e = 'u' then
      match rest with
      | a :: b :: c :: d :: rest =>
        match hex4 a b c d with
        | none => .error .invalidEscape
        | some n =>
          if 0xDC00 ≤ n ∧ n ≤ 0xDFFF then .error .loneLeadingSurrogateInHexEscape
          else if n < 0xD800 ∨ 0xDBFF < n then .ok (Char.ofNat n, rest)
          else
            match rest with
            | [] => .error .eofWhileParsingString
            | c₁ :: rest =>
              if c₁ = '\\' then
                match rest with
                | [] => .error .eofWhileParsingString
                | c₂ :: rest =>
                  if c₂ = 'u' then
                    match rest with
                    | a' :: b' :: c' :: d' :: rest =>
                      match hex4 a' b' c' d' with
                      | none => .error .invalidEscape
                      | some n' =>
                        if 0xDC00 ≤ n' ∧ n' ≤ 0xDFFF then
                          .ok (Char.ofNat ((n - 0xD800) * 0x400 + (n' - 0xDC00) + 0x10000), rest)
                        else .error .loneLeadingSurrogateInHexEscape
                    | _ => .error .eofWhileParsingString
                  else .error .unexpectedEndOfHexEscape
              else .error .unexpectedEndOfHexEscape
      | _ => .error .eofWhileParsingString
    else
      match simpleEscape e with
      | some ch => .ok (ch, rest)
      | none => .error .invalidEscape

/-- `parse_str` after the opening quote: the string's characters (reversed in `acc` while
scanning), whether an escape occurred (the string is then `Reference::Copied`), and the input
after the closing quote. Each character is read as `parse_str` reads it: the closing quote, a
backslash and its escape (`parse_escape`), a control character, or a character of the string.
Every character read takes one unit of `fuel`, which the callers set to the length of the input,
so that the fuel runs out only on an input that has run out too. -/
def parseStrChars : Nat → List Char → List Char → Bool → Except ErrorCode (String × Bool × List Char)
  | 0, _, _, _ => .error .eofWhileParsingString
  | _ + 1, [], _, _ => .error .eofWhileParsingString
  | fuel + 1, c :: rest, acc, escaped =>
    if c = '"' then .ok (String.mk acc.reverse, escaped, rest)
    else if c = '\\' then
      (parseEscape rest).bind fun (ch, rest) => parseStrChars fuel rest (ch :: acc) true
    else if c.toNat < 0x20 then .error .controlCharacterWhileParsingString
    else parseStrChars fuel rest (c :: acc) escaped

/-! ## Arrays, objects, values -/

/-- `has_next_element` of `SeqAccess`: after the whitespace, the `]` that ends the array (`false`,
with the input after it), or the start of the next element (`true`); an element after the first
must follow a comma. -/
def hasNextElement (first : Bool) (cs : List Char) : Except ErrorCode (Bool × List Char) :=
  match parseWhitespace cs with
  | [] => .error .eofWhileParsingList
  | c :: rest =>
    if c = ']' then .ok (false, rest)
    else if first then .ok (true, c :: rest)
    else if c = ',' then
      match parseWhitespace rest with
      | [] => .error .eofWhileParsingValue
      | d :: rest' => if d = ']' then .error .trailingComma else .ok (true, d :: rest')
    else .error .expectedListCommaOrEnd

/-- `SeqAccess`: the elements of an array up to and including its `]`, each read by `element`.
`fuel` bounds the number of elements by the length of the input; when it runs out the input is
empty, where serde_json reports the end of input inside a list. -/
def parseSeqElems (element : List Char → Except ErrorCode (Value × List Char)) :
    Nat → Bool → List Char → Except ErrorCode (List Value × List Char)
  | 0, _, _ => .error .eofWhileParsingList
  | fuel + 1, first, cs =>
    match hasNextElement first cs with
    | .error e => .error e
    | .ok (false, rest) => .ok ([], rest)
    | .ok (true, input) =>
      (element input).bind fun (v, rest) =>
        (parseSeqElems element fuel false rest).map fun (vs, rest') => (v :: vs, rest')

/-- `has_next_key` of `MapAccess`: after the whitespace, the `}` that ends the object (`false`,
with the input after it), or the opening quote of the next key (`true`, with the input after
it); a key after the first must follow a comma. -/
def hasNextKey (first : Bool) (cs : List Char) : Except ErrorCode (Bool × List Char) :=
  match parseWhitespace cs with
  | [] => .error .eofWhileParsingObject
  | c :: rest =>
    if c = '}' then .ok (false, rest)
    else if first then
      if c = '"' then .ok (true, rest) else .error .keyMustBeAString
    else if c = ',' then
      match parseWhitespace rest with
      | [] => .error .eofWhileParsingValue
      | d :: rest' =>
        if d = '"' then .ok (true, rest')
        else if d = '}' then .error .trailingComma
        else .error .keyMustBeAString
    else .error .expectedObjectCommaOrEnd

/-- One entry of an object after its key's opening quote: the key, whether its spelling used an
escape, the colon, and the value read by `value`. With `borrowedKeys` (a `&str` key type) a key
with an escape is refused. -/
def parseMapEntry (borrowedKeys : Bool) (value : List Char → Except ErrorCode (Value × List Char))
    (input : List Char) : Except ErrorCode ((String × Bool × Value) × List Char) :=
  (parseStrChars input.length input [] false).bind fun (key, escaped, rest) =>
    if borrowedKeys ∧ escaped then .error .invalidType
    else
      match parseWhitespace rest with
      | ':' :: rest => (value rest).map fun (v, rest) => ((key, escaped, v), rest)
      | [] => .error .eofWhileParsingObject
      | _ => .error .expectedColon

/-- `MapAccess`: the entries of an object up to and including its `}`, each read by
`parseMapEntry`. `fuel` is as for `parseSeqElems`. -/
def parseMapEntries (borrowedKeys : Bool) (value : List Char → Except ErrorCode (Value × List Char)) :
    Nat → Bool → List Char → Except ErrorCode (List (String × Bool × Value) × List Char)
  | 0, _, _ => .error .eofWhileParsingObject
  | fuel + 1, first, cs =>
    match hasNextKey first cs with
    | .error e => .error e
    | .ok (false, rest) => .ok ([], rest)
    | .ok (true, input) =>
      (parseMapEntry borrowedKeys value input).bind fun (e, rest) =>
        (parseMapEntries borrowedKeys value fuel false rest).map fun (es, rest') => (e :: es, rest')

/-- The `Map` of parsed entries: inserted in order, the last of equal keys winning. -/
def toMap (entries : List (String × Bool × Value)) : List (String × Value) :=
  entries.foldl (fun m e => btreeInsert m (e.1, e.2.2)) []

/-- `deserialize_any` for `Value`, with `remainingDepth` left of the recursion budget. -/
def parseValue : Nat → List Char → Except ErrorCode (Value × List Char)
  | remainingDepth, cs =>
    match parseWhitespace cs with
    | [] => .error .eofWhileParsingValue
    | c :: rest =>
      if c = 'n' then (parseIdent ['u', 'l', 'l'] rest).map fun r => (.null, r)
      else if c = 't' then (parseIdent ['r', 'u', 'e'] rest).map fun r => (.bool true, r)
      else if c = 'f' then (parseIdent ['a', 'l', 's', 'e'] rest).map fun r => (.bool false, r)
      else if c = '-' then (parseInteger false rest).map fun (n, r) => (n.visit, r)
      else if c.isDigit then (parseInteger true (c :: rest)).map fun (n, r) => (n.visit, r)
      else if c = '"' then (parseStrChars rest.length rest [] false).map fun (s, _, r) => (.string s, r)
      else if c = '[' then
        match remainingDepth with
        | 0 => .error .recursionLimitExceeded
        | depth + 1 =>
          if depth = 0 then .error .recursionLimitExceeded
          else (parseSeqElems (parseValue depth) rest.length true rest).map
            fun (vs, r) => (.array vs, r)
      else if c = '{' then
        match remainingDepth with
        | 0 => .error .recursionLimitExceeded
        | depth + 1 =>
          if depth = 0 then .error .recursionLimitExceeded
          else (parseMapEntries false (parseValue depth) rest.length true rest).map
            fun (es, r) => (.object (toMap es), r)
      else .error .expectedSomeValue

/-- The recursion budget serde_json's `Deserializer` starts with. -/
def recursionLimit : Nat := 128

/-- `Deserializer::end`: only whitespace may follow the value. -/
def parseEnd {α : Type} (v : α) (rest : List Char) : Except ErrorCode α :=
  if parseWhitespace rest = [] then .ok v else .error .trailingCharacters

/-- `serde_json::from_str::<Value>`. -/
def fromStrValue (s : String) : Except ErrorCode Value :=
  (parseValue recursionLimit s.data).bind fun (v, rest) => parseEnd v rest

/-- `serde_json::from_str` into a map type: `deserialize_map` (an object, whose entries are read
with the recursion budget less the object's own level), then `end`. The entries come in document
order, each key with whether its spelling used an escape; with `borrowedKeys` the key type is
`&str`. -/
def fromStrMapEntries (borrowedKeys : Bool) (s : String) :
    Except ErrorCode (List (String × Bool × Value)) :=
  match parseWhitespace s.data with
  | [] => .error .eofWhileParsingValue
  | c :: rest =>
    if c = '{' then
      (parseMapEntries borrowedKeys (parseValue (recursionLimit - 1)) rest.length true rest).bind
        fun (entries, rest') => parseEnd entries rest'
    else .error .invalidType

/-- `serde_json::from_str::<HashMap<&str, Value>>`: the entries inserted in document order, so
that the map lists its keys in the order they first appear and the last of equal keys wins. -/
def fromStrBorrowedMap (s : String) : Except ErrorCode (List (String × Value)) :=
  (fromStrMapEntries true s).map fun entries =>
    entries.foldl (fun m e => hashInsert m (e.1, e.2.2)) []

/-! ## Display -/

/-- `format_escaped_str_contents`: quotes, backslashes and control characters escaped. -/
def escapeChar (c : Char) : List Char :=
  if c = '"' then ['\\', '"']
  else if c = '\\' then ['\\', '\\']
  else if c = '\x08' then ['\\', 'b']
  else if c = '\x0c' then ['\\', 'f']
  else if c = '\n' then ['\\', 'n']
  else if c = '\r' then ['\\', 'r']
  else if c = '\t' then ['\\', 't']
  else if c.toNat < 0x20 then
    ['\\', 'u', '0', '0', Nat.digitChar (c.toNat / 16), Nat.digitChar (c.toNat % 16)]
  else [c]

/-- A string as serde_json writes it, in quotes. -/
def quote (s : String) : String := String.mk ('"' :: s.data.flatMap escapeChar ++ ['"'])

/-- `ryu::Buffer::format_finite`'s layout of `±digits × 10^k`. -/
def ryuLayout (negative : Bool) (m : Nat) (k : Int) : String :=
  let sign := if negative then "-" else ""
  if m = 0 then sign ++ "0.0"
  else
    let ds := (Nat.repr m).data
    let kk : Int := ds.length + k
    let body :=
      if 0 ≤ k ∧ kk ≤ 16 then ds ++ List.replicate k.toNat '0' ++ ['.', '0']
      else if 0 < kk ∧ kk ≤ 16 then ds.take kk.toNat ++ '.' :: ds.drop kk.toNat
      else if -5 < kk ∧ kk ≤ 0 then ['0', '.'] ++ List.replicate (-kk).toNat '0' ++ ds
      else if ds.length = 1 then ds ++ 'e' :: (toString (kk - 1)).data
      else ds.take 1 ++ '.' :: ds.drop 1 ++ 'e' :: (toString (kk - 1)).data
    sign ++ String.mk body

/-- The text of a number. -/
def Number.text : Number → String
  | .posInt n => Nat.repr n
  | .negInt n => toString n
  | .float negative x =>
    let (m, k) := x.d2d
    ryuLayout negative m k

mutual

/-- `impl Display for Value` (compact `serde_json::to_string`). -/
def Value.text : Value → String
  | .null => "null"
  | .bool b => if b then "true" else "false"
  | .number n => n.text
  | .string s => quote s
  | .array elems => "[" ++ Value.elemsText elems ++ "]"
  | .object entries => "\x7b" ++ Value.entriesText entries ++ "\x7d"

/-- The elements of an array, separated by commas. -/
def Value.elemsText : List Value → String
  | [] => ""
  | [v] => v.text
  | v :: vs => v.text ++ "," ++ Value.elemsText vs

/-- The entries of an object, separated by commas. -/
def Value.entriesText : List (String × Value) → String
  | [] => ""
  | [(k, v)] => quote k ++ ":" ++ v.text
  | (k, v) :: es => quote k ++ ":" ++ v.text ++ "," ++ Value.entriesText es

end

/-- `Value::as_str`. -/
def Value.asStr : Value → Option String
  | .string s => some s
  | _ => none

/-- `Value::as_bool`. -/
def Value.asBool : Value → Option Bool
  | .bool b => some b
  | _ => none

/-- `Value::as_object`. -/
def Value.asObject : Value → Option (List (String × Value))
  | .object entries => some entries
  | _ => none

end QoveryEngine.Json
