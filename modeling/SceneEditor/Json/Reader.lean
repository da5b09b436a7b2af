import SceneEditor.Json.Basic
import SceneEditor.Number.Numeral
import SceneEditor.Text.Cut
import SceneEditor.Text.Utf8

namespace SceneEditor.Json

/-!
# Reading JSON

Strict JSON with the three words `NaN`, `Infinity` and `-Infinity`.  A numeral without a fraction
and an exponent is an integer.  Of a repeated key the last value counts, at the place of the
first.  Three things are refused besides malformed texts: integers with too many digits, deep
nesting, and bytes that are no text.
-/

/-- Why a document could not be read. -/
inductive ReadError where
  | malformed
  | tooManyDigits
  | tooDeep
  | undecodable
  deriving DecidableEq, Repr

/-- How deep lists and objects may stand inside one another. -/
def depthLimit : Nat := 990

/-- A character that may stand between the parts of a document. -/
def isGap (c : Char) : Bool :=
  c = ' ' || c = '\t' || c = '\n' || c = '\r'

/-- A text without the gap that it begins with. -/
def skipGap (text : List Char) : List Char :=
  text.dropWhile isGap

/-- The number that four hexadecimal digits write. -/
def hex4? (a b c d : Char) : Option Nat := do
  let a ← Text.hexValue? a
  let b ← Text.hexValue? b
  let c ← Text.hexValue? c
  let d ← Text.hexValue? d
  return ((a * 16 + b) * 16 + c) * 16 + d

/-- The character that one letter after a backslash stands for. -/
def simpleEscape? : Char → Option Char
  | '"' => some '"'
  | '\\' => some '\\'
  | '/' => some '/'
  | 'b' => some (Char.ofNat 8)
  | 'f' => some (Char.ofNat 12)
  | 'n' => some '\n'
  | 'r' => some '\r'
  | 't' => some '\t'
  | _ => none

/-- The code point of two surrogates that belong together. -/
def joinSurrogates? (high low : Nat) : Option Nat :=
  if 0xD800 ≤ high ∧ high < 0xDC00 ∧ 0xDC00 ≤ low ∧ low < 0xE000 then
    some (0x10000 + (high - 0xD800) * 0x400 + (low - 0xDC00))
  else none

/-- Split a text at its closing quote; a character after a backslash closes nothing. -/
def splitQuoted? : List Char → Option (List Char × List Char)
  | [] => none
  | '"' :: rest => some ([], rest)
  | '\\' :: c :: rest => (splitQuoted? rest).map fun (body, after) => ('\\' :: c :: body, after)
  | c :: rest => (splitQuoted? rest).map fun (body, after) => (c :: body, after)

/-- The first of two surrogates. -/
def isHighSurrogate (code : Nat) : Bool :=
  decide (0xD800 ≤ code) && decide (code < 0xDC00)

/-- What is written for an escaped surrogate whose second half does not follow. -/
def unpaired (high? : Option Nat) : List Char :=
  if high?.isSome then [Text.replacementChar] else []

/--
The text that stands between two quotes, given the first half of an escaped pair of surrogates
that was read just before.  A half that stands alone is the replacement character.
-/
def unescapeAfter? (high? : Option Nat) : List Char → Option (List Char)
  | [] => some (unpaired high?)
  | '\\' :: 'u' :: a :: b :: c :: d :: rest => do
      let code ← hex4? a b c d
      match high?.bind fun high => joinSurrogates? high code with
      | some joined => return Char.ofNat joined :: (← unescapeAfter? none rest)
      | none =>
          if isHighSurrogate code then
            return unpaired high? ++ (← unescapeAfter? (some code) rest)
          else
            let value := (Text.scalar? true code).getD Text.replacementChar
            return unpaired high? ++ value :: (← unescapeAfter? none rest)
  | '\\' :: letter :: rest => do
      let value ← simpleEscape? letter
      return unpaired high? ++ value :: (← unescapeAfter? none rest)
  | c :: rest =>
      if c = '\\' || decide (c.toNat < 0x20) then none
      else (unescapeAfter? none rest).map fun after => unpaired high? ++ c :: after

/-- The text up to its closing quote, and what stands behind that. -/
def readString (text : List Char) : Except ReadError (String × List Char) :=
  match splitQuoted? text with
  | none => .error .malformed
  | some (body, rest) =>
      match unescapeAfter? none body with
      | none => .error .malformed
      | some value => .ok (String.ofList value, rest)

/-- ASCII digits at the start of a text, and what follows them. -/
def spanDigits (text : List Char) : List Char × List Char :=
  text.span Char.isDigit

/-- The digits of an integer, which starts with a zero only if it is zero. -/
def wholePart? : List Char → Option (List Char × List Char)
  | '0' :: rest => some (['0'], rest)
  | text =>
      match spanDigits text with
      | ([], _) => none
      | (digits, rest) => some (digits, rest)

/-- The digits of a fraction, if there is one. -/
def fractionPart : List Char → Option (List Char) × List Char
  | '.' :: text =>
      match spanDigits text with
      | ([], _) => (none, '.' :: text)
      | (digits, rest) => (some digits, rest)
  | text => (none, text)

/-- The exponent, if there is one. -/
def exponentPart : List Char → Option Int × List Char
  | [] => (none, [])
  | c :: rest =>
      if c = 'e' || c = 'E' then
        let (negative, body) := Numeral.splitSign rest
        match spanDigits body with
        | ([], _) => (none, c :: rest)
        | (digits, after) =>
            let magnitude : Int := Numeral.valueOf (digits.map fun d => d.toNat - '0'.toNat)
            (some (if negative then -magnitude else magnitude), after)
      else (none, c :: rest)

/-- The number that a text begins with: an integer, or a real one if it has a fraction or an
exponent. -/
def readNumber (text : List Char) : Except ReadError (Json × List Char) :=
  let (negative, body) :=
    match text with
    | '-' :: rest => (true, rest)
    | _ => (false, text)
  match wholePart? body with
  | none => .error .malformed
  | some (whole, afterWhole) =>
      let (fraction?, afterFraction) := fractionPart afterWhole
      let (exponent?, rest) := exponentPart afterFraction
      let valueOf (digits : List Char) := digits.map fun d => d.toNat - '0'.toNat
      if fraction?.isNone && exponent?.isNone then
        if NumberError.digitLimit < whole.length then .error .tooManyDigits
        else
          let magnitude : Int := Numeral.valueOf (valueOf whole)
          .ok (number (.int (if negative then -magnitude else magnitude)), rest)
      else
        let fraction := fraction?.getD []
        let value := Numeral.nearestDecimal negative (valueOf (whole ++ fraction))
          (exponent?.getD 0 - fraction.length)
        .ok (number (.real value), rest)

/-- The words that are values, with what they stand for. -/
def words : List (List Char × Json) :=
  [
    (['n', 'u', 'l', 'l'], null),
    (['t', 'r', 'u', 'e'], bool true),
    (['f', 'a', 'l', 's', 'e'], bool false),
    (['N', 'a', 'N'], number (.real .nan)),
    (['I', 'n', 'f', 'i', 'n', 'i', 't', 'y'], number (.real (.infinity false))),
    (['-', 'I', 'n', 'f', 'i', 'n', 'i', 't', 'y'], number (.real (.infinity true)))
  ]

/-- The value of a word at the start of a text, and what follows it. -/
def readWord? (text : List Char) : Option (Json × List Char) :=
  words.findSome? fun (word, value) => (Text.after? word text).map fun rest => (value, rest)

mutual

/-- Read one value.  The fuel bounds the characters that are read, the depth the nesting. -/
def readValue (fuel depth : Nat) (text : List Char) : Except ReadError (Json × List Char) :=
  match fuel with
  | 0 => .error .malformed
  | fuel + 1 =>
      match text with
      | '"' :: rest => do
          let (value, after) ← readString rest
          return (string value, after)
      | '[' :: rest =>
          if depth = 0 then .error .tooDeep
          else
            match skipGap rest with
            | ']' :: after => .ok (array [], after)
            | body => readItems fuel (depth - 1) [] body
      | '\x7b' :: rest =>
          if depth = 0 then .error .tooDeep
          else
            match skipGap rest with
            | '\x7d' :: after => .ok (object [], after)
            | body => readFields fuel (depth - 1) [] body
      | _ =>
          match readWord? text with
          | some found => .ok found
          | none => readNumber text

/-- Read the items of a list after those read before, which stand in reverse. -/
def readItems
    (fuel depth : Nat)
    (read : List Json)
    (text : List Char) :
    Except ReadError (Json × List Char) :=
  match fuel with
  | 0 => .error .malformed
  | fuel + 1 => do
      let (item, rest) ← readValue fuel depth text
      match skipGap rest with
      | ']' :: after => return (array (item :: read).reverse, after)
      | ',' :: after => readItems fuel depth (item :: read) (skipGap after)
      | _ => .error .malformed

/-- The fields up to the closing brace of an object, added to those that were read. -/
def readFields
    (fuel depth : Nat)
    (read : List (String × Json))
    (text : List Char) :
    Except ReadError (Json × List Char) :=
  match fuel, text with
  | fuel + 1, '"' :: quotedKey => do
      let (key, afterKey) ← readString quotedKey
      match skipGap afterKey with
      | ':' :: afterColon =>
          let (value, rest) ← readValue fuel depth (skipGap afterColon)
          let fields := setField key value read
          match skipGap rest with
          | '\x7d' :: after => return (object fields, after)
          | ',' :: after => readFields fuel depth fields (skipGap after)
          | _ => .error .malformed
      | _ => .error .malformed
  | _, _ => .error .malformed

end

/-- The value that a document holds; nothing but a gap may stand behind it. -/
def read (text : List Char) : Except ReadError Json := do
  let (value, rest) ← readValue (2 * text.length + 2) depthLimit (skipGap text)
  if (skipGap rest).isEmpty then return value
  else .error .malformed

end SceneEditor.Json
