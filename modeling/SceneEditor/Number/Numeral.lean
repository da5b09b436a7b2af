import SceneEditor.Number.Binary64
import SceneEditor.Number.Error
import SceneEditor.Text.Characters

namespace SceneEditor.Numeral

/-!
# Reading numerals

A numeral is made of decimal digits of any script, and a single underscore may stand between two
digits.  Blanks around it are skipped, but of the ASCII characters only the space and the five
controls from the tab to the carriage return count as blanks here.
-/

/-- A blank that may stand around a numeral. -/
def isOuterBlank (c : Char) : Bool :=
  if c.toNat < 0x80 then c = ' ' || (decide (9 ≤ c.toNat) && decide (c.toNat ≤ 13))
  else Text.isBlank c

/-- A sign, if there is one, and what follows it; the flag tells a minus. -/
def splitSign : List Char → Bool × List Char
  | '-' :: rest => (true, rest)
  | '+' :: rest => (false, rest)
  | text => (false, text)

/-- The digits after a digit, where an underscore counts only in front of another digit. -/
def moreDigits : List Char → List Nat × List Char
  | [] => ([], [])
  | '_' :: c :: rest =>
      match Text.digitValue? c with
      | some digit =>
          let (digits, after) := moreDigits rest
          (digit :: digits, after)
      | none => ([], '_' :: c :: rest)
  | c :: rest =>
      match Text.digitValue? c with
      | some digit =>
          let (digits, after) := moreDigits rest
          (digit :: digits, after)
      | none => ([], c :: rest)

/-- The longest run of digits at the start of a text, and what follows it. -/
def takeDigits : List Char → List Nat × List Char
  | [] => ([], [])
  | c :: rest =>
      match Text.digitValue? c with
      | some digit =>
          let (digits, after) := moreDigits rest
          (digit :: digits, after)
      | none => ([], c :: rest)

/-- The number that decimal digits write. -/
def valueOf (digits : List Nat) : Nat :=
  digits.foldl (fun value digit => value * 10 + digit) 0

/-- Read an integer: a sign and digits. -/
def integer? (text : String) : Except NumberError Int :=
  let (negative, body) := splitSign (Text.trimWhile isOuterBlank text.toList)
  let (digits, after) := takeDigits body
  if NumberError.digitLimit < digits.length ∧ after.head? ≠ some '_' then
    .error (.tooManyDigits digits.length)
  else if digits.isEmpty || !after.isEmpty then
    .error (.unreadableInteger text)
  else
    .ok (if negative then -(valueOf digits : Int) else valueOf digits)

/-- The number nearest to a decimal, without building powers of ten that no number needs. -/
def nearestDecimal (negative : Bool) (digits : List Nat) (exponent : Int) : Binary64 :=
  let significant := digits.dropWhile (· = 0)
  if significant.isEmpty then .zero negative
  else if 400 < significant.length + exponent then .infinity negative
  else if significant.length + exponent < -400 then .zero negative
  else .ofDecimal negative (valueOf significant) exponent

/-- The exponent mark at the start of a text, if a whole one stands there, and what follows it. -/
def takeExponent : List Char → Int × List Char
  | [] => (0, [])
  | c :: rest =>
      if c = 'e' || c = 'E' then
        let (negative, body) := splitSign rest
        match takeDigits body with
        | ([], _) => (0, c :: rest)
        | (digits, after) =>
            (if negative then -(valueOf digits : Int) else valueOf digits, after)
      else (0, c :: rest)

/-- The fraction mark at the start of a text with the digits after it, and what follows them. -/
def takeFraction : List Char → List Nat × List Char
  | '.' :: rest => takeDigits rest
  | text => ([], text)

/-- The infinity or the value that is not a number, if a word for one is written. -/
def special? (negative : Bool) (body : List Char) : Option Binary64 :=
  let word := String.ofList (body.map Char.toLower)
  if word = "inf" ∨ word = "infinity" then some (.infinity negative)
  else if word = "nan" then some .nan
  else none

/-- Read digits with a fraction and an exponent, either of which may be missing. -/
def decimal? (negative : Bool) (body : List Char) : Option Binary64 :=
  let (whole, afterWhole) := takeDigits body
  let (fraction, afterFraction) := takeFraction afterWhole
  let (exponent, after) := takeExponent afterFraction
  if (whole ++ fraction).isEmpty || !after.isEmpty then none
  else some (nearestDecimal negative (whole ++ fraction) (exponent - fraction.length))

/-- The binary floating-point number that a text writes, with or without a sign and with blanks
around it. -/
def real? (text : String) : Except NumberError Binary64 :=
  let (negative, body) := splitSign (Text.trimWhile isOuterBlank text.toList)
  match special? negative body <|> decimal? negative body with
  | some value => .ok value
  | none => .error (.unreadableReal text)

end SceneEditor.Numeral
