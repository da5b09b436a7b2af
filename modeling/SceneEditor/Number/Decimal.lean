import SceneEditor.Number.Binary64

namespace SceneEditor

/-!
# Decimal text of binary floating-point numbers

Three texts of a finite number are made from its exact value: the shortest decimal that
reads back as the number, a decimal with a fixed number of places, and a decimal with a
fixed number of significant digits.  A decimal reads back when the nearest number of the
format is the number itself, so the shortest text is tested against reading.
-/

/-- The decimal `coefficient · 10 ^ exponent`. -/
structure Decimal where
  coefficient : Nat
  exponent : Int
  deriving DecidableEq, Repr

namespace Decimal

/-- The digits of the coefficient without the zeros at its end. -/
def digits (decimal : Decimal) : List Char :=
  match ((Nat.toDigits 10 decimal.coefficient).reverse.dropWhile (· = '0')).reverse with
  | [] => ['0']
  | shortened => shortened

/-- How many of the digits stand in front of the decimal point. -/
def point (decimal : Decimal) : Int :=
  decimal.exponent + (Nat.toDigits 10 decimal.coefficient).length

/-- How a decimal is laid out as text. -/
structure Layout where
  /-- The smallest decimal exponent that is written with a point at its place. -/
  lowestPositional : Int
  /-- The smallest decimal exponent above that one that is written as an exponent again. -/
  lowestScientific : Int
  /-- What follows a whole number. -/
  wholeMark : List Char
  deriving DecidableEq, Repr

/-- A number of zeros. -/
private def zeros (count : Nat) : List Char :=
  List.replicate count '0'

/-- The digits with the point at its place. -/
def positional (layout : Layout) (digits : List Char) (point : Int) : List Char :=
  if point ≤ 0 then
    '0' :: '.' :: (zeros (-point).toNat ++ digits)
  else if digits.length ≤ point.toNat then
    digits ++ zeros (point.toNat - digits.length) ++ layout.wholeMark
  else
    digits.take point.toNat ++ '.' :: digits.drop point.toNat

/-- A decimal exponent with its sign and at least two digits. -/
def exponentMark (exponent : Int) : List Char :=
  let magnitude := Nat.toDigits 10 exponent.natAbs
  'e' :: (if exponent < 0 then '-' else '+')
    :: (zeros (2 - magnitude.length) ++ magnitude)

/-- One digit in front of the point, the others after it, and the exponent. -/
def scientific (digits : List Char) (point : Int) : List Char :=
  match digits with
  | [] => []
  | [digit] => digit :: exponentMark (point - 1)
  | digit :: rest => digit :: '.' :: (rest ++ exponentMark (point - 1))

/-- A decimal in positional form, or in scientific form if its exponent is out of the range of the
layout. -/
def render (layout : Layout) (decimal : Decimal) : List Char :=
  let exponent := decimal.point - 1
  if layout.lowestPositional ≤ exponent ∧ exponent < layout.lowestScientific then
    positional layout decimal.digits decimal.point
  else
    scientific decimal.digits decimal.point

end Decimal

namespace Binary64

/-- A finite number divided by a power of ten, as a quotient of natural numbers. -/
def scaledDown (rank : Nat) (exponent : Int) : Nat × Nat :=
  match exponent with
  | .ofNat power => (units rank, unitsPerOne * Nat.pow 10 power)
  | .negSucc power => (units rank * Nat.pow 10 (power + 1), unitsPerOne)

/-- The decimal exponent of the leading digit of a number that is not zero. -/
def leadingExponent (rank : Nat) : Int :=
  ((Nat.toDigits 10 (units rank * Nat.pow 10 400 / unitsPerOne)).length : Int) - 401

/-- The decimal reads back as the finite number of this rank. -/
def readsBack (rank : Fin finiteCount) (decimal : Decimal) : Bool :=
  decide (ofDecimal false decimal.coefficient decimal.exponent = finite false rank)

/--
One of the two decimals next to the quotient that reads back, if there is one; if both do, the
nearer one is chosen.
-/
def neighbour? (rank : Fin finiteCount) (num den : Nat) (exponent : Int) : Option Decimal :=
  let lower : Decimal := ⟨num / den, exponent⟩
  let upper : Decimal := ⟨num / den + 1, exponent⟩
  match readsBack rank lower, readsBack rank upper with
  | true, true => some ⟨roundHalfEven num den, exponent⟩
  | true, false => some lower
  | false, true => some upper
  | false, false => none

/--
A decimal with `count` digits that reads back, if there is one.  If any such decimal does,
then so does one of the two next to the number.
-/
def withDigits? (rank : Fin finiteCount) (count : Nat) : Option Decimal :=
  let exponent := leadingExponent rank - count + 1
  let quotient := scaledDown rank exponent
  neighbour? rank quotient.1 quotient.2 exponent

/-- Every digit of a finite number, of which there are finitely many. -/
def allDigits (rank : Nat) : Decimal :=
  ⟨units rank * Nat.pow 5 1074, -1074⟩

/-- The decimal with the fewest digits that reads back; seventeen digits always suffice. -/
def shortest (rank : Fin finiteCount) : Decimal :=
  if (rank : Nat) = 0 then ⟨0, 0⟩
  else ((List.range 17).findSome? fun fewer => withDigits? rank (fewer + 1)).getD (allDigits rank)

/-- The nearest decimal with `count` significant digits, a half to the even one. -/
def significant (count : Nat) (rank : Fin finiteCount) : Decimal :=
  if (rank : Nat) = 0 then ⟨0, 0⟩
  else
    let exponent := leadingExponent rank - count + 1
    let (num, den) := scaledDown rank exponent
    ⟨roundHalfEven num den, exponent⟩

/-- A text with a minus in front of it if the number is negative. -/
private def signed (negative : Bool) (text : List Char) : List Char :=
  if negative then '-' :: text else text

/-- The text of a number whose finite magnitudes are written by `magnitude`. -/
def textWith (magnitude : Fin finiteCount → List Char) : Binary64 → String
  | nan => "nan"
  | infinity negative => String.ofList (signed negative ['i', 'n', 'f'])
  | finite negative rank => String.ofList (signed negative (magnitude rank))

/-- Exact texts keep the point up to sixteen digits and mark a whole number by `.0`. -/
def exactLayout : Decimal.Layout where
  lowestPositional := -4
  lowestScientific := 16
  wholeMark := ['.', '0']

/-- Short texts have six digits and no mark on a whole number. -/
def shortLayout : Decimal.Layout where
  lowestPositional := -4
  lowestScientific := 6
  wholeMark := []

/-- The shortest text that reads back as the number. -/
def text (value : Binary64) : String :=
  value.textWith fun rank => (shortest rank).render exactLayout

/-- A number in at most six significant digits. -/
def shortText (value : Binary64) : String :=
  value.textWith fun rank => (significant 6 rank).render shortLayout

/-- A natural number of `10 ^ (-places)`, written with that many places. -/
def placed (places hundredths : Nat) : List Char :=
  let written := Nat.toDigits 10 hundredths
  let padded := List.replicate (places + 1 - written.length) '0' ++ written
  let whole := padded.length - places
  padded.take whole ++ '.' :: padded.drop whole

/-- The number to `places` decimal places (at least one), a half to the even neighbour. -/
def fixedText (places : Nat) (value : Binary64) : String :=
  value.textWith fun rank =>
    placed places (roundHalfEven (units rank * Nat.pow 10 places) unitsPerOne)

end Binary64

end SceneEditor
