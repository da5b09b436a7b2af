import SceneEditor.Number.Decimal
import SceneEditor.Number.Error

namespace SceneEditor

/-!
# Numbers of two kinds

A number is an integer of any size or a binary floating-point number.  Two integers are added and
subtracted exactly; where one of the two is a floating-point number, an integer is first rounded
to one, which fails beyond the range of the format.  Comparisons are exact for both kinds.
-/

/-- An integer or a binary floating-point number. -/
inductive Num where
  | int (value : Int)
  | real (value : Binary64)
  deriving DecidableEq, Repr

namespace Num

instance : OfNat Num n where
  ofNat := .int n

/-- The binary floating-point number nearest to a number; an integer may be too large to have one.
-/
def toReal : Num → Except NumberError Binary64
  | int value =>
      match Binary64.ofInt value with
      | .infinity _ => .error .integerTooLarge
      | rounded => .ok rounded
  | real value => .ok value

/-- Apply an exact operation to two integers, and one that rounds to all else. -/
def combine
    (exact : Int → Int → Int)
    (rounded : Binary64 → Binary64 → Binary64) :
    Num → Num → Except NumberError Num
  | int left, int right => .ok (int (exact left right))
  | left, right => do
      let l ← left.toReal
      let r ← right.toReal
      return real (rounded l r)

/-- The sum, which is an integer if both numbers are. -/
def add : Num → Num → Except NumberError Num :=
  combine (· + ·) Binary64.add

/-- The difference, which is an integer if both numbers are. -/
def sub : Num → Num → Except NumberError Num :=
  combine (· - ·) Binary64.sub

/-- The product, which is an integer if both numbers are. -/
def mul : Num → Num → Except NumberError Num :=
  combine (· * ·) Binary64.mul

/-- The quotient as a floating-point number, rounded once from the exact one. -/
def div : Num → Num → Except NumberError Num
  | int left, int right =>
      let negative := decide (left < 0) != decide (right < 0)
      match Binary64.nearest negative (left.natAbs * unitsPerOne) right.natAbs with
      | .infinity _ => .error .quotientTooLarge
      | quotient => .ok (real quotient)
  | left, right => do
      let l ← left.toReal
      let r ← right.toReal
      return real (l.div r)

/-- The first number is smaller; never so when one of the two is not a number. -/
def lt : Num → Num → Bool
  | int left, int right => decide (left < right)
  | real left, real right => left.lt right
  | int left, real right =>
      match right with
      | .nan => false
      | .infinity negative => !negative
      | .finite negative rank =>
          decide (left * unitsPerOne < Binary64.signedUnits negative rank)
  | real left, int right =>
      match left with
      | .nan => false
      | .infinity negative => negative
      | .finite negative rank =>
          decide (Binary64.signedUnits negative rank < right * unitsPerOne)

/-- The numbers are equal; a value that is not a number equals nothing. -/
def equals : Num → Num → Bool
  | int left, int right => decide (left = right)
  | real left, real right => left.equals right
  | int left, real (.finite negative rank) =>
      decide (left * unitsPerOne = Binary64.signedUnits negative rank)
  | real (.finite negative rank), int right =>
      decide (Binary64.signedUnits negative rank = right * unitsPerOne)
  | _, _ => false

/-- The first number is smaller or equal; never so when one of the two is not a number. -/
def le (left right : Num) : Bool :=
  left.lt right || left.equals right

/-- The value is not a number. -/
def isNan : Num → Bool
  | int _ => false
  | real value => value.isNan

/-- The numbers are equal, or neither of them is a number. -/
def agrees (left right : Num) : Bool :=
  left.equals right || (left.isNan && right.isNan)

/-- The second number if it is larger, else the first. -/
def max (left right : Num) : Num :=
  if left.lt right then right else left

/-- The second number if it is smaller, else the first. -/
def min (left right : Num) : Num :=
  if right.lt left then right else left

/-- The exact text: an integer in decimal, a floating-point number by its shortest text. -/
def text : Num → String
  | int value => toString value
  | real value => value.text

/-- The text on the wire, where a whole number of either kind is written without a point. -/
def wireText : Num → String
  | int value => toString value
  | real value =>
      match value.integral? with
      | some whole => toString whole
      | none => value.text

/-- A number with a fixed number of digits behind its point. -/
def fixedText (places : Nat) (value : Num) : Except NumberError String := do
  return (← value.toReal).fixedText places

end Num

end SceneEditor
