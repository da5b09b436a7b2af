namespace SceneEditor

/-!
# Binary floating-point numbers of 64 bits

The finite numbers of the format are, up to sign, a finite increasing sequence, so a finite
number is a sign and its rank in that sequence.  Every finite number is a whole multiple of
`2 ^ (-1074)`, its number of *units*.  An operation computes the exact result as a quotient
of natural numbers counted in units and rounds it once, to the nearest number and to the
one of even rank when two are equally near.
-/

/-- The quotient of two natural numbers rounded to the nearest one, a half to the even neighbour. -/
def roundHalfEven (num den : Nat) : Nat :=
  let floor := num / den
  let twice := 2 * (num % den)
  if twice < den then floor
  else if den < twice then floor + 1
  else if floor % 2 = 0 then floor
  else floor + 1

/-- How many finite numbers without a sign the format has. -/
def finiteCount : Nat := 2047 * Nat.pow 2 52

/-- How many of the smallest positive numbers make one. -/
def unitsPerOne : Nat := Nat.pow 2 1074

/-- A number of the format: not a number, an infinity, or a sign with a rank. -/
inductive Binary64 where
  | nan
  | infinity (negative : Bool)
  | finite (negative : Bool) (rank : Fin finiteCount)
  deriving DecidableEq, Repr

namespace Binary64

/-- The units of the finite number with a given rank. -/
def units (rank : Nat) : Nat :=
  if rank < Nat.pow 2 53 then rank
  else (Nat.pow 2 52 + rank % Nat.pow 2 52) * Nat.pow 2 (rank / Nat.pow 2 52 - 1)

/-- The units of a finite number with its sign. -/
def signedUnits (negative : Bool) (rank : Nat) : Int :=
  if negative then -(units rank : Int) else units rank

/--
The number nearest to `num / den` units.  Above `2 ^ 53` units the neighbours are
`2 ^ shift` units apart, and the ranks go on without a gap over the powers of two.
-/
def nearest (negative : Bool) (num den : Nat) : Binary64 :=
  let shift := (num / den).log2 - 52
  let rank := shift * Nat.pow 2 52 + roundHalfEven num (den * Nat.pow 2 shift)
  if bounded : rank < finiteCount then
    finite negative ⟨rank, bounded⟩
  else
    infinity negative

/-- The zero of a sign. -/
def zero (negative : Bool) : Binary64 :=
  finite negative ⟨0, by decide⟩

/-- The number nearest to `coefficient · 10 ^ exponent`. -/
def ofDecimal (negative : Bool) (coefficient : Nat) (exponent : Int) : Binary64 :=
  match exponent with
  | .ofNat power =>
      nearest negative (coefficient * Nat.pow 10 power * unitsPerOne) 1
  | .negSucc power =>
      nearest negative (coefficient * unitsPerOne) (Nat.pow 10 (power + 1))

/-- The number nearest to an integer, which may be too large for a finite one. -/
def ofInt (value : Int) : Binary64 :=
  nearest (decide (value < 0)) (value.natAbs * unitsPerOne) 1

instance : OfNat Binary64 n where
  ofNat := ofInt n

/-- The value is not a number. -/
def isNan : Binary64 → Bool
  | nan => true
  | _ => false

/-- The value is neither infinite nor not a number. -/
def isFinite : Binary64 → Bool
  | finite _ _ => true
  | _ => false

/--
Where a number stands on the line, counted in units.  The infinities stand where the
next finite number would; a value that is not a number stands nowhere.
-/
def position? : Binary64 → Option Int
  | nan => none
  | infinity negative => some (signedUnits negative finiteCount)
  | finite negative rank => some (signedUnits negative rank)

/-- The first number is smaller; never so when one of the two is not a number. -/
def lt (left right : Binary64) : Bool :=
  match left.position?, right.position? with
  | some l, some r => decide (l < r)
  | _, _ => false

/-- The first number is smaller or equal; never so when one of the two is not a number. -/
def le (left right : Binary64) : Bool :=
  match left.position?, right.position? with
  | some l, some r => decide (l ≤ r)
  | _, _ => false

/-- The numbers are equal; the two zeros are, and a value that is not a number equals nothing. -/
def equals (left right : Binary64) : Bool :=
  match left.position?, right.position? with
  | some l, some r => decide (l = r)
  | _, _ => false

/-- The numbers are equal, or neither of them is a number. -/
def agrees (left right : Binary64) : Bool :=
  decide (left.position? = right.position?)

/-- The number of the other sign. -/
def neg : Binary64 → Binary64
  | nan => nan
  | infinity negative => infinity (!negative)
  | finite negative rank => finite (!negative) rank

/-- The exact sum rounded once; an exact zero is negative only as a sum of two negative zeros. -/
def add : Binary64 → Binary64 → Binary64
  | nan, _ => nan
  | _, nan => nan
  | infinity s, infinity t => if s = t then infinity s else nan
  | infinity s, finite _ _ => infinity s
  | finite _ _, infinity t => infinity t
  | finite s a, finite t b =>
      let sum := signedUnits s a + signedUnits t b
      if sum = 0 then zero (s && t)
      else nearest (decide (sum < 0)) sum.natAbs 1

/-- The difference, rounded once. -/
def sub (left right : Binary64) : Binary64 :=
  add left right.neg

/-- The exact product rounded once. -/
def mul : Binary64 → Binary64 → Binary64
  | nan, _ => nan
  | _, nan => nan
  | infinity s, infinity t => infinity (s != t)
  | infinity s, finite t b => if (b : Nat) = 0 then nan else infinity (s != t)
  | finite s a, infinity t => if (a : Nat) = 0 then nan else infinity (s != t)
  | finite s a, finite t b =>
      nearest (s != t) (units a * units b) unitsPerOne

/-- The exact quotient rounded once. -/
def div : Binary64 → Binary64 → Binary64
  | nan, _ => nan
  | _, nan => nan
  | infinity _, infinity _ => nan
  | infinity s, finite t _ => infinity (s != t)
  | finite s _, infinity t => zero (s != t)
  | finite s a, finite t b =>
      if (b : Nat) = 0 then
        if (a : Nat) = 0 then nan else infinity (s != t)
      else
        nearest (s != t) (units a * unitsPerOne) (units b)

/-- One step of the bitwise search for a square root: keep the bit if the square still fits. -/
def squareRootStep (value root bit : Nat) : Nat :=
  let candidate := root + Nat.pow 2 bit
  if candidate * candidate ≤ value then candidate else root

/-- The largest natural number whose square is at most `value`. -/
def squareRootFloor (value : Nat) : Nat :=
  (List.range (value.log2 / 2 + 1)).foldr (fun bit root => squareRootStep value root bit) 0

/--
The square root rounded once.  An inexact root is moved half a unit up from its floor:
the roots are so large that no midpoint between two numbers lies within a unit.
-/
def sqrt : Binary64 → Binary64
  | nan => nan
  | infinity negative => if negative then nan else infinity false
  | finite negative rank =>
      if (rank : Nat) = 0 then finite negative rank
      else if negative then nan
      else
        let square := units rank * unitsPerOne
        let root := squareRootFloor square
        nearest false (2 * root + if root * root = square then 0 else 1) 2

/-- The second number if it is larger, else the first. -/
def max (left right : Binary64) : Binary64 :=
  if left.lt right then right else left

/-- The second number if it is smaller, else the first. -/
def min (left right : Binary64) : Binary64 :=
  if right.lt left then right else left

/-- The integer that a finite number is, if it is one. -/
def integral? : Binary64 → Option Int
  | finite negative rank =>
      if units rank % unitsPerOne = 0 then
        let whole : Int := (units rank / unitsPerOne : Nat)
        some (if negative then -whole else whole)
      else none
  | _ => none

/-- The integer between a finite number and zero that is nearest to the number. -/
def truncated? : Binary64 → Option Int
  | finite negative rank =>
      let whole : Int := (units rank / unitsPerOne : Nat)
      some (if negative then -whole else whole)
  | _ => none

end Binary64

end SceneEditor
