import SceneEditor.Json.Basic
import SceneEditor.Number.Numeral
import SceneEditor.Text.Cut

namespace SceneEditor.Yaml

/-!
# Plain scalars

A scalar without quotes is null, a truth value, an integer or a real number if it is written like
one, and a text otherwise.  Integers may be written with a base, and both kinds of numbers in parts
of sixty, as times of the day are.
-/

/-- The words for nothing. -/
def nullWords : List String :=
  ["", "~", "null", "Null", "NULL"]

/-- The words for what is true. -/
def trueWords : List String :=
  ["yes", "Yes", "YES", "true", "True", "TRUE", "on", "On", "ON"]

/-- The words for what is false. -/
def falseWords : List String :=
  ["no", "No", "NO", "false", "False", "FALSE", "off", "Off", "OFF"]

/-- The words for the infinity, without a sign. -/
def infinityWords : List String :=
  [".inf", ".Inf", ".INF"]

/-- The words for what is not a number. -/
def nanWords : List String :=
  [".nan", ".NaN", ".NAN"]

/-- The value of a digit in a base up to sixteen. -/
def digitIn? (base : Nat) (c : Char) : Option Nat :=
  let value :=
    if c.isDigit then c.toNat - '0'.toNat
    else if 'a' ≤ c ∧ c ≤ 'f' then c.toNat - 'a'.toNat + 10
    else if 'A' ≤ c ∧ c ≤ 'F' then c.toNat - 'A'.toNat + 10
    else base
  if value < base then some value else none

/-- The number that digits of a base write, of which there is at least one. -/
def natural? (base : Nat) (digits : List Char) : Option Nat :=
  if digits.isEmpty then none
  else digits.foldlM (fun value c => (digitIn? base c).map (value * base + ·)) 0

/-- One of the parts of sixty behind the first: a number below sixty in one or two digits. -/
def sixtieth? (digits : List Char) : Option Nat :=
  match digits with
  | [_] => natural? 10 digits
  | [tens, _] => if '0' ≤ tens ∧ tens ≤ '5' then natural? 10 digits else none
  | _ => none

/-- The number that parts of sixty write, the first of which may be larger. -/
def ofParts? (first : Nat) (parts : List (List Char)) : Option Nat :=
  parts.foldlM (fun value part => (sixtieth? part).map (value * 60 + ·)) first

/-- The text without its underscores, if it does not begin with one. -/
def joined? (text : List Char) : Option (List Char) :=
  if text.head? = some '_' then none else some (text.filter (· != '_'))

/-- The integer that a text without a sign writes, in base two, eight, ten or sixteen, or in parts
of sixty with colons between them. -/
def unsigned? (text : List Char) : Option Nat :=
  match text with
  | ['0'] => some 0
  | '0' :: 'b' :: digits => natural? 2 (digits.filter (· != '_'))
  | '0' :: 'x' :: digits => natural? 16 (digits.filter (· != '_'))
  | '0' :: digits => natural? 8 ('0' :: digits.filter (· != '_'))
  | _ => do
      match Text.pieces ':' (← joined? text) with
      | [] => none
      | first :: parts => ofParts? (← natural? 10 first) parts

/-- The exponent of a real number always has a sign. -/
def hasSignedExponent (text : List Char) : Bool :=
  match text.dropWhile fun c => c != 'e' && c != 'E' with
  | [] => true
  | _ :: sign :: digits => (sign = '+' || sign = '-') && (natural? 10 digits).isSome
  | _ => false

/-- The real number that a text with a point writes, in ASCII digits alone. -/
def pointed? (text : List Char) : Option Binary64 := do
  let digits ← joined? text
  let isMark (c : Char) := c.isDigit || c = '.' || c = 'e' || c = 'E' || c = '+' || c = '-'
  if digits.contains '.' && digits.all isMark && hasSignedExponent digits then
    Numeral.decimal? false digits
  else none

/-- The sum of parts of sixty, the last of which has a point. -/
def pointedParts? (parts : List (List Char)) : Option Binary64 :=
  match parts.reverse with
  | [] => none
  | last :: earlier => do
      let rest ← pointed? last
      let _ ← sixtieth? (last.takeWhile (· != '.'))
      let whole ← match earlier.reverse with
        | [] => none
        | first :: middle => ofParts? (← natural? 10 first) middle
      return rest.add (.ofInt (whole * 60))

/-- The real number behind a sign that may be missing; a digit stands in front of its point. -/
def unsignedReal? (text : List Char) : Option Binary64 :=
  if infinityWords.contains (String.ofList text) then some (.infinity false)
  else if text.head? = some '.' then none
  else if text.contains ':' then pointedParts? (Text.pieces ':' text)
  else pointed? text

/-- The real number that begins with a point, in front of which no sign may stand. -/
def bareFraction? (text : List Char) : Option Binary64 :=
  if text.head? = some '.' then pointed? text else none

/-- A sign, and the value behind it. -/
def signed? (text : List Char) (negate : α → α) (read : List Char → Option α) : Option α :=
  match text with
  | '-' :: rest => (read rest).map negate
  | '+' :: rest => read rest
  | _ => read text

/-- The value of a scalar without quotes. -/
def scalar (text : String) : Json :=
  if nullWords.contains text then .null
  else if trueWords.contains text then .bool true
  else if falseWords.contains text then .bool false
  else if nanWords.contains text then .number (.real .nan)
  else
    match signed? text.toList (fun n => -n) fun digits => (unsigned? digits).map Int.ofNat with
    | some value => .number (.int value)
    | none =>
        match signed? text.toList Binary64.neg unsignedReal? <|> bareFraction? text.toList with
        | some value => .number (.real value)
        | none => .string text

end SceneEditor.Yaml
