import SceneEditor.Text.Quoted

namespace SceneEditor

/-!
# Failures of arithmetic and of reading numbers

One constructor per cause, and the wording of each in one place.
-/

/-- Why a number could not be computed or read. -/
inductive NumberError where
  /-- An integer beyond the range of the binary format. -/
  | integerTooLarge
  /-- A quotient of integers beyond the range of the binary format. -/
  | quotientTooLarge
  /-- The square of a finite number beyond the range of the binary format. -/
  | squareTooLarge
  /-- An infinity where an integer is wanted. -/
  | infiniteInteger
  /-- A value that is not a number where an integer is wanted. -/
  | undefinedInteger
  /-- A text that is not the numeral of a real number. -/
  | unreadableReal (text : String)
  /-- A text that is not the numeral of an integer. -/
  | unreadableInteger (text : String)
  /-- An integer numeral with more digits than are read. -/
  | tooManyDigits (count : Nat)
  /-- An integer with more digits than are written. -/
  | unwritableInteger
  /-- A range of more numbers than a list may have. -/
  | rangeTooLong
  /-- A value of a kind that no real number is read from. -/
  | notReal (kind : String)
  /-- A value of a kind that no integer is read from. -/
  | notInteger (kind : String)
  deriving DecidableEq, Repr

namespace NumberError

/-- How many digits an integer may have that is read or written. -/
def digitLimit : Nat := 4300

/-- How much of an unreadable integer numeral a message shows. -/
def excerptLength : Nat := 200

/-- The wording of an error. -/
def message : NumberError → String
  | integerTooLarge => "int too large to convert to float"
  | quotientTooLarge => "integer division result too large for a float"
  | squareTooLarge => "(34, 'Numerical result out of range')"
  | infiniteInteger => "cannot convert float infinity to integer"
  | undefinedInteger => "cannot convert float NaN to integer"
  | unreadableReal text => "could not convert string to float: " ++ quoted text
  | unreadableInteger text =>
      "invalid literal for int() with base 10: "
        ++ String.ofList ((quoted text).toList.take excerptLength)
  | tooManyDigits count =>
      s!"Exceeds the limit ({digitLimit} digits) for integer string conversion: "
        ++ s!"value has {count} digits; use sys.set_int_max_str_digits() to increase the limit"
  | unwritableInteger =>
      s!"Exceeds the limit ({digitLimit} digits) for integer string conversion; "
        ++ "use sys.set_int_max_str_digits() to increase the limit"
  | rangeTooLong => "Python int too large to convert to C ssize_t"
  | notReal kind => s!"float() argument must be a string or a real number, not '{kind}'"
  | notInteger kind =>
      "int() argument must be a string, a bytes-like object or a real number, "
        ++ s!"not '{kind}'"

/-- The failure is a result out of range. -/
def isOverflow : NumberError → Bool
  | integerTooLarge | quotientTooLarge | squareTooLarge | infiniteInteger | rangeTooLong => true
  | _ => false

end NumberError

end SceneEditor
