import SceneEditor.Text.Quoted

namespace SceneEditor.Text

/-!
# UTF-8

A text has one encoding, and decoding accepts nothing but encodings of texts: no overlong form, no
surrogate and no code point beyond the last one.  A lenient reader takes an encoded surrogate
for the replacement character.
-/

/-- Bytes in their order. -/
abbrev Bytes := List UInt8

/-- The bytes of a text. -/
def encodeUtf8 (text : List Char) : Bytes :=
  text.flatMap String.utf8EncodeChar

/-- The character that stands for what cannot be read. -/
def replacementChar : Char := Char.ofNat 0xFFFD

/-- The six bits of a byte that goes on with a character. -/
def continuation? (byte : UInt8) : Option Nat :=
  if 0x80 ≤ byte.toNat ∧ byte.toNat < 0xC0 then some (byte.toNat - 0x80) else none

/-- The code point belongs to a pair, and is no character. -/
def isSurrogate (code : Nat) : Bool :=
  decide (0xD800 ≤ code) && decide (code < 0xE000)

/-- The character of a code point; a surrogate has one only for the lenient reader. -/
def scalar? (lenient : Bool) (code : Nat) : Option Char :=
  if code.isValidChar then some (Char.ofNat code)
  else if lenient && isSurrogate code then some replacementChar
  else none

/-- The character of a code point that needs at least `least`. -/
def scalarFrom? (lenient : Bool) (least code : Nat) : Option Char :=
  if least ≤ code then scalar? lenient code else none

/-- The text that bytes encode, if they encode one. -/
def decodeUtf8With? (lenient : Bool) : Bytes → Option (List Char)
  | [] => some []
  | first :: rest =>
      if first.toNat < 0x80 then
        (decodeUtf8With? lenient rest).map (Char.ofNat first.toNat :: ·)
      else
        match rest with
        | [] => none
        | second :: rest => do
            let two ← continuation? second
            if 0xC0 ≤ first.toNat ∧ first.toNat < 0xE0 then
              let c ← scalarFrom? lenient 0x80 ((first.toNat - 0xC0) * 0x40 + two)
              return c :: (← decodeUtf8With? lenient rest)
            else
              match rest with
              | [] => none
              | third :: rest => do
                  let three ← continuation? third
                  if 0xE0 ≤ first.toNat ∧ first.toNat < 0xF0 then
                    let c ← scalarFrom? lenient 0x800
                      (((first.toNat - 0xE0) * 0x40 + two) * 0x40 + three)
                    return c :: (← decodeUtf8With? lenient rest)
                  else
                    match rest with
                    | [] => none
                    | fourth :: rest => do
                        let four ← continuation? fourth
                        if 0xF0 ≤ first.toNat ∧ first.toNat < 0xF8 then
                          let c ← scalarFrom? lenient 0x10000
                            ((((first.toNat - 0xF0) * 0x40 + two) * 0x40 + three) * 0x40 + four)
                          return c :: (← decodeUtf8With? lenient rest)
                        else none

/-- Decode a text strictly. -/
def decodeUtf8? (bytes : Bytes) : Option (List Char) :=
  decodeUtf8With? false bytes

/-!
## Where decoding stops
-/

/-- What is wrong with bytes that are no text. -/
inductive Utf8Defect where
  /-- No character begins with the byte. -/
  | badStart
  /-- The byte behind them does not go on with their character. -/
  | badContinuation
  /-- Their character is not complete. -/
  | cutOff
  deriving DecidableEq, Repr

/-- The wording of a defect. -/
def Utf8Defect.message : Utf8Defect → String
  | badStart => "invalid start byte"
  | badContinuation => "invalid continuation byte"
  | cutOff => "unexpected end of data"

/-- The first bytes that are no text: where they begin, the first of them, and how many they are. -/
structure Utf8Fault where
  place : Nat
  first : UInt8
  count : Nat
  defect : Utf8Defect
  deriving DecidableEq, Repr

/-- The wording of a fault, which tells the byte or the places of the bytes. -/
def Utf8Fault.message (fault : Utf8Fault) : String :=
  let bytes :=
    if fault.count = 1 then
      "byte 0x" ++ String.ofList (hexDigits 2 fault.first.toNat) ++ " in position "
        ++ toString fault.place
    else
      "bytes in position " ++ toString fault.place ++ "-"
        ++ toString (fault.place + fault.count - 1)
  "'utf-8' codec can't decode " ++ bytes ++ ": " ++ fault.defect.message

/-- How many bytes a character needs behind its first one, if any character begins so. -/
def following? (first : UInt8) : Option Nat :=
  if first.toNat < 0x80 then some 0
  else if first.toNat < 0xC2 then none
  else if first.toNat < 0xE0 then some 1
  else if first.toNat < 0xF0 then some 2
  else if first.toNat < 0xF5 then some 3
  else none

/-- A byte that goes on with a character. -/
def isContinuation (byte : UInt8) : Bool :=
  (continuation? byte).isSome

/-- The least and the last byte that may stand behind a first one: some of these leave out overlong
forms, surrogates or code points beyond the last one. -/
def secondRange (first : UInt8) : Nat × Nat :=
  if first = 0xE0 then (0xA0, 0xBF)
  else if first = 0xED then (0x80, 0x9F)
  else if first = 0xF0 then (0x90, 0xBF)
  else if first = 0xF4 then (0x80, 0x8F)
  else (0x80, 0xBF)

/-- The byte may stand behind a first one. -/
def isSecond (first second : UInt8) : Bool :=
  let range := secondRange first
  decide (range.1 ≤ second.toNat) && decide (second.toNat ≤ range.2)

/-- How many of the bytes behind a first one go on with its character. -/
def goingOn (first : UInt8) : Bytes → Nat
  | [] => 0
  | second :: rest =>
      if isSecond first second then (rest.takeWhile isContinuation).length + 1 else 0

/-- The first bytes that are no text, behind a number of bytes that are not looked at; if all of them
are a text, there is none, and the fault has its place at the end. -/
def faultFrom : (skipped place : Nat) → Bytes → Utf8Fault
  | _, place, [] => { place, first := 0, count := 0, defect := .cutOff }
  | skipped + 1, place, _ :: rest => faultFrom skipped (place + 1) rest
  | 0, place, first :: rest =>
      match following? first with
      | none => { place, first, count := 1, defect := .badStart }
      | some wanted =>
          let found := goingOn first (rest.take wanted)
          if found = wanted then faultFrom wanted (place + 1) rest
          else
            let defect := if found = rest.length then .cutOff else .badContinuation
            { place, first, count := found + 1, defect }

/-- Where decoding stops, and why. -/
def utf8Fault (bytes : Bytes) : Utf8Fault :=
  faultFrom 0 0 bytes

end SceneEditor.Text

namespace SceneEditor

/-- A message from the server, which comes as a text or as bytes. -/
inductive Message where
  | text (text : String)
  | bytes (bytes : Text.Bytes)
  deriving DecidableEq, Repr

end SceneEditor
