import SceneEditor.Json.Reader
import SceneEditor.Text.Utf8

namespace SceneEditor.Json

/-!
# Documents given as bytes

A document is encoded in UTF-8, UTF-16 or UTF-32.  A mark at its start tells which; without a
mark the places of the zero bytes among the first four tell.
-/

/-- An encoding of documents. -/
inductive Encoding where
  | utf8
  | utf16 (bigEndian : Bool)
  | utf32 (bigEndian : Bool)
  deriving DecidableEq, Repr

/-- The encoding of a document and the document without its mark. -/
def detect (bytes : Text.Bytes) : Encoding × Text.Bytes :=
  match bytes with
  | 0x00 :: 0x00 :: 0xFE :: 0xFF :: rest => (.utf32 true, rest)
  | 0xFF :: 0xFE :: 0x00 :: 0x00 :: rest => (.utf32 false, rest)
  | 0xFE :: 0xFF :: rest => (.utf16 true, rest)
  | 0xFF :: 0xFE :: rest => (.utf16 false, rest)
  | 0xEF :: 0xBB :: 0xBF :: rest => (.utf8, rest)
  | a :: b :: c :: d :: _ =>
      if a = 0 then (if b = 0 then .utf32 true else .utf16 true, bytes)
      else if b = 0 then (if c = 0 ∧ d = 0 then .utf32 false else .utf16 false, bytes)
      else (.utf8, bytes)
  | [a, b] =>
      if a = 0 then (.utf16 true, bytes)
      else if b = 0 then (.utf16 false, bytes)
      else (.utf8, bytes)
  | _ => (.utf8, bytes)

/-- The units of two bytes that a document is made of; there is no half unit. -/
def units16? (bigEndian : Bool) : Text.Bytes → Option (List Nat)
  | [] => some []
  | [_] => none
  | a :: b :: rest =>
      let unit := if bigEndian then a.toNat * 0x100 + b.toNat else b.toNat * 0x100 + a.toNat
      (units16? bigEndian rest).map (unit :: ·)

/-- The characters of units of two bytes; a surrogate that stands alone is replaced. -/
def charsOfUnits16 : List Nat → List Char
  | [] => []
  | [unit] => [(Text.scalar? true unit).getD Text.replacementChar]
  | unit :: next :: rest =>
      match joinSurrogates? unit next with
      | some joined => Char.ofNat joined :: charsOfUnits16 rest
      | none =>
          (Text.scalar? true unit).getD Text.replacementChar :: charsOfUnits16 (next :: rest)

/-- The characters of units of four bytes, each of which is a code point. -/
def decode32? (bigEndian : Bool) : Text.Bytes → Option (List Char)
  | [] => some []
  | a :: b :: c :: d :: rest => do
      let bytes := if bigEndian then [a, b, c, d] else [d, c, b, a]
      let code := bytes.foldl (fun value byte => value * 0x100 + byte.toNat) 0
      let first ← Text.scalar? true code
      return first :: (← decode32? bigEndian rest)
  | _ => none

/-- The text that bytes encode, in the encoding that their first bytes tell. -/
def decode? (bytes : Text.Bytes) : Option (List Char) :=
  match detect bytes with
  | (.utf8, rest) => Text.decodeUtf8With? true rest
  | (.utf16 bigEndian, rest) => (units16? bigEndian rest).map charsOfUnits16
  | (.utf32 bigEndian, rest) => decode32? bigEndian rest

end SceneEditor.Json

namespace SceneEditor

namespace Message

/--
The JSON value that a message holds.  A text must not begin with a byte-order mark, while bytes
may begin with the mark of their encoding.
-/
def json : Message → Except Json.ReadError Json
  | text content =>
      if content.toList.head? = some (Char.ofNat 0xFEFF) then .error .malformed
      else Json.read content.toList
  | bytes content =>
      match Json.decode? content with
      | some decoded => Json.read decoded
      | none => .error .undecodable

end Message

end SceneEditor
