import SceneEditor.Number.Numeral
import SceneEditor.Text.Characters
import SceneEditor.Text.Cut
import SceneEditor.Text.Utf8
import SceneEditor.Text.Quoted

namespace SceneEditor

/-!
# Frames

A frame is a command, headers and a body, written as text: the command on a line, each header on a
line, an empty line, the body and a NUL.  A header that tells the length of the body in bytes
lets the body hold a NUL.  A message of nothing but line ends is a heart-beat.
-/

/-- A frame; no two of its headers have one name. -/
structure Frame where
  command : String
  headers : List (String × String) := []
  body : String := ""
  deriving DecidableEq, Repr

/-- Why a message is no frame. -/
inductive FrameError where
  | notUtf8 (fault : Text.Utf8Fault)
  | noTerminator
  | unknownCommand (command : String)
  | malformedHeader (line : String)
  | badEscape (text : String)
  | badLength (text : String)
  | wrongLength
  /-- The bytes up to the end that a header claims are no text. -/
  | brokenBody
  | notTerminated
  deriving DecidableEq, Repr

/-- The wording of an error. -/
def FrameError.message : FrameError → String
  | notUtf8 fault => "Frame is not UTF-8: " ++ fault.message
  | noTerminator => "Frame has no header terminator"
  | unknownCommand command => "Unknown STOMP command: " ++ quoted command
  | malformedHeader line => "Malformed header line: " ++ quoted line
  | badEscape text => "Invalid header escape in " ++ quoted text
  | badLength text => "Bad content-length: " ++ quoted text
  | wrongLength => "Frame body shorter than content-length or not NUL terminated"
  | brokenBody => "Frame body is not UTF-8"
  | notTerminated => "Frame is not NUL terminated"

namespace Header

/-- The name of the header that tells the length of the body. -/
def lengthName : String := "content-length"

/-- The value of a header; the first header of that name counts. -/
def find? (name : String) (headers : List (String × String)) : Option String :=
  (headers.find? fun (known, _) => known == name).map Prod.snd

/-- Set a header: a name that is there keeps its place. -/
def set (name value : String) : List (String × String) → List (String × String)
  | [] => [(name, value)]
  | (known, old) :: rest =>
      if known = name then (name, value) :: rest
      else (known, old) :: set name value rest

/-- Add a header unless one of its name is there. -/
def addFirst
    (name value : String)
    (headers : List (String × String)) :
    List (String × String) :=
  if (find? name headers).isSome then headers
  else headers ++ [(name, value)]

/-- A character that cannot stand in a header is written with a backslash. -/
def escapeChar : Char → List Char
  | '\\' => ['\\', '\\']
  | '\r' => ['\\', 'r']
  | '\n' => ['\\', 'n']
  | ':' => ['\\', 'c']
  | c => [c]

/-- A text as it is written in a header. -/
def escape (text : List Char) : List Char :=
  text.flatMap escapeChar

/-- The character that a letter after a backslash stands for. -/
def escaped? : Char → Option Char
  | '\\' => some '\\'
  | 'r' => some '\r'
  | 'n' => some '\n'
  | 'c' => some ':'
  | _ => none

/-- The text of an escaped form, if every backslash in it begins an escape. -/
def unescape? : List Char → Option (List Char)
  | [] => some []
  | '\\' :: c :: rest => do
      let value ← escaped? c
      return value :: (← unescape? rest)
  | c :: rest => if c = '\\' then none else (unescape? rest).map (c :: ·)

/-- The text that a header writes, or an error that quotes the header. -/
def unescape (text : String) : Except FrameError String :=
  match unescape? text.toList with
  | some value => .ok (String.ofList value)
  | none => .error (.badEscape text)

end Header

namespace Frame

/-- The commands of frames that a client sends. -/
def clientCommands : List String :=
  [
    "CONNECT", "STOMP", "SEND", "SUBSCRIBE", "UNSUBSCRIBE", "ACK", "NACK", "BEGIN", "COMMIT",
    "ABORT", "DISCONNECT"
  ]

/-- The commands of frames that a server sends. -/
def serverCommands : List String :=
  ["CONNECTED", "MESSAGE", "RECEIPT", "ERROR"]

/-- The command is one of a client or of a server. -/
def isKnown (command : String) : Bool :=
  serverCommands.contains command || clientCommands.contains command

/-- The headers of all but two commands are escaped. -/
def escapesHeaders (command : String) : Bool :=
  command != "CONNECT" && command != "CONNECTED"

/-- The byte that ends a frame, as a character. -/
def nul : Char := Char.ofNat 0

/-- The value of a header of a frame. -/
def header? (frame : Frame) (name : String) : Option String :=
  Header.find? name frame.headers

/-- The headers as they are sent: a body that is not empty has its length among them. -/
def sentHeaders (frame : Frame) : List (String × String) :=
  if frame.body.isEmpty then frame.headers
  else
    Header.addFirst Header.lengthName
      (toString (Text.encodeUtf8 frame.body.toList).length) frame.headers

/-- A header on its line, the name in front of a colon and the value behind it. -/
def headerLine (escapes : Bool) (name value : String) : List Char :=
  if escapes then Header.escape name.toList ++ ':' :: Header.escape value.toList
  else name.toList ++ ':' :: value.toList

/-- A frame as text whose lines end with a given line end. -/
def encodeWith (lineEnd : List Char) (frame : Frame) : List Char :=
  let lines := frame.command.toList
    :: frame.sentHeaders.map fun (name, value) =>
      headerLine (escapesHeaders frame.command) name value
  (lines.flatMap fun line => line ++ lineEnd) ++ lineEnd ++ frame.body.toList ++ [nul]

/-- A frame as it is sent, with a line feed at the end of each line. -/
def encode (frame : Frame) : String :=
  String.ofList (frame.encodeWith ['\n'])

/-- A carriage return or a line feed. -/
def isLineEnd (c : Char) : Bool :=
  c = '\r' || c = '\n'

/-- The text has nothing but line ends in it. -/
def isHeartbeatText (text : List Char) : Bool :=
  text.all isLineEnd

/-- The head and the body of a frame, parted by the first empty line. -/
def parts? (text : List Char) : Option (List Char × List Char) :=
  match Text.cutAt? ['\n', '\n'] text with
  | some found => some found
  | none => Text.cutAt? ['\r', '\n', '\r', '\n'] text

/-- Read one header line; an earlier header of the same name wins. -/
def readHeader
    (escapes : Bool)
    (headers : List (String × String))
    (line : List Char) :
    Except FrameError (List (String × String)) :=
  if line.isEmpty then .ok headers
  else
    match Text.cutAt? [':'] line with
    | none => .error (.malformedHeader (String.ofList line))
    | some (name, value) =>
        let name := String.ofList name
        let value := String.ofList value
        if escapes then do
          let name ← Header.unescape name
          let value ← Header.unescape value
          return Header.addFirst name value headers
        else
          .ok (Header.addFirst name value headers)

/-- The place in bytes that an offset means; a negative one counts from the end. -/
def place (size : Nat) (offset : Int) : Nat :=
  if offset < 0 then (size + offset).toNat
  else min size offset.toNat

/-- The bytes from one offset up to another; a negative offset counts from the end. -/
def bytesBetween (bytes : Text.Bytes) (start stop : Int) : Text.Bytes :=
  let first := place bytes.length start
  (bytes.drop first).take (place bytes.length stop - first)

/-- The body of a length that a header tells: a NUL has to stand at that offset, and nothing is said
of what follows it. -/
def readSized (size : Int) (rest : List Char) : Except FrameError String :=
  let bytes := Text.encodeUtf8 rest
  if bytes.length < size + 1 then .error .wrongLength
  else if bytesBetween bytes size (size + 1) = [0] then
    match Text.decodeUtf8? (bytesBetween bytes 0 size) with
    | some body => .ok (String.ofList body)
    | none => .error .brokenBody
  else .error .wrongLength

/-- The body of a frame, given its headers and what follows its empty line. -/
def readBody (headers : List (String × String)) (rest : List Char) : Except FrameError String :=
  match Header.find? Header.lengthName headers with
  | some length =>
      match Numeral.integer? length with
      | .ok size => readSized size rest
      | .error _ => .error (.badLength length)
  | none =>
      match Text.cutAt? [nul] rest with
      | some (body, _) => .ok (String.ofList body)
      | none => .error .notTerminated

/-- Read a message as a frame; a heart-beat is none. -/
def decodeText? (text : List Char) : Except FrameError (Option Frame) :=
  if isHeartbeatText text then .ok none
  else
    match parts? (text.dropWhile isLineEnd) with
    | none => .error .noTerminator
    | some (head, rest) => do
        let lines := Text.pieces '\n' (Text.replaceAll ['\r', '\n'] ['\n'] head)
        let command := String.ofList (Text.trim (lines.headD []))
        if isKnown command then
          let headers ← lines.tail.foldlM (readHeader (escapesHeaders command)) []
          let body ← readBody headers rest
          return some { command, headers, body }
        else
          throw (.unknownCommand command)

/-- Read a message as a frame; a heart-beat is none. -/
def decode? : Message → Except FrameError (Option Frame)
  | .text content => decodeText? content.toList
  | .bytes content =>
      match Text.decodeUtf8? content with
      | some decoded => decodeText? decoded
      | none => .error (.notUtf8 (Text.utf8Fault content))

/-- The message is a heart-beat, whether or not its bytes are a text. -/
def isHeartbeat : Message → Bool
  | .text content => isHeartbeatText content.toList
  | .bytes content => content.all fun byte => byte = 13 || byte = 10

/-- The frame that asks for a connection to a host. -/
def connect (host : String) (heartbeat : Int) : Frame where
  command := "CONNECT"
  headers := [
    ("accept-version", "1.2"),
    ("host", host),
    ("heart-beat", toString heartbeat ++ "," ++ toString heartbeat)
  ]

/-- The frame that subscribes to a topic. -/
def subscribe (destination subscription : String) : Frame where
  command := "SUBSCRIBE"
  headers := [("id", subscription), ("destination", destination), ("ack", "auto")]

/-- The frame that sends a text to a destination. -/
def send (destination body : String) : Frame where
  command := "SEND"
  headers := [("destination", destination), ("content-type", "text/plain;charset=UTF-8")]
  body := body

/-- The frame that takes leave of the server and asks for a receipt. -/
def disconnect (receipt : String) : Frame where
  command := "DISCONNECT"
  headers := [("receipt", receipt)]

end Frame

end SceneEditor
