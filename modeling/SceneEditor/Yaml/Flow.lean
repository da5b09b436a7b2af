import SceneEditor.Json.Reader
import SceneEditor.Yaml.Scalar

namespace SceneEditor.Yaml

/-!
# Flow nodes

A flow node is a scalar, with or without quotes, a list in square brackets or a mapping in braces.
It may go on over several lines, and a comment may stand at the end of each.
-/

/-- A space, or the end of a line. -/
def isSpace (c : Char) : Bool :=
  c = ' ' || c = '\n'

/-- Drop spaces, line ends and comments; a comment stands behind a space or starts a line. -/
def skipBlanks : (isFree : Bool) → List Char → List Char
  | _, [] => []
  | isFree, c :: rest =>
      if isSpace c then skipBlanks true rest
      else if c = '#' && isFree then skipComment rest
      else c :: rest
where
  skipComment : List Char → List Char
    | [] => []
    | c :: rest => if c = '\n' then skipBlanks true rest else skipComment rest

/-- The character that a letter after a backslash stands for. -/
def escapes : List (Char × Nat) :=
  [
    ('0', 0), ('a', 7), ('b', 8), ('t', 9), ('\t', 9), ('n', 10), ('v', 11), ('f', 12), ('r', 13),
    ('e', 27), (' ', 32), ('"', 34), ('/', 47), ('\\', 92), ('N', 0x85), ('_', 0xA0),
    ('L', 0x2028), ('P', 0x2029)
  ]

/-- How many hexadecimal digits follow a letter after a backslash. -/
def hexLength? : Char → Option Nat
  | 'x' => some 2
  | 'u' => some 4
  | 'U' => some 8
  | _ => none

/-- A text in double quotes, given what stands behind the opening quote. -/
def doubleQuoted? : List Char → Option (List Char × List Char)
  | [] => none
  | '"' :: rest => some ([], rest)
  | '\\' :: c :: rest =>
      match hexLength? c with
      | some length =>
          match natural? 16 (rest.take length) with
          | some code =>
              if (rest.take length).length = length ∧ code < 0x110000 then
                (doubleQuoted? (rest.drop length)).map fun (text, after) =>
                  (Char.ofNat code :: text, after)
              else none
          | none => none
      | none =>
          match escapes.find? fun (letter, _) => letter == c with
          | some (_, code) =>
              (doubleQuoted? rest).map fun (text, after) => (Char.ofNat code :: text, after)
          | none => none
  | c :: rest =>
      (doubleQuoted? rest).map fun (text, after) =>
        ((if c = '\n' then ' ' else c) :: text, after)
termination_by text => text.length
decreasing_by all_goals (simp only [List.length_cons, List.length_drop]; omega)

/-- A text in single quotes, given what stands behind the opening quote. -/
def singleQuoted? : List Char → Option (List Char × List Char)
  | [] => none
  | '\'' :: '\'' :: rest =>
      (singleQuoted? rest).map fun (text, after) => ('\'' :: text, after)
  | '\'' :: rest => some ([], rest)
  | c :: rest =>
      (singleQuoted? rest).map fun (text, after) =>
        ((if c = '\n' then ' ' else c) :: text, after)

/-- The text in quotes of either kind, and what stands behind it. -/
def quoted? : List Char → Option (String × List Char)
  | '"' :: rest => (doubleQuoted? rest).map fun (text, after) => (String.ofList text, after)
  | '\'' :: rest => (singleQuoted? rest).map fun (text, after) => (String.ofList text, after)
  | _ => none

/-- A character that no scalar without quotes begins with. -/
def isIndicator (c : Char) : Bool :=
  [',', '[', ']', '\x7b', '\x7d', '#', '&', '*', '!', '|', '>', '\'', '"', '%', '@', Char.ofNat 96,
    '\t'].contains c

/-- A character that only begins a scalar without quotes when a character follows it at once. -/
def isLooseIndicator (c : Char) : Bool :=
  c = '-' || c = '?' || c = ':'

/-- A scalar without quotes begins here. -/
def beginsPlain : List Char → Bool
  | [] => false
  | c :: rest =>
      if isIndicator c then false
      else if isLooseIndicator c then
        match rest with
        | [] => false
        | next :: _ => !isSpace next && next != '\t'
      else !isSpace c

/-- A character that parts the nodes of a list or a mapping. -/
def isDelimiter (c : Char) : Bool :=
  c = ',' || c = '[' || c = ']' || c = '\x7b' || c = '\x7d' || c = '?'

/-- A colon in front of this text ends a key. -/
def endsKey (isDelimiter : Char → Bool) : List Char → Bool
  | [] => true
  | c :: _ => isSpace c || c = '\t' || isDelimiter c

/-- A scalar without quotes up to a delimiter, a comment or a key's colon, and what follows. -/
def plain (isDelimiter : Char → Bool) : (isFree : Bool) → List Char → List Char × List Char
  | _, [] => ([], [])
  | isFree, c :: rest =>
      if isDelimiter c || (c = ':' && endsKey isDelimiter rest) || (c = '#' && isFree)
          || c = '\t' then
        ([], c :: rest)
      else
        let (text, after) := plain isDelimiter (isSpace c) rest
        ((if c = '\n' then ' ' else c) :: text, after)

/-- The value of a text without quotes. -/
def plainValue (text : List Char) : Json :=
  scalar (String.ofList (Text.dropEndWhile isSpace text))

/-- What a value is called when it is a key. -/
def keyName? : Json → Option String
  | .array _ => none
  | .object _ => none
  | value => some value.plainText

mutual

/-- Read a flow node in no more than a number of steps. -/
def flowNode : Nat → List Char → Option (Json × List Char)
  | 0, _ => none
  | steps + 1, text =>
      match text with
      | '[' :: rest => flowItems steps (skipBlanks false rest) []
      | '\x7b' :: rest => flowFields steps (skipBlanks false rest) []
      | '"' :: _ => (quoted? text).map fun (value, after) => (.string value, after)
      | '\'' :: _ => (quoted? text).map fun (value, after) => (.string value, after)
      | _ =>
          if beginsPlain text then
            let (value, after) := plain isDelimiter false text
            some (plainValue value, after)
          else none

/-- Read the value behind a key and its colon; it may be missing. -/
def flowValue : Nat → List Char → Option (Json × List Char)
  | 0, _ => none
  | steps + 1, text =>
      match skipBlanks false text with
      | [] => none
      | c :: rest =>
          if c = ',' || c = ']' || c = '\x7d' then some (.null, c :: rest)
          else flowNode steps (c :: rest)

/-- Read the items of a list up to its bracket; an item may be a key with its value. -/
def flowItems : Nat → List Char → List Json → Option (Json × List Char)
  | 0, _, _ => none
  | steps + 1, text, found =>
      match text with
      | ']' :: rest => some (.array found.reverse, rest)
      | _ => do
          let (first, after) ← flowNode steps text
          let (item, rest) ← match skipBlanks false after with
            | ':' :: behind => do
                let key ← keyName? first
                let (value, rest) ← flowValue steps behind
                pure (Json.object [(key, value)], rest)
            | other => pure (first, other)
          match skipBlanks false rest with
          | ',' :: more => flowItems steps (skipBlanks false more) (item :: found)
          | ']' :: rest => some (.array (item :: found).reverse, rest)
          | _ => none

/-- Read the fields of a mapping up to its brace; a key may stand without a value. -/
def flowFields : Nat → List Char → List (String × Json) → Option (Json × List Char)
  | 0, _, _ => none
  | steps + 1, text, found =>
      match text with
      | '\x7d' :: rest => some (.object found, rest)
      | _ => do
          let (first, after) ← flowNode steps text
          let key ← keyName? first
          let (value, rest) ← match skipBlanks false after with
            | ':' :: behind => flowValue steps behind
            | other => pure (.null, other)
          let fields := Json.setField key value found
          match skipBlanks false rest with
          | ',' :: more => flowFields steps (skipBlanks false more) fields
          | '\x7d' :: rest => some (.object fields, rest)
          | _ => none

end

/-- The value that a text begins with, and what stands behind it. -/
def flow? (text : List Char) : Option (Json × List Char) :=
  flowNode (2 * text.length + 2) text

end SceneEditor.Yaml
