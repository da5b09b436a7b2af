import SceneEditor.Yaml.Flow

namespace SceneEditor.Yaml

/-!
# Documents

A document is made of lines, whose indents tell what belongs to what.  A block is a mapping with a
key on each line, a list with a dash in front of each item, or a scalar, which may go on over lines
that are indented more deeply.  What is read here are documents of one block; block scalars,
anchors and tags are not read.
-/

/-- A line that is neither empty nor a comment: how far it is indented, and what stands on it. -/
structure Line where
  indent : Nat
  content : List Char
  deriving DecidableEq, Repr

namespace Line

/-- The line that some text makes, unless it is empty or a comment. -/
def of? (text : List Char) : Option Line :=
  let content := text.dropWhile (· = ' ')
  match content with
  | [] => none
  | '#' :: _ => none
  | _ => some { indent := text.length - content.length, content }

/-- The item of a list that the line begins, without the dash and the spaces behind it. -/
def item? (line : Line) : Option Line :=
  match line.content with
  | ['-'] => some { indent := line.indent + 2, content := [] }
  | '-' :: ' ' :: rest =>
      let content := rest.dropWhile (· = ' ')
      let content := if content.head? = some '#' then [] else content
      some { indent := line.indent + 2 + (rest.length - content.length), content }
  | _ => none

/-- The key that the line begins, and what stands behind its colon. -/
def key? (line : Line) : Option (String × List Char) :=
  match quoted? line.content with
  | some (key, after) =>
      match after.dropWhile (· = ' ') with
      | ':' :: rest => if endsKey (fun _ => false) rest then some (key, rest) else none
      | _ => none
  | none =>
      if beginsPlain line.content then
        match plain (fun _ => false) false line.content with
        | (key, ':' :: rest) => (keyName? (plainValue key)).map fun name => (name, rest)
        | _ => none
      else none

end Line

/-- The lines of a text that are neither empty nor comments. -/
def linesOf (text : List Char) : List Line :=
  (Text.pieces '\n' (Text.replaceAll ['\r', '\n'] ['\n'] text)).filterMap Line.of?

/-- What stands behind a value on its line: nothing but spaces and a comment. -/
def endsLine (text : List Char) : Bool :=
  match skipBlanks false (text.takeWhile (· != '\n')) with
  | [] => true
  | _ => false

/-- A scalar without quotes, which goes on over the lines that are indented deeply enough. -/
def plainLines (least : Nat) (text : List Char) : List Line → Option (List Char × List Line)
  | [] => (plainEnd text).map fun (content, _) => (content, [])
  | line :: rest => do
      let (content, isCut) ← plainEnd text
      if isCut || line.indent < least then return (content, line :: rest)
      else
        let (more, after) ← plainLines least line.content rest
        return (content ++ ' ' :: more, after)
where
  plainEnd (text : List Char) : Option (List Char × Bool) :=
    match plain (fun _ => false) false text with
    | (content, []) => some (Text.dropEndWhile isSpace content, false)
    | (content, '#' :: _) => some (Text.dropEndWhile isSpace content, true)
    | _ => none

/-- The value that begins in the middle of a line, and the lines behind it. -/
def inline? (least : Nat) (text : List Char) (rest : List Line) : Option (Json × List Line) :=
  if beginsPlain text then
    (plainLines least text rest).map fun (content, after) => (plainValue content, after)
  else
    let joined := text ++ rest.flatMap fun line => '\n' :: line.content
    match flow? joined with
    | none => none
    | some (value, after) =>
        if endsLine after then
          some (value, rest.drop (rest.length - after.count '\n'))
        else none

/-- What stands behind the colon of a key, without spaces; a comment counts for nothing. -/
def behindColon (text : List Char) : List Char :=
  skipBlanks false text

mutual

/-- Read a block that is indented by a least number of spaces, in some number of steps. -/
def block : Nat → Nat → List Line → Option (Json × List Line)
  | 0, _, _ => none
  | _, _, [] => some (.null, [])
  | steps + 1, least, line :: rest =>
      if line.indent < least then some (.null, line :: rest)
      else if line.item?.isSome then items steps line.indent (line :: rest) []
      else if line.key?.isSome then fields steps line.indent (line :: rest) []
      else inline? least line.content rest

/-- Read the items of a list with a given indent. -/
def items : Nat → Nat → List Line → List Json → Option (Json × List Line)
  | 0, _, _, _ => none
  | _, _, [], found => some (.array found.reverse, [])
  | steps + 1, indent, line :: rest, found =>
      if line.indent ≠ indent then some (.array found.reverse, line :: rest)
      else
        match line.item? with
        | none => some (.array found.reverse, line :: rest)
        | some item => do
            let lines := if item.content.isEmpty then rest else item :: rest
            let (value, after) ← block steps (indent + 1) lines
            items steps indent after (value :: found)

/-- Read the fields of a mapping with a given indent; the last value of a key counts. -/
def fields : Nat → Nat → List Line → List (String × Json) → Option (Json × List Line)
  | 0, _, _, _ => none
  | _, _, [], found => some (.object found, [])
  | steps + 1, indent, line :: rest, found =>
      if line.indent ≠ indent || line.item?.isSome then some (.object found, line :: rest)
      else do
        let (key, behind) ← line.key?
        let text := behindColon behind
        let (value, after) ←
          if text.isEmpty then
            match rest with
            | next :: _ =>
                if next.indent = indent && next.item?.isSome then items steps indent rest []
                else block steps (indent + 1) rest
            | [] => some (.null, [])
          else inline? (indent + 1) text rest
        fields steps indent after (Json.setField key value found)

end

/-- A character that a document may hold. -/
def isAllowed (c : Char) : Bool :=
  c = '\t' || c = '\n' || c = '\r' || (decide (0x20 ≤ c.toNat) && decide (c.toNat ≤ 0x7E))
    || c.toNat = 0x85 || (decide (0xA0 ≤ c.toNat) && c.toNat != 0xFFFE && c.toNat != 0xFFFF)

/-- The lines behind the mark that a document may begin with. -/
def withoutMark : List Line → List Line
  | ⟨0, ['-', '-', '-']⟩ :: rest => rest
  | lines => lines

/-- Read a document; an empty one is null. -/
def read? (text : String) : Option Json :=
  if text.toList.all isAllowed then
    let lines := withoutMark (linesOf text.toList)
    match block (3 * text.length + 3) 0 lines with
    | some (value, []) => some value
    | _ => none
  else none

end SceneEditor.Yaml
