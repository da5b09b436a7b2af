import SceneEditor.Proofs.Link.Escape
import SceneEditor.Proofs.Number.Numeral
import SceneEditor.Proofs.Text.Utf8

namespace SceneEditor

/-!
# Frames survive the wire

A frame that is written and read again is the same frame, with the length of its body among its
headers.  Line ends in front of it and any text behind it do no harm, so the end of a frame is
told by the frame alone.

The proof follows the reader: it passes over the line ends, cuts at the first empty line, reads the
command and one header after another, and then takes as many bytes as the length tells.
-/

namespace Header

/-- A header that is found stands among the headers. -/
theorem mem_of_find?_eq_some
    {name value : String}
    {headers : List (String × String)}
    (found : find? name headers = some value) :
    (name, value) ∈ headers := by
  obtain ⟨⟨known, held⟩, foundPair, rfl⟩ := Option.map_eq_some_iff.mp found
  have named : known = name := by
    simpa using List.find?_some foundPair
  rw [← named]
  exact List.mem_of_find?_eq_some foundPair

/-- A header is not found exactly if its name is missing. -/
theorem find?_eq_none_iff
    {name : String}
    {headers : List (String × String)} :
    find? name headers = none ↔ name ∉ headers.map Prod.fst := by
  simp only [find?, Option.map_eq_none_iff, List.find?_eq_none, List.mem_map, not_exists, not_and]
  constructor
  · intro unlike header member named
    exact unlike header member (by simp [named])
  · intro unnamed header member named
    exact unnamed header member (by simpa using named)

/-- A header of a new name is added behind the others. -/
theorem addFirst_of_notMem
    {name : String}
    {headers : List (String × String)}
    (fresh : name ∉ headers.map Prod.fst)
    (value : String) :
    addFirst name value headers = headers ++ [(name, value)] := by
  simp [addFirst, find?_eq_none_iff.mpr fresh]

end Header

namespace Frame

/-- How many bytes the body has. -/
def bodySize (frame : Frame) : Nat :=
  (Text.encodeUtf8 frame.body.toList).length

/--
A header that needs no escaping: its name and its value are on one line, and the first colon of the
line is behind the name.
-/
def FitsLine (header : String × String) : Prop :=
  (∀ c ∈ header.1.toList, Header.IsPlain c) ∧
    ∀ c ∈ header.2.toList, c ≠ '\r' ∧ c ≠ '\n'

/-- What a frame has to keep to for its form on the wire to tell it. -/
structure IsSendable (frame : Frame) : Prop where
  /-- Its command is one of the two lists. -/
  known : isKnown frame.command = true
  /-- Its headers are a map. -/
  namesDistinct : (frame.headers.map Prod.fst).Nodup
  /-- A length among its headers is the length of its body. -/
  lengthTrue :
    ∀ value, (Header.lengthName, value) ∈ frame.headers → value = toString frame.bodySize
  /-- The headers of the two commands that do not escape them need no escaping. -/
  unescapedFit :
    frame.command = "CONNECT" ∨ frame.command = "CONNECTED" →
      ∀ header ∈ frame.headers, FitsLine header

/-- The frame with the length of its body among its headers, if it has a body. -/
def sized (frame : Frame) : Frame :=
  if frame.body = "" ∨ Header.lengthName ∈ frame.headers.map Prod.fst then frame
  else
    { frame with
      headers := frame.headers ++ [(Header.lengthName, toString frame.bodySize)] }

/-- What is sent are the headers with the length among them. -/
theorem sentHeaders_eq (frame : Frame) :
    frame.sentHeaders = frame.sized.headers := by
  unfold sentHeaders sized
  by_cases bodyEmpty : frame.body = ""
  · simp [bodyEmpty]
  · by_cases told : Header.lengthName ∈ frame.headers.map Prod.fst
    · have found : (Header.find? Header.lengthName frame.headers).isSome = true := by
        rw [Option.isSome_iff_ne_none]
        exact fun absent => Header.find?_eq_none_iff.mp absent told
      simp [bodyEmpty, told, Header.addFirst, found]
    · simp [bodyEmpty, told, Header.addFirst_of_notMem told, bodySize]

@[simp] theorem sized_command (frame : Frame) :
    frame.sized.command = frame.command := by
  unfold sized
  split <;> rfl

@[simp] theorem sized_body (frame : Frame) :
    frame.sized.body = frame.body := by
  unfold sized
  split <;> rfl

/-- The header of the length fits on a line. -/
theorem fitsLine_length (size : Nat) :
    FitsLine (Header.lengthName, toString size) := by
  constructor
  · simp only [Header.IsPlain]
    exact Text.forall_of_all (by decide)
  · intro c member
    have digit : c.isDigit = true := by
      simp only [Nat.toString_eq_repr, Nat.toList_repr] at member
      exact Nat.isDigit_of_mem_toDigits (by decide) (by decide) member
    constructor
    · rintro rfl
      exact absurd digit (by decide)
    · rintro rfl
      exact absurd digit (by decide)

/-- The length is a header like the others, so a frame stays sendable with it. -/
theorem IsSendable.sized
    {frame : Frame}
    (sendable : frame.IsSendable) :
    frame.sized.IsSendable := by
  by_cases complete : frame.body = "" ∨ Header.lengthName ∈ frame.headers.map Prod.fst
  · rw [Frame.sized, if_pos complete]
    exact sendable
  · have untold : Header.lengthName ∉ frame.headers.map Prod.fst :=
      fun told => complete (Or.inr told)
    rw [Frame.sized, if_neg complete]
    constructor
    · exact sendable.known
    · rw [List.map_append, List.nodup_append]
      refine ⟨sendable.namesDistinct, by simp, ?_⟩
      rintro name member _ added rfl
      rw [List.map_singleton, List.mem_singleton] at added
      subst name
      exact untold member
    · intro value member
      rcases List.mem_append.mp member with old | added
      · exact sendable.lengthTrue value old
      · obtain ⟨_, rfl⟩ := Prod.mk.inj (List.mem_singleton.mp added)
        rfl
    · intro unescaped header member
      rcases List.mem_append.mp member with old | added
      · exact sendable.unescapedFit unescaped header old
      · rw [List.mem_singleton.mp added]
        exact fitsLine_length frame.bodySize

/-- Each header of a sendable frame without escapes fits on a line. -/
theorem IsSendable.fits
    {frame : Frame}
    (sendable : frame.IsSendable)
    (unescaped : escapesHeaders frame.command = false) :
    ∀ header ∈ frame.sized.headers, FitsLine header := by
  apply sendable.sized.unescapedFit
  simp only [escapesHeaders, Bool.and_eq_false_iff, bne_eq_false_iff_eq] at unescaped
  simpa using unescaped

/-- The text of a name or a value on the wire. -/
def wireForm (escapes : Bool) (text : String) : List Char :=
  if escapes then Header.escape text.toList else text.toList

/-- A header is written as its name and its value with a colon between them. -/
theorem headerLine_eq
    (escapes : Bool)
    (name value : String) :
    headerLine escapes name value = wireForm escapes name ++ ':' :: wireForm escapes value := by
  cases escapes <;> rfl

/-- A header that is escaped or needs no escaping stands on a line of its own. -/
theorem headerLine_noLineEnd
    {escapes : Bool}
    {header : String × String}
    (fits : escapes = false → FitsLine header) :
    ∀ c ∈ headerLine escapes header.1 header.2, c ≠ '\r' ∧ c ≠ '\n' := by
  have formFree
      (text : String)
      (plain : escapes = false → ∀ c ∈ text.toList, c ≠ '\r' ∧ c ≠ '\n') :
      ∀ c ∈ wireForm escapes text, c ≠ '\r' ∧ c ≠ '\n' := by
    intro c member
    cases escapes with
    | true =>
        have charPlain := Header.isPlain_of_mem_escape member
        exact ⟨charPlain.1, charPlain.2.1⟩
    | false =>
        exact plain rfl c member
  intro c member
  rw [headerLine_eq] at member
  rcases List.mem_append.mp member with inName | afterName
  · refine formFree header.1 (fun unescaped d inText => ?_) c inName
    have charPlain := (fits unescaped).1 d inText
    exact ⟨charPlain.1, charPlain.2.1⟩
  · rcases List.mem_cons.mp afterName with isColon | inValue
    · subst c
      decide
    · exact formFree header.2 (fun unescaped => (fits unescaped).2) c inValue

/-- The line of a header is cut at the colon between its name and its value. -/
theorem cutAt?_headerLine
    {escapes : Bool}
    {header : String × String}
    (fits : escapes = false → FitsLine header) :
    Text.cutAt? [':'] (headerLine escapes header.1 header.2) =
      some (wireForm escapes header.1, wireForm escapes header.2) := by
  rw [headerLine_eq]
  apply Text.cutAt?_single
  intro member
  cases escapes with
  | true =>
      exact (Header.isPlain_of_mem_escape member).2.2 rfl
  | false =>
      exact ((fits rfl).1 ':' member).2.2 rfl

/-- A header line is read as the header that was written. -/
theorem readHeader_headerLine
    {escapes : Bool}
    {header : String × String}
    (fits : escapes = false → FitsLine header)
    (headers : List (String × String)) :
    readHeader escapes headers (headerLine escapes header.1 header.2) =
      .ok (Header.addFirst header.1 header.2 headers) := by
  have notEmpty : (headerLine escapes header.1 header.2).isEmpty = false := by
    rw [headerLine_eq]
    simp
  simp only [readHeader, notEmpty, cutAt?_headerLine fits, Bool.false_eq_true, ↓reduceIte]
  cases escapes with
  | true =>
      simp only [wireForm, ↓reduceIte, Header.unescape_escape]
      rfl
  | false =>
      simp [wireForm]

/--
Header lines are read one after another.  The induction is on the lines that are left; the headers
that were read so far have other names, so each line adds its header at the end.
-/
theorem foldlM_readHeader
    {escapes : Bool}
    {read left : List (String × String)}
    (namesDistinct : ((read ++ left).map Prod.fst).Nodup)
    (fit : escapes = false → ∀ header ∈ left, FitsLine header) :
    (left.map fun (name, value) => headerLine escapes name value).foldlM
        (readHeader escapes) read =
      .ok (read ++ left) := by
  induction left generalizing read with
  | nil =>
      simp [pure, Except.pure]
  | cons header left inductionHypothesis =>
      have fresh : header.1 ∉ read.map Prod.fst := by
        intro member
        rw [List.map_append, List.nodup_append] at namesDistinct
        exact namesDistinct.2.2 header.1 member header.1 (by simp) rfl
      have headFits : escapes = false → FitsLine header :=
        fun unescaped => fit unescaped header List.mem_cons_self
      have restDistinct : ((read ++ [header] ++ left).map Prod.fst).Nodup := by
        simpa using namesDistinct
      have restRead :=
        inductionHypothesis restDistinct
          fun unescaped other member => fit unescaped other (List.mem_cons_of_mem header member)
      rw [List.map_cons, List.foldlM_cons, readHeader_headerLine headFits,
        Header.addFirst_of_notMem fresh]
      simpa [bind, Except.bind] using restRead

theorem place_of_le
    {size offset : Nat}
    (within : offset ≤ size) :
    place size offset = offset := by
  have notNegative : ¬ (offset : Int) < 0 := by omega
  rw [place, if_neg notNegative, Int.toNat_natCast, Nat.min_eq_right within]

/-- The bytes of the body are those up to its length. -/
theorem bytesBetween_start
    (body rest : Text.Bytes) :
    bytesBetween (body ++ rest) 0 body.length = body := by
  have start : place (body ++ rest).length 0 = 0 :=
    place_of_le (Nat.zero_le _)
  have stop : place (body ++ rest).length body.length = body.length :=
    place_of_le (by simp)
  rw [bytesBetween, start, stop, List.drop_zero, Nat.sub_zero, List.take_left]

/-- The byte behind the body is the one at its length. -/
theorem bytesBetween_one
    (body rest : Text.Bytes)
    (byte : UInt8) :
    bytesBetween (body ++ byte :: rest) body.length (body.length + 1) = [byte] := by
  have start : place (body ++ byte :: rest).length body.length = body.length :=
    place_of_le (by simp)
  have within : body.length + 1 ≤ (body ++ byte :: rest).length := by simp
  have stop : place (body ++ byte :: rest).length ((body.length : Int) + 1) = body.length + 1 :=
    place_of_le within
  rw [bytesBetween, start, stop, List.drop_left, Nat.add_sub_cancel_left]
  rfl

/-- A body is read to its length, whatever it holds. -/
theorem readSized_encoded
    (body : String)
    (trailing : List Char) :
    readSized (Text.encodeUtf8 body.toList).length (body.toList ++ nul :: trailing) =
      .ok body := by
  have bytes :
      Text.encodeUtf8 (body.toList ++ nul :: trailing) =
        Text.encodeUtf8 body.toList ++ 0 :: Text.encodeUtf8 trailing := by
    rw [Text.encodeUtf8_append, Text.encodeUtf8_cons]
    rfl
  have longEnough :
      ¬ ((Text.encodeUtf8 body.toList ++ 0 :: Text.encodeUtf8 trailing).length : Int) <
        (Text.encodeUtf8 body.toList).length + 1 := by
    simp only [List.length_append, List.length_cons]
    omega
  simp only [readSized, bytes, longEnough, ↓reduceIte, bytesBetween_one, bytesBetween_start,
    Text.decodeUtf8?_encodeUtf8, String.ofList_toList]

/-- Only an empty body is sent without its length. -/
theorem body_empty_of_untold
    {frame : Frame}
    (untold : Header.find? Header.lengthName frame.sized.headers = none) :
    frame.body = "" := by
  apply Decidable.byContradiction
  intro notEmpty
  apply Header.find?_eq_none_iff.mp untold
  by_cases told : Header.lengthName ∈ frame.headers.map Prod.fst
  · simp [sized, told]
  · simp [sized, notEmpty, told]

/-- The length that is sent is that of the body. -/
theorem length_of_told
    {frame : Frame}
    (sendable : frame.IsSendable)
    {value : String}
    (told : Header.find? Header.lengthName frame.sized.headers = some value) :
    value = toString frame.bodySize := by
  simpa [bodySize] using sendable.sized.lengthTrue value (Header.mem_of_find?_eq_some told)

/-- A frame with a body has the length of the body among its headers. -/
theorem find?_length_sized
    {frame : Frame}
    (sendable : frame.IsSendable)
    (filled : frame.body ≠ "") :
    Header.find? Header.lengthName frame.sized.headers = some (toString frame.bodySize) := by
  cases told : Header.find? Header.lengthName frame.sized.headers with
  | none =>
      exact absurd (body_empty_of_untold told) filled
  | some value =>
      rw [length_of_told sendable told]

/-- The body of a frame is read back, whatever follows its end. -/
theorem readBody_sized
    {frame : Frame}
    (sendable : frame.IsSendable)
    (tellable : frame.bodySize < 10 ^ NumberError.digitLimit)
    (trailing : List Char) :
    readBody frame.sized.headers (frame.body.toList ++ nul :: trailing) = .ok frame.body := by
  cases told : Header.find? Header.lengthName frame.sized.headers with
  | none =>
      have empty := body_empty_of_untold told
      simp [readBody, told, empty, Text.cutAt?, Text.after?]
  | some value =>
      simp only [readBody, told, length_of_told sendable told,
        Numeral.integer?_toString tellable]
      exact readSized_encoded frame.body trailing

/-- A command is a word: it is not empty, on one line, and without blanks at its ends. -/
theorem command_isWord
    {command : String}
    (known : isKnown command = true) :
    command.toList ≠ [] ∧
      (∀ c ∈ command.toList, c ≠ '\r' ∧ c ≠ '\n') ∧
      Text.trim command.toList = command.toList := by
  have listed : command ∈ serverCommands ++ clientCommands := by
    simpa [isKnown] using known
  have allWords :
      ∀ command ∈ serverCommands ++ clientCommands,
        command.toList ≠ [] ∧
          (command.toList.all fun c => decide (c ≠ '\r' ∧ c ≠ '\n')) = true ∧
          Text.trim command.toList = command.toList := by
    decide
  obtain ⟨nonempty, noLineEnd, trimmed⟩ := allWords command listed
  exact ⟨nonempty, Text.forall_of_all noLineEnd, trimmed⟩

/-- The lines of a frame up to its empty line. -/
def headLines (frame : Frame) : List (List Char) :=
  frame.command.toList ::
    frame.sized.headers.map fun (name, value) =>
      headerLine (escapesHeaders frame.command) name value

/-- The lines of the head are not empty and hold no line end. -/
theorem headLines_plain
    {frame : Frame}
    (sendable : frame.IsSendable) :
    ∀ line ∈ frame.headLines, line ≠ [] ∧ ∀ c ∈ line, c ≠ '\r' ∧ c ≠ '\n' := by
  intro line member
  rcases List.mem_cons.mp member with isCommand | isHeader
  · subst line
    have word := command_isWord sendable.known
    exact ⟨word.1, word.2.1⟩
  · obtain ⟨header, headerMember, rfl⟩ := List.mem_map.mp isHeader
    have fits : escapesHeaders frame.command = false → FitsLine header :=
      fun unescaped => sendable.fits unescaped header headerMember
    exact ⟨by simp [headerLine_eq], headerLine_noLineEnd fits⟩

/-- A frame is its lines, an empty line, its body and a zero character. -/
theorem encodeWith_eq
    (lineEnd : List Char)
    (frame : Frame) :
    frame.encodeWith lineEnd =
      (frame.headLines.flatMap fun line => line ++ lineEnd) ++
        (lineEnd ++ (frame.body.toList ++ [nul])) := by
  simp [encodeWith, headLines, sentHeaders_eq]

theorem toList_encode (frame : Frame) :
    frame.encode.toList = frame.encodeWith ['\n'] :=
  String.toList_ofList

/-- A text that begins with a known command is no heart-beat, and no line end is dropped from it. -/
theorem lineEnds_before_frame
    {frame : Frame}
    (sendable : frame.IsSendable)
    {leading : List Char}
    (leadingEnds : ∀ c ∈ leading, isLineEnd c = true)
    (lineEnd trailing : List Char) :
    isHeartbeatText (leading ++ frame.encodeWith lineEnd ++ trailing) = false ∧
      (leading ++ frame.encodeWith lineEnd ++ trailing).dropWhile isLineEnd =
        frame.encodeWith lineEnd ++ trailing := by
  obtain ⟨nonempty, noLineEnd, _⟩ := command_isWord sendable.known
  obtain ⟨c, command, shape⟩ := List.exists_cons_of_ne_nil nonempty
  have first : isLineEnd c = false := by
    have different := noLineEnd c (by rw [shape]; exact List.mem_cons_self)
    simp [isLineEnd, different]
  have text :
      ∃ tail, frame.encodeWith lineEnd = c :: tail := by
    rw [encodeWith_eq, headLines, shape]
    exact ⟨_, rfl⟩
  obtain ⟨tail, text⟩ := text
  constructor
  · simp [isHeartbeatText, text, first]
  · rw [List.append_assoc, List.dropWhile_append_of_pos leadingEnds, text]
    simp [first]

/-- The head and the body of a frame are parted by its empty line. -/
theorem parts?_encode
    {frame : Frame}
    (sendable : frame.IsSendable)
    (trailing : List Char) :
    parts? (frame.encodeWith ['\n'] ++ trailing) =
      some (['\n'].intercalate frame.headLines, frame.body.toList ++ nul :: trailing) := by
  have nonempty : frame.headLines ≠ [] := by simp [headLines]
  have plain : ∀ line ∈ frame.headLines, line ≠ [] ∧ '\n' ∉ line := by
    intro line member
    obtain ⟨filled, noEnds⟩ := headLines_plain sendable line member
    exact ⟨filled, fun inLine => (noEnds '\n' inLine).2 rfl⟩
  have cut :
      Text.cutAt? ['\n', '\n']
          ((frame.headLines.flatMap fun line => line ++ ['\n']) ++ ['\n'] ++
            (frame.body.toList ++ nul :: trailing)) =
        some (['\n'].intercalate frame.headLines, frame.body.toList ++ nul :: trailing) :=
    Text.cutAt?_emptyLine List.not_mem_nil nonempty plain (frame.body.toList ++ nul :: trailing)
  have text :
      frame.encodeWith ['\n'] ++ trailing =
        (frame.headLines.flatMap fun line => line ++ ['\n']) ++ ['\n'] ++
          (frame.body.toList ++ nul :: trailing) := by
    rw [encodeWith_eq]
    simp
  rw [parts?, text, cut]

/-- The head is cut into its lines again. -/
theorem pieces_head
    {frame : Frame}
    (sendable : frame.IsSendable) :
    Text.pieces '\n'
        (Text.replaceAll ['\r', '\n'] ['\n'] (['\n'].intercalate frame.headLines)) =
      frame.headLines := by
  have plain := headLines_plain sendable
  have noReturn : '\r' ∉ ['\n'].intercalate frame.headLines :=
    Text.notMem_intercalate (by decide)
      fun line member inLine => ((plain line member).2 '\r' inLine).1 rfl
  rw [Text.replaceAll_of_notMem ['\n'] ['\n'] noReturn]
  exact Text.pieces_intercalate (by simp [headLines])
    fun line member inLine => ((plain line member).2 '\n' inLine).2 rfl

/-- The headers are read from the lines behind the first. -/
theorem foldlM_readHeader_headLines
    {frame : Frame}
    (sendable : frame.IsSendable) :
    frame.headLines.tail.foldlM (readHeader (escapesHeaders frame.command)) [] =
      .ok frame.sized.headers := by
  have namesDistinct : (([] ++ frame.sized.headers).map Prod.fst).Nodup := by
    simpa using sendable.sized.namesDistinct
  have headersRead := foldlM_readHeader namesDistinct sendable.fits
  simpa [headLines] using headersRead

/-- A text that is parted into the lines of a frame and its body is read as the frame. -/
theorem decodeText?_of_parts
    {frame : Frame}
    (sendable : frame.IsSendable)
    (tellable : frame.bodySize < 10 ^ NumberError.digitLimit)
    {text head trailing : List Char}
    (notHeartbeat : isHeartbeatText text = false)
    (parted :
      parts? (text.dropWhile isLineEnd) = some (head, frame.body.toList ++ nul :: trailing))
    (lines : Text.pieces '\n' (Text.replaceAll ['\r', '\n'] ['\n'] head) = frame.headLines) :
    decodeText? text = .ok (some frame.sized) := by
  have commandRead :
      String.ofList (Text.trim (frame.headLines.headD [])) = frame.command := by
    rw [headLines, List.headD_cons, (command_isWord sendable.known).2.2, String.ofList_toList]
  simp only [decodeText?, notHeartbeat, parted, lines, commandRead, sendable.known,
    foldlM_readHeader_headLines sendable, Bool.false_eq_true, ↓reduceIte, bind, Except.bind,
    readBody_sized sendable tellable trailing, pure, Except.pure]
  rw [← sized_command frame, ← sized_body frame]

/-- A frame is read from its text, between line ends and any other text. -/
theorem decodeText?_encode
    {frame : Frame}
    (sendable : frame.IsSendable)
    (tellable : frame.bodySize < 10 ^ NumberError.digitLimit)
    {leading : List Char}
    (leadingEnds : ∀ c ∈ leading, isLineEnd c = true)
    (trailing : List Char) :
    decodeText? (leading ++ frame.encode.toList ++ trailing) = .ok (some frame.sized) := by
  rw [toList_encode]
  obtain ⟨notHeartbeat, afterLineEnds⟩ :=
    lineEnds_before_frame sendable leadingEnds ['\n'] trailing
  have parted := parts?_encode sendable trailing
  rw [← afterLineEnds] at parted
  exact decodeText?_of_parts sendable tellable notHeartbeat parted (pieces_head sendable)

/--
A frame that keeps to the rules is read as it was sent, and nothing of what stands around it is
taken for a part of it: line ends in front of it are dropped and any text may follow it.  This
holds for texts and for their bytes.  The bound is the one on numerals, which no text that can be
held in memory reaches.
-/
theorem decode?_encode_between
    {frame : Frame}
    (sendable : frame.IsSendable)
    (tellable : frame.bodySize < 10 ^ NumberError.digitLimit)
    {leading : String}
    (leadingEnds : ∀ c ∈ leading.toList, c = '\r' ∨ c = '\n')
    (trailing : String) :
    decode? (.text (leading ++ frame.encode ++ trailing)) = .ok (some frame.sized) ∧
      decode? (.bytes (Text.encodeUtf8 (leading ++ frame.encode ++ trailing).toList)) =
        .ok (some frame.sized) := by
  have lineEnds : ∀ c ∈ leading.toList, isLineEnd c = true := by
    intro c member
    simpa [isLineEnd] using leadingEnds c member
  have read := decodeText?_encode sendable tellable lineEnds trailing.toList
  constructor
  · simpa [decode?] using read
  · simp only [decode?, Text.decodeUtf8?_encodeUtf8]
    simpa using read

/-- A body with a NUL, an empty line and a character of two bytes, and a header full of marks. -/
theorem decode?_encode_between_nul :
    let frame : Frame := {
      command := "MESSAGE"
      headers := [("content-length", "6"), ("no:te", "a\nb\\c")]
      body := "é\x00\n\nx"
    }
    frame.IsSendable ∧ frame.bodySize < 10 ^ NumberError.digitLimit ∧
      decode? (.text ("\r\n" ++ frame.encode ++ "MESSAGE\n")) = .ok (some frame) := by
  intro frame
  have sendable : frame.IsSendable := {
    known := by decide
    namesDistinct := by decide
    lengthTrue := by
      intro value member
      have size : toString frame.bodySize = "6" := by decide +kernel
      rw [size]
      simpa [frame, Header.lengthName] using member
    unescapedFit := by
      simp [frame]
  }
  have tellable : frame.bodySize < 10 ^ NumberError.digitLimit :=
    Nat.lt_of_lt_of_le (by decide : frame.bodySize < 10 ^ 1)
      (Nat.pow_le_pow_right (by decide) (by decide))
  have leadingEnds : ∀ c ∈ "\r\n".toList, c = '\r' ∨ c = '\n' :=
    Text.forall_of_all (by decide)
  have read := decode?_encode_between sendable tellable leadingEnds "MESSAGE\n"
  exact ⟨sendable, tellable, read.1⟩

end Frame

end SceneEditor
