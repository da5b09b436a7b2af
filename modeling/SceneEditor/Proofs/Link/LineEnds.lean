import SceneEditor.Proofs.Attempt
import SceneEditor.Proofs.Link.RoundTrip

namespace SceneEditor

/-!
# Frames whose lines end with returns

A line of the head may end with a return and a feed in place of a feed.  The reader looks for an
empty line of feeds alone first, and it looks through the whole message, so it finds one that stands
in the body.  It then takes what stands before it for header lines.

So the line ends of the head do not matter exactly if the body does not begin with a feed and has
no two feeds in a row.  Otherwise the message is refused: even if all that was taken for header
lines is well-formed, the length of the body tells that too little is left.
-/

namespace Header

/-- A header that was read is not overridden by a later one. -/
theorem find?_addFirst
    {name value : String}
    {headers : List (String × String)}
    (found : find? name headers = some value)
    (other otherValue : String) :
    find? name (addFirst other otherValue headers) = some value := by
  unfold addFirst
  split
  · exact found
  · obtain ⟨header, first, rfl⟩ := Option.map_eq_some_iff.mp found
    rw [find?, List.find?_append, first]
    rfl

end Header

namespace Frame

/-- A return and a feed, which may end a line of a head. -/
def returnFeed : List Char :=
  ['\r', '\n']

/-- A frame as text whose lines end with returns and feeds. -/
def encodeWithReturns (frame : Frame) : String :=
  String.ofList (frame.encodeWith returnFeed)

/-- The body begins with a feed or has two of them in a row: a feed and the body have two. -/
def holdsEmptyLine (frame : Frame) : Bool :=
  Text.occurs ['\n', '\n'] ('\n' :: frame.body.toList)

/-- No line of the head holds a carriage return. -/
theorem headLines_noReturn
    {frame : Frame}
    (sendable : frame.IsSendable) :
    ∀ line ∈ frame.headLines, '\r' ∉ line :=
  fun line member inLine => ((headLines_plain sendable line member).2 '\r' inLine).1 rfl

/-- No line of the head holds a line feed. -/
theorem headLines_noFeed
    {frame : Frame}
    (sendable : frame.IsSendable) :
    ∀ line ∈ frame.headLines, '\n' ∉ line :=
  fun line member inLine => ((headLines_plain sendable line member).2 '\n' inLine).2 rfl

/-!
## Where the message is parted
-/

/-- Behind a line end there is a line without feeds or the return of the empty line. -/
private theorem head?_lines
    {lines : List (List Char)}
    (noFeed : ∀ line ∈ lines, '\n' ∉ line)
    (rest : List Char) :
    ((lines.flatMap fun line => line ++ returnFeed) ++ '\r' :: rest).head? ≠ some '\n' := by
  cases lines with
  | nil =>
      simp
  | cons line others =>
      cases line with
      | nil =>
          simp [returnFeed]
      | cons c line =>
          have different : '\n' ≠ c :=
            List.ne_of_not_mem_cons (noFeed (c :: line) List.mem_cons_self)
          simpa using Ne.symm different

/-- An empty line of feeds is not found before the feed of the empty line that ends the head. -/
theorem cutAt?_feeds
    {lines : List (List Char)}
    (noFeed : ∀ line ∈ lines, '\n' ∉ line)
    (rest : List Char) :
    Text.cutAt? ['\n', '\n']
        ((lines.flatMap fun line => line ++ returnFeed) ++ '\r' :: '\n' :: rest) =
      (Text.cutAt? ['\n', '\n'] ('\n' :: rest)).map fun (before, behind) =>
        ((lines.flatMap fun line => line ++ returnFeed) ++ '\r' :: before, behind) := by
  induction lines with
  | nil =>
      exact Text.cutAt?_cons_of_ne (by decide) ['\n'] ('\n' :: rest)
  | cons line others inductionHypothesis =>
      have othersNoFeed : ∀ other ∈ others, '\n' ∉ other :=
        fun other member => noFeed other (List.mem_cons_of_mem line member)
      have noFeedBefore : '\n' ∉ line ++ ['\r'] := by
        simpa using noFeed line List.mem_cons_self
      have text (tail : List Char) :
          ((line :: others).flatMap fun line => line ++ returnFeed) ++ tail =
            (line ++ ['\r']) ++
              '\n' :: ((others.flatMap fun line => line ++ returnFeed) ++ tail) := by
        simp [returnFeed]
      rw [text, Text.cutAt?_append_of_notMem ['\n'] noFeedBefore,
        Text.cutAt?_pair_cons (head?_lines othersNoFeed _), inductionHypothesis othersNoFeed,
        Option.map_map, Option.map_map]
      simp only [text]
      rfl

/-- The characters of a frame with both characters at each line end. -/
theorem encodeWithReturns_toList (frame : Frame) :
    frame.encodeWithReturns.toList =
      (frame.headLines.flatMap fun line => line ++ returnFeed) ++
        '\r' :: '\n' :: (frame.body.toList ++ [nul]) := by
  rw [encodeWithReturns, String.toList_ofList, encodeWith_eq]
  rfl

/-- With both characters at each line end, only the body can hold the blank line that is looked for
first. -/
theorem cutAt?_feeds_encodeWithReturns
    {frame : Frame}
    (sendable : frame.IsSendable) :
    Text.cutAt? ['\n', '\n'] frame.encodeWithReturns.toList =
      (Text.cutAt? ['\n', '\n'] ('\n' :: frame.body.toList)).map fun (before, behind) =>
        ((frame.headLines.flatMap fun line => line ++ returnFeed) ++ '\r' :: before,
          behind ++ [nul]) := by
  have withEnd :
      Text.cutAt? ['\n', '\n'] ('\n' :: (frame.body.toList ++ [nul])) =
        (Text.cutAt? ['\n', '\n'] ('\n' :: frame.body.toList)).map fun (before, behind) =>
          (before, behind ++ [nul]) :=
    Text.cutAt?_concat (by decide) ('\n' :: frame.body.toList)
  rw [encodeWithReturns_toList, cutAt?_feeds (headLines_noFeed sendable), withEnd,
    Option.map_map]
  rfl

/-- Without an empty line in the body the head ends where it was written to end. -/
theorem parts?_encodeWithReturns
    {frame : Frame}
    (sendable : frame.IsSendable)
    (plainBody : frame.holdsEmptyLine = false) :
    parts? frame.encodeWithReturns.toList =
      some (returnFeed.intercalate frame.headLines, frame.body.toList ++ [nul]) := by
  have noFeeds : Text.cutAt? ['\n', '\n'] frame.encodeWithReturns.toList = none := by
    rw [cutAt?_feeds_encodeWithReturns sendable]
    simpa [holdsEmptyLine, Text.occurs] using plainBody
  have nonempty : frame.headLines ≠ [] := by simp [headLines]
  have plain : ∀ line ∈ frame.headLines, line ≠ [] ∧ '\r' ∉ line :=
    fun line member =>
      ⟨(headLines_plain sendable line member).1, headLines_noReturn sendable line member⟩
  have cut :
      Text.cutAt? ['\r', '\n', '\r', '\n'] frame.encodeWithReturns.toList =
        some (returnFeed.intercalate frame.headLines, frame.body.toList ++ [nul]) := by
    have found :=
      Text.cutAt?_emptyLine (by decide : '\r' ∉ ['\n']) nonempty plain (frame.body.toList ++ [nul])
    rw [List.append_assoc] at found
    rw [encodeWithReturns_toList]
    exact found
  rw [parts?, noFeeds, cut]

/-- A text that begins with a command is no heart-beat, and begins with no line end. -/
theorem encodeWithReturns_begins
    {frame : Frame}
    (sendable : frame.IsSendable) :
    isHeartbeatText frame.encodeWithReturns.toList = false ∧
      frame.encodeWithReturns.toList.dropWhile isLineEnd = frame.encodeWithReturns.toList := by
  have noneLeading : ∀ c ∈ ([] : List Char), isLineEnd c = true := by simp
  have begins := lineEnds_before_frame sendable noneLeading returnFeed []
  simpa [encodeWithReturns] using begins

/-- Such a frame is read back if its body holds no empty line. -/
theorem decodeText?_encodeWithReturns
    {frame : Frame}
    (sendable : frame.IsSendable)
    (tellable : frame.bodySize < 10 ^ NumberError.digitLimit)
    (plainBody : frame.holdsEmptyLine = false) :
    decodeText? frame.encodeWithReturns.toList = .ok (some frame.sized) := by
  obtain ⟨notHeartbeat, begins⟩ := encodeWithReturns_begins sendable
  have parted := parts?_encodeWithReturns sendable plainBody
  rw [← begins] at parted
  refine decodeText?_of_parts sendable tellable notHeartbeat parted ?_
  rw [returnFeed, Text.replaceAll_intercalate ['\n'] ['\n'] (headLines_noReturn sendable)]
  exact Text.pieces_intercalate (by simp [headLines]) (headLines_noFeed sendable)

/-!
## A body that holds an empty line
-/

/-- Whatever header lines follow, a header that was read stays as it was read. -/
theorem find?_of_foldlM_readHeader
    {escapes : Bool}
    {lines : List (List Char)}
    {headers later : List (String × String)}
    (read : lines.foldlM (readHeader escapes) headers = .ok later)
    {name value : String}
    (found : Header.find? name headers = some value) :
    Header.find? name later = some value := by
  have kept
      {line : List Char}
      {before after : List (String × String)}
      (lineRead : readHeader escapes before line = .ok after)
      (foundBefore : Header.find? name before = some value) :
      Header.find? name after = some value := by
    unfold readHeader at lineRead
    split at lineRead
    · cases lineRead
      exact foundBefore
    · split at lineRead
      · exact absurd lineRead (by simp)
      · split at lineRead
        · obtain ⟨other, _, lineRead⟩ := Attempt.bind_eq_ok_iff.mp lineRead
          obtain ⟨otherValue, _, lineRead⟩ := Attempt.bind_eq_ok_iff.mp lineRead
          cases lineRead
          exact Header.find?_addFirst foundBefore other otherValue
        · cases lineRead
          exact Header.find?_addFirst foundBefore _ _
  induction lines generalizing headers with
  | nil =>
      cases read
      exact found
  | cons line others inductionHypothesis =>
      rw [List.foldlM_cons] at read
      obtain ⟨between, lineRead, othersRead⟩ := Attempt.bind_eq_ok_iff.mp read
      exact inductionHypothesis othersRead (kept lineRead found)

/-- A body that ends before the length that was told is refused. -/
theorem readBody_short
    {headers : List (String × String)}
    {size : Nat}
    (tellable : size < 10 ^ NumberError.digitLimit)
    (told : Header.find? Header.lengthName headers = some (toString size))
    {rest : List Char}
    (short : (Text.encodeUtf8 rest).length ≤ size) :
    readBody headers rest = .error .wrongLength := by
  have tooShort : ((Text.encodeUtf8 rest).length : Int) < (size : Int) + 1 := by
    omega
  simp only [readBody, told, Numeral.integer?_toString tellable, readSized, tooShort, ↓reduceIte]

/-- Behind an empty line in the body less is left than the length of the body tells. -/
theorem size_behind_emptyLine
    {frame : Frame}
    {before behind : List Char}
    (cut : Text.cutAt? ['\n', '\n'] ('\n' :: frame.body.toList) = some (before, behind)) :
    (Text.encodeUtf8 (behind ++ [nul])).length ≤ frame.bodySize := by
  have whole := congrArg (fun text => (Text.encodeUtf8 text).length) (Text.eq_append_of_cutAt? cut)
  have feedSize : (String.utf8EncodeChar '\n').length = 1 := by decide
  have nulSize : (Text.encodeUtf8 [nul]).length = 1 := by decide
  simp only [Text.encodeUtf8_cons, Text.encodeUtf8_append, List.length_append, feedSize] at whole
  rw [Text.encodeUtf8_append, List.length_append, nulSize, bodySize]
  omega

/-- What stands before the empty line in the body is taken for header lines. -/
theorem pieces_head_of_cut
    {frame : Frame}
    (sendable : frame.IsSendable)
    (before : List Char) :
    Text.pieces '\n'
        (Text.replaceAll ['\r', '\n'] ['\n']
          ((frame.headLines.flatMap fun line => line ++ returnFeed) ++ '\r' :: before)) =
      frame.headLines ++
        Text.pieces '\n' (Text.replaceAll ['\r', '\n'] ['\n'] ('\r' :: before)) := by
  rw [returnFeed, Text.replaceAll_lines ['\n'] ['\n'] (headLines_noReturn sendable),
    Text.pieces_lines (headLines_noFeed sendable)]

/-- Such a frame is refused if its body holds an empty line. -/
theorem decodeText?_encodeWithReturns_refused
    {frame : Frame}
    (sendable : frame.IsSendable)
    (tellable : frame.bodySize < 10 ^ NumberError.digitLimit)
    (holds : frame.holdsEmptyLine = true) :
    ∃ error, decodeText? frame.encodeWithReturns.toList = .error error := by
  -- The lines taken from the body may all be headers.  They do not override the length that was
  -- told before them, and what is left behind them is shorter than that.
  obtain ⟨⟨before, behind⟩, cut⟩ := Option.isSome_iff_exists.mp holds
  obtain ⟨notHeartbeat, begins⟩ := encodeWithReturns_begins sendable
  have parted :
      parts? frame.encodeWithReturns.toList =
        some ((frame.headLines.flatMap fun line => line ++ returnFeed) ++ '\r' :: before,
          behind ++ [nul]) := by
    rw [parts?, cutAt?_feeds_encodeWithReturns sendable, cut]
    rfl
  have filled : frame.body ≠ "" := by
    intro empty
    rw [holdsEmptyLine, empty] at holds
    exact absurd holds (by decide)
  have commandRead :
      String.ofList (Text.trim frame.command.toList) = frame.command := by
    rw [(command_isWord sendable.known).2.2, String.ofList_toList]
  have headRead := foldlM_readHeader_headLines sendable
  simp only [headLines, List.tail_cons] at headRead
  have lines := pieces_head_of_cut sendable before
  rw [headLines] at lines parted
  generalize Text.pieces '\n' (Text.replaceAll ['\r', '\n'] ['\n'] ('\r' :: before)) = extra
    at lines
  simp only [decodeText?, notHeartbeat, begins, parted, lines, List.cons_append, List.headD_cons,
    List.tail_cons, commandRead, sendable.known, List.foldlM_append, headRead,
    Bool.false_eq_true, ↓reduceIte]
  cases extraRead :
      extra.foldlM (readHeader (escapesHeaders frame.command)) frame.sized.headers with
  | error error =>
      exact ⟨error, by simp [bind, Except.bind, extraRead]⟩
  | ok headers =>
      have told := find?_of_foldlM_readHeader extraRead (find?_length_sized sendable filled)
      have refused := readBody_short tellable told (size_behind_emptyLine cut)
      exact ⟨.wrongLength, by simp [bind, Except.bind, extraRead, refused]⟩

/-- The same frame is read from lines that end with feeds, whatever its body. -/
theorem decodeText?_encode_alone
    {frame : Frame}
    (sendable : frame.IsSendable)
    (tellable : frame.bodySize < 10 ^ NumberError.digitLimit) :
    decodeText? frame.encode.toList = .ok (some frame.sized) := by
  have noneLeading : ∀ c ∈ ([] : List Char), isLineEnd c = true := by simp
  simpa using decodeText?_encode sendable tellable noneLeading []

theorem lt_digitLimit_of_lt_ten
    {size : Nat}
    (small : size < 10) :
    size < 10 ^ NumberError.digitLimit := by
  have bound : 10 ^ 1 ≤ 10 ^ NumberError.digitLimit :=
    Nat.pow_le_pow_right (by decide) (by decide)
  exact Nat.lt_of_lt_of_le small bound

/--
A frame that keeps to the rules is read as the same frame from lines that end with returns and feeds
and from lines that end with feeds, exactly if its body does not begin with a feed and has no two
feeds in a row.  A body that does is the only thing that can go wrong, and then the form with
returns is refused.  This holds for texts and for their bytes.
-/
theorem decode?_encodeWithReturns_iff
    {frame : Frame}
    (sendable : frame.IsSendable)
    (tellable : frame.bodySize < 10 ^ NumberError.digitLimit) :
    (decode? (.text frame.encodeWithReturns) = decode? (.text frame.encode) ↔
        frame.holdsEmptyLine = false) ∧
      (decode? (.bytes (Text.encodeUtf8 frame.encodeWithReturns.toList)) =
          decode? (.bytes (Text.encodeUtf8 frame.encode.toList)) ↔
        frame.holdsEmptyLine = false) ∧
      (frame.holdsEmptyLine = true →
        ∃ error, decode? (.text frame.encodeWithReturns) = .error error) := by
  have fromFeeds := decodeText?_encode_alone sendable tellable
  have same :
      decodeText? frame.encodeWithReturns.toList = decodeText? frame.encode.toList ↔
        frame.holdsEmptyLine = false := by
    constructor
    · intro alike
      apply Bool.eq_false_iff.mpr
      intro holds
      obtain ⟨error, refused⟩ := decodeText?_encodeWithReturns_refused sendable tellable holds
      rw [refused, fromFeeds] at alike
      exact absurd alike (by simp)
    · intro plainBody
      rw [fromFeeds, decodeText?_encodeWithReturns sendable tellable plainBody]
  refine ⟨same, ?_, decodeText?_encodeWithReturns_refused sendable tellable⟩
  simpa only [decode?, Text.decodeUtf8?_encodeUtf8] using same

/-- A body with an empty line of returns, which does no harm, and a length that counts its bytes. -/
theorem decode?_encodeWithReturns_iff_plain :
    let frame : Frame := {
      command := "MESSAGE"
      headers := [("no:te", "a\nb")]
      body := "é\r\n\r\n"
    }
    frame.IsSendable ∧ frame.bodySize < 10 ^ NumberError.digitLimit ∧
      decode? (.text frame.encodeWithReturns) = decode? (.text frame.encode) := by
  intro frame
  have sendable : frame.IsSendable := {
    known := by decide
    namesDistinct := by decide
    lengthTrue := by
      simp [frame, Header.lengthName]
    unescapedFit := by
      simp [frame]
  }
  have tellable := lt_digitLimit_of_lt_ten (by decide : frame.bodySize < 10)
  have plainBody : frame.holdsEmptyLine = false := by decide
  exact ⟨sendable, tellable, (decode?_encodeWithReturns_iff sendable tellable).1.mpr plainBody⟩

/-- The line ends of the head do matter for this frame, whose body has two feeds in a row. -/
theorem decode?_encodeWithReturns_ne :
    let frame : Frame := {
      command := "MESSAGE"
      headers := [("content-length", "4")]
      body := "a\n\nb"
    }
    frame.IsSendable ∧
      decode? (.text frame.encode) = .ok (some frame) ∧
      decode? (.text frame.encodeWithReturns) = .error (.malformedHeader "a") := by
  intro frame
  have sendable : frame.IsSendable := {
    known := by decide
    namesDistinct := by decide
    lengthTrue := by
      intro value member
      have size : toString frame.bodySize = "4" := by decide +kernel
      rw [size]
      simpa [frame, Header.lengthName] using member
    unescapedFit := by
      simp [frame]
  }
  have tellable := lt_digitLimit_of_lt_ten (by decide : frame.bodySize < 10)
  have told : Header.lengthName ∈ frame.headers.map Prod.fst := by decide
  have complete : frame.sized = frame := by rw [sized, if_pos (Or.inr told)]
  have sent :
      frame.encodeWithReturns.toList =
        "MESSAGE\r\ncontent-length:4\r\n\r\na\n\nb\x00".toList := by
    decide +kernel
  -- The empty line of the body comes first, so its first line is taken for a header.
  have refused : decodeText? frame.encodeWithReturns.toList = .error (.malformedHeader "a") := by
    rw [sent]
    rfl
  clear_value frame
  have read := decodeText?_encode_alone sendable tellable
  rw [complete] at read
  exact ⟨sendable, read, refused⟩

end Frame

end SceneEditor
