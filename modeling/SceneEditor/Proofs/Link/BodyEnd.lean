import SceneEditor.Proofs.Link.Refusal
import SceneEditor.Proofs.Link.RoundTrip

namespace SceneEditor

/-!
# Where a body ends

A message is a heart-beat, a frame, or refused, and there is no other way for it to end.  The length
that a header tells is an offset into the bytes behind the head, and the body ends there only if a
zero stands at it.  Such a zero is a NUL of the text, so the bytes before it are a text again.

The offset may be negative, and then it is one counted from the end of the message.  So the length
that a frame tells is the length of its body exactly if it is not negative.
-/

/-- The characters of a message, if its bytes are a text. -/
def Message.content? : Message → Option (List Char)
  | .text content => some content.toList
  | .bytes content => Text.decodeUtf8? content

/-- The failures that are refusals of a message; a body that is no text is of another kind. -/
def FrameError.isRefusal : FrameError → Bool
  | brokenBody => false
  | _ => true

namespace Frame

/-- A message that has a text is decoded as that text. -/
theorem decode?_of_content
    {message : Message}
    {text : List Char}
    (content : message.content? = some text) :
    decode? message = decodeText? text := by
  cases message with
  | text content' =>
      rw [← Option.some.inj content]
      rfl
  | bytes content' =>
      rw [Message.content?] at content
      simp only [decode?, content]

/-- Bytes that are no text are refused with the place of the first of them that is to blame. -/
theorem decode?_of_undecodable
    {content : Text.Bytes}
    (undecodable : Text.decodeUtf8? content = none) :
    ∃ fault, decode? (.bytes content) = .error (.notUtf8 fault) ∧ fault.Blames 0 content :=
  ⟨Text.utf8Fault content, by simp only [decode?, undecodable],
    Text.utf8Fault_blames undecodable⟩

theorem decode?_of_noContent
    {message : Message}
    (noContent : message.content? = none) :
    ∃ fault, decode? message = .error (.notUtf8 fault) := by
  cases message with
  | text content =>
      exact absurd noContent (by simp [Message.content?])
  | bytes content =>
      obtain ⟨fault, refused, -⟩ := decode?_of_undecodable noContent
      exact ⟨fault, refused⟩

/-- Nothing but a heart-beat is read as one. -/
theorem decodeText?_eq_none_iff {text : List Char} :
    decodeText? text = .ok none ↔ isHeartbeatText text = true := by
  unfold decodeText?
  split
  · next heartbeat =>
    simp [heartbeat]
  · next notHeartbeat =>
    simp only [notHeartbeat, Bool.false_eq_true, iff_false]
    split
    · simp
    · split
      · intro read
        obtain ⟨headers, -, read⟩ := Attempt.bind_eq_ok_iff.mp read
        obtain ⟨body, -, read⟩ := Attempt.bind_eq_ok_iff.mp read
        exact absurd read (by simp [pure, Except.pure])
      · simp [throw, throwThe, MonadExceptOf.throw]

/-- Line ends and nothing else make a heartbeat. -/
theorem isHeartbeatText_iff {text : List Char} :
    isHeartbeatText text = true ↔ ∀ c ∈ text, c = '\r' ∨ c = '\n' := by
  simp [isHeartbeatText, isLineEnd]

/-- Nothing is decoded exactly from a heartbeat. -/
theorem decode?_eq_none_iff {message : Message} :
    decode? message = .ok none ↔
      ∃ text, message.content? = some text ∧ ∀ c ∈ text, c = '\r' ∨ c = '\n' := by
  cases content : message.content? with
  | none =>
      obtain ⟨fault, refused⟩ := decode?_of_noContent content
      simp [refused]
  | some text =>
      rw [decode?_of_content content, decodeText?_eq_none_iff, isHeartbeatText_iff]
      simp

/-- Where a zero stands at an offset, the bytes up to it are a text. -/
theorem decodeUtf8?_bytesBetween
    {rest : List Char}
    {size : Int}
    (ends : bytesBetween (Text.encodeUtf8 rest) size (size + 1) = [0]) :
    ∃ body behind,
      rest = body ++ nul :: behind ∧
        place (Text.encodeUtf8 rest).length size = (Text.encodeUtf8 body).length ∧
        Text.decodeUtf8? (bytesBetween (Text.encodeUtf8 rest) 0 size) = some body := by
  have zero := getElem?_of_bytesBetween ends
  obtain ⟨body, behind, shape, bytes⟩ := Text.take_encodeUtf8_of_zero zero
  obtain ⟨within, -⟩ := List.getElem?_eq_some_iff.mp zero
  refine ⟨body, behind, shape, ?_, ?_⟩
  · rw [← bytes, List.length_take, Nat.min_eq_left (Nat.le_of_lt within)]
  · rw [bytesBetween_zero, bytes, Text.decodeUtf8?_encodeUtf8]

/--
Every message, of whatever characters or bytes, is a heart-beat, a frame, or refused.  It is taken
for a heart-beat exactly if it is a text of line ends.  And whatever integer is claimed as the
length of a body: if a zero stands at that offset, the bytes before it are decoded, to what stands
before a NUL of the text.
-/
theorem decode?_reads_or_refuses (message : Message) :
    (decode? message = .ok none ∨ (∃ frame, decode? message = .ok (some frame)) ∨
      ∃ error, decode? message = .error error ∧ error.isRefusal = true) ∧
      (decode? message = .ok none ↔
        ∃ text, message.content? = some text ∧ ∀ c ∈ text, c = '\r' ∨ c = '\n') ∧
      ∀ (rest : List Char) (size : Int),
        bytesBetween (Text.encodeUtf8 rest) size (size + 1) = [0] →
          ∃ body behind,
            rest = body ++ nul :: behind ∧
              Text.decodeUtf8? (bytesBetween (Text.encodeUtf8 rest) 0 size) = some body := by
  refine ⟨?_, decode?_eq_none_iff, ?_⟩
  · have unbroken := decode?_ne_brokenBody message
    cases read : decode? message with
    | ok frame? =>
        cases frame? with
        | none =>
            exact Or.inl rfl
        | some frame =>
            exact Or.inr (Or.inl ⟨frame, rfl⟩)
    | error error =>
        rw [read] at unbroken
        refine Or.inr (Or.inr ⟨error, rfl, ?_⟩)
        cases error with
        | brokenBody =>
            exact absurd rfl unbroken
        | _ =>
            rfl
  · intro rest size ends
    obtain ⟨body, behind, shape, -, decoded⟩ := decodeUtf8?_bytesBetween ends
    exact ⟨body, behind, shape, decoded⟩

/-- A negative length that points behind a character of two bytes, and bytes that are no text. -/
theorem decode?_reads_or_refuses_negative :
    let rest : List Char := ['é', nul, 'b']
    bytesBetween (Text.encodeUtf8 rest) (-2) (-2 + 1) = [0] ∧
      (∃ body behind,
        rest = body ++ nul :: behind ∧
          Text.decodeUtf8? (bytesBetween (Text.encodeUtf8 rest) 0 (-2)) = some body) ∧
      ∃ error, decode? (.bytes [0xC3, 0x00]) = .error error ∧ error.isRefusal = true := by
  intro rest
  have zero : bytesBetween (Text.encodeUtf8 rest) (-2) (-2 + 1) = [0] := by decide
  obtain ⟨outcomes, -, bodies⟩ := decode?_reads_or_refuses (.bytes [0xC3, 0x00])
  have refused :
      decode? (.bytes [0xC3, 0x00]) =
        .error (.notUtf8 { place := 0, first := 0xC3, count := 1, defect := .badContinuation }) :=
    rfl
  refine ⟨zero, bodies rest (-2) zero, ?_⟩
  rcases outcomes with none | ⟨frame, read⟩ | told
  · rw [refused] at none
    exact absurd none (by simp)
  · rw [refused] at read
    exact absurd read (by simp)
  · exact told

/-!
## The length that a frame tells
-/

/-- The offset is the place between two stretches, counted from the front or, below zero, back. -/
def IsPlaceBetween (offset : Int) (before behind : List Char) : Prop :=
  if offset < 0 then -offset = (Text.encodeUtf8 behind).length + 1
  else offset = (Text.encodeUtf8 before).length

/-- An offset with a byte behind it points to its place from the front or, below zero, back. -/
theorem offset_of_place
    {front back : Nat}
    {offset : Int}
    (placed : place (front + (back + 1)) offset = front)
    (holdsByte : front < place (front + (back + 1)) (offset + 1)) :
    if offset < 0 then -offset = back + 1 else offset = front := by
  unfold place at placed holdsByte
  by_cases negative : offset < 0
  · rw [if_pos negative] at placed ⊢
    by_cases nextNegative : offset + 1 < 0
    · rw [if_pos nextNegative] at holdsByte
      omega
    · rw [if_neg nextNegative] at holdsByte
      omega
  · rw [if_neg negative] at placed ⊢
    rw [if_neg (by omega)] at holdsByte
    omega

/-- A zero byte at the claimed offset stands between a body and what is behind it. -/
theorem isPlaceBetween_of_zero
    {body behind : List Char}
    {size : Int}
    (ends : bytesBetween (Text.encodeUtf8 (body ++ nul :: behind)) size (size + 1) = [0])
    (placed :
      place (Text.encodeUtf8 (body ++ nul :: behind)).length size =
        (Text.encodeUtf8 body).length) :
    IsPlaceBetween size body behind := by
  have whole :
      (Text.encodeUtf8 (body ++ nul :: behind)).length =
        (Text.encodeUtf8 body).length + ((Text.encodeUtf8 behind).length + 1) := by
    rw [Text.encodeUtf8_append, Text.encodeUtf8_cons, List.length_append, List.length_append,
      Nat.add_comm (Text.encodeUtf8 behind).length]
    rfl
  have single := congrArg List.length ends
  rw [bytesBetween, List.length_take, List.length_drop, List.length_singleton, placed] at single
  rw [whole] at placed single
  exact offset_of_place placed (by omega)

/-- What a body that was read to an offset says about the offset. -/
theorem readSized_eq_ok
    {size : Int}
    {rest : List Char}
    {body : String}
    (read : readSized size rest = .ok body) :
    ∃ behind,
      rest = body.toList ++ nul :: behind ∧ IsPlaceBetween size body.toList behind := by
  unfold readSized at read
  dsimp only at read
  split at read
  · exact absurd read (by simp)
  · split at read
    · next ends =>
      obtain ⟨before, behind, rfl, placed, decoded⟩ := decodeUtf8?_bytesBetween ends
      rw [decoded] at read
      obtain rfl := Except.ok.inj read
      rw [String.toList_ofList]
      exact ⟨behind, rfl, isPlaceBetween_of_zero ends placed⟩
    · exact absurd read (by simp)

/-- A body ends with a NUL: at the offset that is told, or at the first one if none is told. -/
theorem readBody_eq_ok
    {headers : List (String × String)}
    {rest : List Char}
    {body : String}
    (read : readBody headers rest = .ok body) :
    ∃ behind,
      rest = body.toList ++ nul :: behind ∧
        (Header.find? Header.lengthName headers = none → nul ∉ body.toList) ∧
        ∀ value, Header.find? Header.lengthName headers = some value →
          ∃ size, Numeral.integer? value = .ok size ∧ IsPlaceBetween size body.toList behind := by
  unfold readBody at read
  split at read
  · next value told =>
    split at read
    · next size number =>
      obtain ⟨behind, shape, between⟩ := readSized_eq_ok read
      refine ⟨behind, shape, fun untold => absurd (told.symm.trans untold) (by simp), ?_⟩
      intro other toldOther
      obtain rfl := Option.some.inj (told.symm.trans toldOther)
      exact ⟨size, number, between⟩
    · exact absurd read (by simp)
  · next untold =>
    split at read
    · next before behind cut =>
      obtain rfl := Except.ok.inj read
      rw [String.toList_ofList]
      refine ⟨behind, Text.eq_append_of_cutAt? cut, fun _ => Text.notMem_of_cutAt? cut, ?_⟩
      intro value told
      exact absurd (untold.symm.trans told) (by simp)
    · exact absurd read (by simp)

/-- A text with a blank line is a head, a mark and a rest. -/
theorem eq_append_of_parts?
    {text head rest : List Char}
    (parted : parts? text = some (head, rest)) :
    ∃ mark, text = head ++ (mark ++ rest) := by
  unfold parts? at parted
  split at parted
  · next found cut =>
    obtain rfl := Option.some.inj parted
    exact ⟨_, Text.eq_append_of_cutAt? cut⟩
  · exact ⟨_, Text.eq_append_of_cutAt? parted⟩

/-- A frame has its body from the end of its text. -/
theorem decodeText?_eq_some
    {text : List Char}
    {frame : Frame}
    (read : decodeText? text = .ok (some frame)) :
    ∃ front rest, text = front ++ rest ∧ readBody frame.headers rest = .ok frame.body := by
  unfold decodeText? at read
  split at read
  · exact absurd read (by simp)
  · split at read
    · exact absurd read (by simp)
    · next head rest parted =>
      dsimp only at read
      split at read
      · obtain ⟨headers, -, read⟩ := Attempt.bind_eq_ok_iff.mp read
        obtain ⟨body, bodyRead, read⟩ := Attempt.bind_eq_ok_iff.mp read
        obtain rfl := Option.some.inj (Except.ok.inj read)
        obtain ⟨mark, shape⟩ := eq_append_of_parts? parted
        refine ⟨text.takeWhile isLineEnd ++ (head ++ mark), rest, ?_, bodyRead⟩
        rw [List.append_assoc, List.append_assoc, ← shape, List.takeWhile_append_dropWhile]
      · exact absurd read (by simp [throw, throwThe, MonadExceptOf.throw])

/--
The body of a frame is a stretch of the message with a NUL behind it.  A frame that does not tell a
length has no NUL in its body.  A length that it tells is an integer, which is the length of the
body in bytes exactly if it is not negative; a negative one is the number of bytes that the message
has from that NUL on.
-/
theorem decode?_told_length
    {message : Message}
    {frame : Frame}
    (read : decode? message = .ok (some frame)) :
    ∃ front behind,
      message.content? = some (front ++ (frame.body.toList ++ nul :: behind)) ∧
        (frame.header? Header.lengthName = none → nul ∉ frame.body.toList) ∧
        ∀ value, frame.header? Header.lengthName = some value →
          ∃ size,
            Numeral.integer? value = .ok size ∧
              ((frame.bodySize : Int) = size ↔ 0 ≤ size) ∧
              (size < 0 → -size = (Text.encodeUtf8 behind).length + 1) := by
  cases content : message.content? with
  | none =>
      obtain ⟨fault, refused⟩ := decode?_of_noContent content
      rw [refused] at read
      exact absurd read (by simp)
  | some text =>
      rw [decode?_of_content content] at read
      obtain ⟨front, rest, rfl, bodyRead⟩ := decodeText?_eq_some read
      obtain ⟨behind, rfl, untold, told⟩ := readBody_eq_ok bodyRead
      refine ⟨front, behind, rfl, untold, ?_⟩
      intro value found
      obtain ⟨size, number, between⟩ := told value found
      refine ⟨size, number, ?_⟩
      unfold IsPlaceBetween at between
      unfold bodySize
      by_cases negative : size < 0
      · rw [if_pos negative] at between
        exact ⟨⟨fun same => by omega, fun positive => by omega⟩, fun _ => between⟩
      · rw [if_neg negative] at between
        exact ⟨⟨fun _ => by omega, fun _ => between.symm⟩, fun below => absurd below negative⟩

/-- A length with a sign, a blank and an underscore, for a body with a NUL and a longer character. -/
theorem decode?_told_length_nul :
    let message : Message := .text "MESSAGE\ncontent-length: +0_4\n\né\x00x\x00tail"
    let frame : Frame := {
      command := "MESSAGE"
      headers := [("content-length", " +0_4")]
      body := "é\x00x"
    }
    decode? message = .ok (some frame) ∧
      ∃ size, Numeral.integer? " +0_4" = .ok size ∧ ((frame.bodySize : Int) = size ↔ 0 ≤ size) := by
  intro message frame
  have read : decode? message = .ok (some frame) :=
    Attempt.eq_ok_of_toOption (by decide +kernel)
  obtain ⟨front, behind, -, -, told⟩ := decode?_told_length read
  obtain ⟨size, number, exact, -⟩ := told " +0_4" (by decide)
  exact ⟨read, size, number, exact⟩

/-- A negative length is not the length of any body, but a frame may tell one. -/
theorem decode?_negative_length :
    let message : Message := .text "MESSAGE\ncontent-length:-2\n\nab\x00c"
    let frame : Frame := {
      command := "MESSAGE"
      headers := [("content-length", "-2")]
      body := "ab"
    }
    decode? message = .ok (some frame) ∧
      frame.header? Header.lengthName = some "-2" ∧
      Numeral.integer? "-2" = .ok (-2) ∧
      (frame.bodySize : Int) ≠ -2 := by
  intro message frame
  refine ⟨?_, ?_, ?_, ?_⟩
  · exact Attempt.eq_ok_of_toOption (by decide +kernel)
  · decide
  · exact Attempt.eq_ok_of_toOption (by decide +kernel)
  · decide

end Frame

end SceneEditor
