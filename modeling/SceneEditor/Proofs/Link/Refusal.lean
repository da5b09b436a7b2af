import SceneEditor.Link.Frame
import SceneEditor.Proofs.Attempt
import SceneEditor.Proofs.Text.Utf8

namespace SceneEditor.Frame

/-!
# What the reader refuses

A body is cut out of the bytes of a message at an offset that a header claims, which may be negative
and may point into the middle of a character.  The reader takes it only if a zero stands at its end,
and a zero among the bytes of a text is a character of its own.  So the bytes in front of it are a
text, and the reader never meets a body that is none.
-/

theorem bytesBetween_zero
    (bytes : Text.Bytes)
    (stop : Int) :
    bytesBetween bytes 0 stop = bytes.take (place bytes.length stop) := by
  have start : place bytes.length 0 = 0 := by simp [place]
  rw [bytesBetween, start, List.drop_zero, Nat.sub_zero]

/-- A stretch that is a single byte shows the byte at its start. -/
theorem getElem?_of_bytesBetween
    {bytes : Text.Bytes}
    {start stop : Int}
    {byte : UInt8}
    (single : bytesBetween bytes start stop = [byte]) :
    bytes[place bytes.length start]? = some byte := by
  have first : (bytesBetween bytes start stop)[0]? = some byte := by
    rw [single]
    rfl
  obtain ⟨within, _⟩ := List.getElem?_eq_some_iff.mp first
  rw [bytesBetween, List.length_take] at within
  rw [bytesBetween, List.getElem?_take_of_lt (by omega), List.getElem?_drop] at first
  exact first

/-- A body of a told length ends at a zero byte or is refused before it is decoded. -/
theorem readSized_ne_brokenBody
    (size : Int)
    (rest : List Char) :
    readSized size rest ≠ .error .brokenBody := by
  unfold readSized
  dsimp only
  split
  · simp
  · split
    · next ends =>
      obtain ⟨before, behind, -, bytes⟩ :=
        Text.take_encodeUtf8_of_zero (getElem?_of_bytesBetween ends)
      rw [bytesBetween_zero, bytes, Text.decodeUtf8?_encodeUtf8]
      simp
    · simp

/-- No body is found broken. -/
theorem readBody_ne_brokenBody
    (headers : List (String × String))
    (rest : List Char) :
    readBody headers rest ≠ .error .brokenBody := by
  unfold readBody
  split
  · split
    · exact readSized_ne_brokenBody _ rest
    · simp
  · split <;> simp

theorem unescape_ne_brokenBody (text : String) :
    Header.unescape text ≠ .error .brokenBody := by
  unfold Header.unescape
  split <;> simp

theorem readHeader_ne_brokenBody
    (escapes : Bool)
    (headers : List (String × String))
    (line : List Char) :
    readHeader escapes headers line ≠ .error .brokenBody := by
  unfold readHeader
  split
  · simp
  · split
    · simp
    · next name value _ =>
      split
      · intro broken
        rcases Attempt.bind_eq_error_iff.mp broken with nameBroken | ⟨_, _, broken⟩
        · exact unescape_ne_brokenBody _ nameBroken
        · rcases Attempt.bind_eq_error_iff.mp broken with valueBroken | ⟨_, _, broken⟩
          · exact unescape_ne_brokenBody _ valueBroken
          · exact absurd broken (by simp [pure, Except.pure])
      · simp

theorem foldlM_readHeader_ne_brokenBody
    (escapes : Bool)
    (headers : List (String × String))
    (lines : List (List Char)) :
    lines.foldlM (readHeader escapes) headers ≠ .error .brokenBody := by
  induction lines generalizing headers with
  | nil =>
      simp [pure, Except.pure]
  | cons line others inductionHypothesis =>
      rw [List.foldlM_cons]
      intro broken
      rcases Attempt.bind_eq_error_iff.mp broken with lineBroken | ⟨later, _, othersBroken⟩
      · exact readHeader_ne_brokenBody escapes headers line lineBroken
      · exact inductionHypothesis later othersBroken

/-- No text is refused for a broken body. -/
theorem decodeText?_ne_brokenBody (text : List Char) :
    decodeText? text ≠ .error .brokenBody := by
  unfold decodeText?
  split
  · simp
  · split
    · simp
    · dsimp only
      split
      · intro broken
        rcases Attempt.bind_eq_error_iff.mp broken with headersBroken | ⟨headers, _, broken⟩
        · exact foldlM_readHeader_ne_brokenBody _ _ _ headersBroken
        · rcases Attempt.bind_eq_error_iff.mp broken with bodyBroken | ⟨body, _, broken⟩
          · exact readBody_ne_brokenBody _ _ bodyBroken
          · exact absurd broken (by simp [pure, Except.pure])
      · simp [throw, throwThe, MonadExceptOf.throw]

/-- No message has a body that ends with a zero and is no text. -/
theorem decode?_ne_brokenBody (message : Message) :
    decode? message ≠ .error .brokenBody := by
  unfold decode?
  split
  · exact decodeText?_ne_brokenBody _
  · split
    · exact decodeText?_ne_brokenBody _
    · simp

end SceneEditor.Frame
