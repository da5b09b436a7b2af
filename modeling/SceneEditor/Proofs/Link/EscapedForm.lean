import SceneEditor.Proofs.Link.Escape

namespace SceneEditor.Header

/-!
# The forms that unescape

A text unescapes exactly if it can be cut into pieces that each stand for one character: a character
other than a backslash by itself, or a backslash with one of four letters.  Its value is the text of
these characters.  A character that needs an escape may also stand in such a text as it is, so a
text is the escaped form of its value only if no such character is in it.
-/

/-- A piece of an escaped text, and the character that it stands for. -/
inductive StandsFor : List Char → Char → Prop where
  | itself {c : Char} (notBackslash : c ≠ '\\') : StandsFor [c] c
  | backslash : StandsFor ['\\', '\\'] '\\'
  | carriageReturn : StandsFor ['\\', 'r'] '\r'
  | lineFeed : StandsFor ['\\', 'n'] '\n'
  | colon : StandsFor ['\\', 'c'] ':'

/-- The text can be cut into pieces that stand for characters. -/
def CanBeCut (text : List Char) : Prop :=
  ∃ pieces : List (List Char), pieces.flatten = text ∧ ∀ piece ∈ pieces, ∃ c, StandsFor piece c

/-- The text can be cut into pieces that stand for the characters of the value, one by one. -/
inductive Spells : List Char → List Char → Prop where
  | nothing : Spells [] []
  | piece {piece text value : List Char} {c : Char}
      (first : StandsFor piece c)
      (rest : Spells text value) : Spells (piece ++ text) (c :: value)

/-- A text can be cut into escapes and plain characters exactly if it spells something. -/
theorem canBeCut_iff {text : List Char} :
    CanBeCut text ↔ ∃ value, Spells text value := by
  constructor
  · rintro ⟨pieces, rfl, stand⟩
    induction pieces with
    | nil =>
        exact ⟨[], .nothing⟩
    | cons piece pieces inductionHypothesis =>
        obtain ⟨⟨c, first⟩, others⟩ := List.forall_mem_cons.mp stand
        obtain ⟨value, rest⟩ := inductionHypothesis others
        exact ⟨c :: value, .piece first rest⟩
  · rintro ⟨value, spells⟩
    induction spells with
    | nothing =>
        exact ⟨[], rfl, List.forall_mem_nil _⟩
    | @piece piece _ _ c first _ inductionHypothesis =>
        obtain ⟨pieces, rfl, stand⟩ := inductionHypothesis
        exact ⟨piece :: pieces, rfl, List.forall_mem_cons.mpr ⟨⟨c, first⟩, stand⟩⟩

/-- A letter behind a backslash stands for what it escapes. -/
theorem standsFor_of_escaped?
    {letter c : Char}
    (means : escaped? letter = some c) :
    StandsFor ['\\', letter] c := by
  unfold escaped? at means
  split at means
  · obtain rfl := Option.some.inj means
    exact .backslash
  · obtain rfl := Option.some.inj means
    exact .carriageReturn
  · obtain rfl := Option.some.inj means
    exact .lineFeed
  · obtain rfl := Option.some.inj means
    exact .colon
  · exact absurd means (by simp)

/-- A piece in front of a text is read as the character that it stands for. -/
theorem StandsFor.unescape?_append
    {piece : List Char}
    {c : Char}
    (stands : StandsFor piece c)
    (text : List Char) :
    unescape? (piece ++ text) = (unescape? text).map (c :: ·) := by
  cases stands with
  | itself notBackslash =>
      exact unescape?_cons_of_ne notBackslash text
  | backslash | carriageReturn | lineFeed | colon =>
      cases unescaped : unescape? text <;> simp [unescape?, escaped?, unescaped]

/-- The walk over a text takes one piece in each step, of one character or of two. -/
theorem unescape?_eq_some_iff {text value : List Char} :
    unescape? text = some value ↔ Spells text value := by
  constructor
  · intro unescaped
    fun_induction unescape? text generalizing value with
    | case1 =>
        obtain rfl := Option.some.inj unescaped
        exact .nothing
    | case2 letter rest inductionHypothesis =>
        obtain ⟨c, means, others⟩ := Option.bind_eq_some_iff.mp unescaped
        obtain ⟨restValue, restUnescaped, result⟩ := Option.bind_eq_some_iff.mp others
        obtain rfl := Option.some.inj result
        exact .piece (standsFor_of_escaped? means) (inductionHypothesis restUnescaped)
    | case3 =>
        exact absurd unescaped (by simp)
    | case4 c rest _ notBackslash inductionHypothesis =>
        obtain ⟨restValue, restUnescaped, rfl⟩ := Option.map_eq_some_iff.mp unescaped
        exact .piece (.itself notBackslash) (inductionHypothesis restUnescaped)
  · intro spells
    induction spells with
    | nothing =>
        rfl
    | piece first _ inductionHypothesis =>
        rw [first.unescape?_append, inductionHypothesis]
        rfl

/-- The escaped form of a character is the one piece for it that a header line can hold. -/
theorem StandsFor.escapeChar_eq
    {piece : List Char}
    {c : Char}
    (stands : StandsFor piece c)
    (plain : ∀ d ∈ piece, IsPlain d) :
    escapeChar c = piece := by
  cases stands with
  | itself notBackslash =>
      obtain ⟨notReturn, notFeed, notColon⟩ := plain c List.mem_cons_self
      simp [escapeChar]
  | backslash | carriageReturn | lineFeed | colon =>
      rfl

/-- A spelling is the escaped form exactly if all its characters are plain. -/
theorem Spells.escape_eq_iff
    {text value : List Char}
    (spells : Spells text value) :
    escape value = text ↔ ∀ c ∈ text, IsPlain c := by
  constructor
  · rintro rfl c member
    exact isPlain_of_mem_escape member
  · intro plain
    induction spells with
    | nothing =>
        rfl
    | piece first _ inductionHypothesis =>
        obtain ⟨inPiece, inText⟩ := List.forall_mem_append.mp plain
        rw [escape_cons, first.escapeChar_eq inPiece, inductionHypothesis inText]

/-- The escaped form tells the text. -/
theorem escape_injective : Function.Injective escape := by
  intro first second same
  have unescaped := congrArg unescape? same
  rw [unescape?_escape, unescape?_escape] at unescaped
  exact Option.some.inj unescaped

/-!
## Texts and header lines
-/

/-- A text is unescaped to what it spells. -/
theorem unescape_eq_ok_iff {text value : String} :
    unescape text = .ok value ↔ Spells text.toList value.toList := by
  rw [← unescape?_eq_some_iff, unescape]
  cases unescape? text.toList with
  | none =>
      simp
  | some characters =>
      simp [← String.toList_inj]

/-- Only a text that cannot be cut fails, and the error quotes it. -/
theorem unescape_eq_error_iff {text : String} {error : FrameError} :
    unescape text = .error error ↔ error = .badEscape text ∧ ¬ CanBeCut text.toList := by
  have cut : CanBeCut text.toList ↔ ∃ value, unescape? text.toList = some value := by
    simp only [canBeCut_iff, unescape?_eq_some_iff]
  rw [cut, unescape]
  cases unescape? text.toList with
  | none =>
      simp [eq_comm]
  | some characters =>
      simp

/-- The name on a header line is what stands in front of its first colon. -/
def lineName (line : List Char) : List Char :=
  line.takeWhile (· != ':')

/-- The name on the line of a header is the escaped name. -/
theorem lineName_headerLine (name value : String) :
    lineName (Frame.headerLine true name value) = escape name.toList := by
  have noColon : ∀ c ∈ escape name.toList, (c != ':') = true := by
    intro c member
    simpa using (isPlain_of_mem_escape member).2.2
  rw [lineName, Frame.headerLine, if_pos rfl, List.takeWhile_append_of_pos noColon]
  simp

/-- Names are told apart on the lines of their headers as they are told apart before. -/
theorem lineName_eq_iff {name other value otherValue : String} :
    lineName (Frame.headerLine true name value) =
        lineName (Frame.headerLine true other otherValue) ↔
      name = other := by
  rw [lineName_headerLine, lineName_headerLine, escape_injective.eq_iff, String.toList_inj]

/-- The names on the lines are distinct exactly if the names of the headers are. -/
theorem nodup_lineNames_iff (headers : List (String × String)) :
    (headers.map fun (name, value) => lineName (Frame.headerLine true name value)).Nodup ↔
      (headers.map Prod.fst).Nodup := by
  rw [List.Nodup, List.Nodup, List.pairwise_map, List.pairwise_map]
  refine List.Pairwise.iff fun {first second} => ?_
  exact not_congr lineName_eq_iff

/--
Unescaping takes back what escaping wrote, which holds no line end and no colon.  It refuses exactly
the texts that cannot be cut, and of the others those are written back as they were that hold no line
end and no colon.  Texts, and the names of a list of headers, are as distinct escaped as they are.
-/
theorem unescape_inverts
    (text : String)
    (headers : List (String × String)) :
    unescape (String.ofList (escape text.toList)) = .ok text ∧
      (∀ c ∈ escape text.toList, c ≠ '\r' ∧ c ≠ '\n' ∧ c ≠ ':') ∧
      (∀ error,
        unescape text = .error error ↔ error = .badEscape text ∧ ¬ CanBeCut text.toList) ∧
      (∀ value,
        unescape text = .ok value →
          (String.ofList (escape value.toList) = text ↔
            ∀ c ∈ text.toList, c ≠ '\r' ∧ c ≠ '\n' ∧ c ≠ ':')) ∧
      (∀ other : String,
        String.ofList (escape text.toList) = String.ofList (escape other.toList) ↔
          text = other) ∧
      ((headers.map fun (name, value) => lineName (Frame.headerLine true name value)).Nodup ↔
        (headers.map Prod.fst).Nodup) := by
  refine ⟨unescape_escape text, fun c => isPlain_of_mem_escape, fun error => unescape_eq_error_iff,
    ?_, ?_, nodup_lineNames_iff headers⟩
  · intro value unescaped
    rw [← String.toList_inj, String.toList_ofList]
    exact (unescape_eq_ok_iff.mp unescaped).escape_eq_iff
  · intro other
    rw [String.ofList_inj, escape_injective.eq_iff, String.toList_inj]

/-- A colon that stands as it is behind an escaped one is read, and not written back. -/
theorem unescape_inverts_rawColon :
    unescape "\\\\\\c:" = .ok "\\::" ∧
      String.ofList (escape "\\::".toList) ≠ "\\\\\\c:" ∧
      unescape "\\\\\\" = .error (.badEscape "\\\\\\") := by
  have unescaped : unescape "\\\\\\c:" = .ok "\\::" := rfl
  obtain ⟨-, -, -, writtenBack, -⟩ := unescape_inverts "\\\\\\c:" []
  refine ⟨unescaped, fun same => ?_, rfl⟩
  exact absurd rfl ((writtenBack "\\::" unescaped).mp same ':' (by decide)).2.2

end SceneEditor.Header
