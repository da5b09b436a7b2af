import Mathlib.Data.List.TakeWhile
import SceneEditor.Text.Utf8

namespace SceneEditor.Text

/-!
# Encoding and decoding UTF-8

Decoding takes back what encoding wrote, character by character, whatever bytes follow.  Both
readers agree on encodings of texts, because a text holds no surrogate.  A zero among the bytes of a
text is the NUL character, so a text may be cut there.
-/

/-- Texts are encoded one behind the other. -/
@[simp] theorem encodeUtf8_append
    (first second : List Char) :
    encodeUtf8 (first ++ second) =
      encodeUtf8 first ++ encodeUtf8 second := by
  simp [encodeUtf8]

@[simp] theorem encodeUtf8_cons
    (c : Char)
    (text : List Char) :
    encodeUtf8 (c :: text) =
      String.utf8EncodeChar c ++ encodeUtf8 text := by
  simp [encodeUtf8]

/-- A character is read from its own code. -/
private theorem scalarFrom?_toNat
    (lenient : Bool)
    {least : Nat}
    {c : Char}
    (enough : least ≤ c.toNat) :
    scalarFrom? lenient least c.toNat = some c := by
  have valid : c.toNat.isValidChar := c.valid
  simp [scalarFrom?, scalar?, enough, valid]

/-- A continuation byte holds six bits. -/
private theorem continuation?_ofNat
    {payload : Nat}
    (small : payload < 0x40) :
    continuation? (UInt8.ofNat (payload + 0x80)) = some payload := by
  have value : (UInt8.ofNat (payload + 0x80)).toNat = payload + 0x80 :=
    UInt8.toNat_ofNat_of_lt (by simp only [UInt8.size]; omega)
  simp only [continuation?, value]
  rw [if_pos (by omega)]
  simp

/-- A byte below 128 is a character by itself. -/
private theorem decodeUtf8With?_one
    (lenient : Bool)
    {code : Nat}
    (rest : Bytes)
    (small : code < 0x80) :
    decodeUtf8With? lenient (UInt8.ofNat code :: rest) =
      (decodeUtf8With? lenient rest).map (Char.ofNat code :: ·) := by
  have value : (UInt8.ofNat code).toNat = code :=
    UInt8.toNat_ofNat_of_lt (by simp only [UInt8.size]; omega)
  rw [decodeUtf8With?.eq_def]
  simp only [value, small, ↓reduceIte]

/-- Two bytes hold eleven bits. -/
private theorem decodeUtf8With?_two
    (lenient : Bool)
    {a b : Nat}
    (rest : Bytes)
    (aSmall : a < 0x20)
    (bSmall : b < 0x40) :
    decodeUtf8With? lenient
        (UInt8.ofNat (a + 0xC0) :: UInt8.ofNat (b + 0x80) :: rest) =
      (scalarFrom? lenient 0x80 (a * 0x40 + b)).bind fun c =>
        (decodeUtf8With? lenient rest).map (c :: ·) := by
  have value : (UInt8.ofNat (a + 0xC0)).toNat = a + 0xC0 :=
    UInt8.toNat_ofNat_of_lt (by simp only [UInt8.size]; omega)
  have notOne : ¬ a + 0xC0 < 0x80 := by omega
  have isTwo : 0xC0 ≤ a + 0xC0 ∧ a + 0xC0 < 0xE0 := by omega
  rw [decodeUtf8With?.eq_def]
  simp only [value, notOne, ↓reduceIte, continuation?_ofNat bSmall, Option.bind_eq_bind,
    Option.bind_some, isTwo, and_self, Nat.add_sub_cancel]
  cases scalarFrom? lenient 0x80 (a * 0x40 + b) with
  | none => rfl
  | some c => cases decodeUtf8With? lenient rest <;> rfl

/-- Three bytes hold sixteen bits. -/
private theorem decodeUtf8With?_three
    (lenient : Bool)
    {a b c : Nat}
    (rest : Bytes)
    (aSmall : a < 0x10)
    (bSmall : b < 0x40)
    (cSmall : c < 0x40) :
    decodeUtf8With? lenient
        (UInt8.ofNat (a + 0xE0) :: UInt8.ofNat (b + 0x80) :: UInt8.ofNat (c + 0x80) :: rest) =
      (scalarFrom? lenient 0x800 ((a * 0x40 + b) * 0x40 + c)).bind fun c =>
        (decodeUtf8With? lenient rest).map (c :: ·) := by
  have value : (UInt8.ofNat (a + 0xE0)).toNat = a + 0xE0 :=
    UInt8.toNat_ofNat_of_lt (by simp only [UInt8.size]; omega)
  have notOne : ¬ a + 0xE0 < 0x80 := by omega
  have notTwo : ¬ (0xC0 ≤ a + 0xE0 ∧ a + 0xE0 < 0xE0) := by omega
  have isThree : 0xE0 ≤ a + 0xE0 ∧ a + 0xE0 < 0xF0 := by omega
  rw [decodeUtf8With?.eq_def]
  simp only [value, notOne, notTwo, ↓reduceIte, continuation?_ofNat bSmall,
    continuation?_ofNat cSmall, Option.bind_eq_bind, Option.bind_some, isThree, and_self,
    Nat.add_sub_cancel]
  cases scalarFrom? lenient 0x800 ((a * 0x40 + b) * 0x40 + c) with
  | none => rfl
  | some c => cases decodeUtf8With? lenient rest <;> rfl

/-- Four bytes hold twenty-one bits. -/
private theorem decodeUtf8With?_four
    (lenient : Bool)
    {a b c d : Nat}
    (rest : Bytes)
    (aSmall : a < 0x08)
    (bSmall : b < 0x40)
    (cSmall : c < 0x40)
    (dSmall : d < 0x40) :
    decodeUtf8With? lenient
        (UInt8.ofNat (a + 0xF0) :: UInt8.ofNat (b + 0x80) :: UInt8.ofNat (c + 0x80) ::
          UInt8.ofNat (d + 0x80) :: rest) =
      (scalarFrom? lenient 0x10000 (((a * 0x40 + b) * 0x40 + c) * 0x40 + d)).bind fun c =>
        (decodeUtf8With? lenient rest).map (c :: ·) := by
  have value : (UInt8.ofNat (a + 0xF0)).toNat = a + 0xF0 :=
    UInt8.toNat_ofNat_of_lt (by simp only [UInt8.size]; omega)
  have notOne : ¬ a + 0xF0 < 0x80 := by omega
  have notTwo : ¬ (0xC0 ≤ a + 0xF0 ∧ a + 0xF0 < 0xE0) := by omega
  have notThree : ¬ (0xE0 ≤ a + 0xF0 ∧ a + 0xF0 < 0xF0) := by omega
  have isFour : 0xF0 ≤ a + 0xF0 ∧ a + 0xF0 < 0xF8 := by omega
  rw [decodeUtf8With?.eq_def]
  simp only [value, notOne, notTwo, notThree, ↓reduceIte, continuation?_ofNat bSmall,
    continuation?_ofNat cSmall, continuation?_ofNat dSmall, Option.bind_eq_bind,
    Option.bind_some, isFour, and_self, Nat.add_sub_cancel]
  cases scalarFrom? lenient 0x10000 (((a * 0x40 + b) * 0x40 + c) * 0x40 + d) with
  | none => rfl
  | some c => cases decodeUtf8With? lenient rest <;> rfl

/-- The bytes of a character are decoded to that character. -/
theorem decodeUtf8With?_encodeChar_append
    (lenient : Bool)
    (c : Char)
    (rest : Bytes) :
    decodeUtf8With? lenient (String.utf8EncodeChar c ++ rest) =
      (decodeUtf8With? lenient rest).map (c :: ·) := by
  have code : c.val.toNat = c.toNat := rfl
  have bound : c.toNat < 0x110000 := by
    have := c.valid
    simp only [UInt32.isValidChar, Nat.isValidChar] at this
    omega
  simp only [String.utf8EncodeChar, code]
  split
  · rw [List.singleton_append, decodeUtf8With?_one lenient rest (by omega), Char.ofNat_toNat]
  · split
    · have joined : c.toNat / 64 % 0x20 * 0x40 + c.toNat % 0x40 = c.toNat := by omega
      rw [List.cons_append, List.singleton_append,
        decodeUtf8With?_two lenient rest (by omega) (by omega), joined,
        scalarFrom?_toNat lenient (by omega), Option.bind_some]
    · split
      · have joined :
            (c.toNat / 4096 % 0x10 * 0x40 + c.toNat / 64 % 0x40) * 0x40 + c.toNat % 0x40 =
              c.toNat := by
          omega
        rw [List.cons_append, List.cons_append, List.singleton_append,
          decodeUtf8With?_three lenient rest (by omega) (by omega) (by omega), joined,
          scalarFrom?_toNat lenient (by omega), Option.bind_some]
      · have joined :
            ((c.toNat / 262144 % 0x08 * 0x40 + c.toNat / 4096 % 0x40) * 0x40 +
                c.toNat / 64 % 0x40) * 0x40 + c.toNat % 0x40 = c.toNat := by
          omega
        rw [List.cons_append, List.cons_append, List.cons_append, List.singleton_append,
          decodeUtf8With?_four lenient rest (by omega) (by omega) (by omega) (by omega), joined,
          scalarFrom?_toNat lenient (by omega), Option.bind_some]

/-- The bytes of a text are decoded to that text, in front of what follows them. -/
theorem decodeUtf8With?_encodeUtf8_append
    (lenient : Bool)
    (text : List Char)
    (rest : Bytes) :
    decodeUtf8With? lenient (encodeUtf8 text ++ rest) =
      (decodeUtf8With? lenient rest).map (text ++ ·) := by
  induction text with
  | nil =>
      simp [encodeUtf8]
  | cons c text inductionHypothesis =>
      rw [encodeUtf8_cons, List.append_assoc, decodeUtf8With?_encodeChar_append,
        inductionHypothesis, Option.map_map]
      rfl

/-- A text is what its bytes are decoded to. -/
@[simp] theorem decodeUtf8?_encodeUtf8
    (text : List Char) :
    decodeUtf8? (encodeUtf8 text) = some text := by
  have decoded := decodeUtf8With?_encodeUtf8_append false text []
  simpa [decodeUtf8?, decodeUtf8With?] using decoded

private theorem ofNat_ne_zero
    (code : Nat)
    (positive : 0 < code)
    (small : code < 0x100) :
    UInt8.ofNat code ≠ 0 := by
  intro zero
  have value : (UInt8.ofNat code).toNat = code :=
    UInt8.toNat_ofNat_of_lt (by simp only [UInt8.size]; omega)
  rw [zero, UInt8.toNat_zero] at value
  omega

/-- No byte of a character is zero, unless the character is NUL. -/
theorem eq_nul_of_mem_encodeChar
    {c : Char}
    (member : 0 ∈ String.utf8EncodeChar c) :
    c = Char.ofNat 0 := by
  have code : c.val.toNat = c.toNat := rfl
  simp only [String.utf8EncodeChar, code] at member
  split at member
  · by_cases zero : c.toNat = 0
    · rw [← Char.ofNat_toNat c, zero]
    · have different := ofNat_ne_zero c.toNat (Nat.pos_of_ne_zero zero) (by omega)
      exact absurd (List.mem_singleton.mp member).symm different
  · exfalso
    have later (payload : Nat) : 0 ≠ UInt8.ofNat (payload % 0x40 + 0x80) :=
      Ne.symm (ofNat_ne_zero _ (by omega) (by omega))
    split at member
    · have first := ofNat_ne_zero (c.toNat / 64 % 0x20 + 0xC0) (by omega) (by omega)
      simp only [List.mem_cons, List.not_mem_nil, Ne.symm first, later, or_self] at member
    · split at member
      · have first := ofNat_ne_zero (c.toNat / 4096 % 0x10 + 0xE0) (by omega) (by omega)
        simp only [List.mem_cons, List.not_mem_nil, Ne.symm first, later, or_self] at member
      · have first := ofNat_ne_zero (c.toNat / 262144 % 0x08 + 0xF0) (by omega) (by omega)
        simp only [List.mem_cons, List.not_mem_nil, Ne.symm first, later, or_self] at member

/-- Where a zero stands among the bytes of a text, the bytes before it are a text. -/
theorem take_encodeUtf8_of_zero
    {text : List Char}
    {place : Nat}
    (found : (encodeUtf8 text)[place]? = some 0) :
    ∃ before behind,
      text = before ++ Char.ofNat 0 :: behind ∧
        (encodeUtf8 text).take place = encodeUtf8 before := by
  induction text generalizing place with
  | nil =>
      exact absurd found (by simp [encodeUtf8])
  | cons c text inductionHypothesis =>
      rw [encodeUtf8_cons] at found ⊢
      by_cases inside : place < (String.utf8EncodeChar c).length
      · rw [List.getElem?_append_left inside] at found
        have isNul := eq_nul_of_mem_encodeChar (List.mem_of_getElem? found)
        have first : place = 0 := by
          have size : (String.utf8EncodeChar (Char.ofNat 0)).length = 1 := by decide
          rw [isNul, size] at inside
          omega
        refine ⟨[], text, by rw [isNul]; rfl, ?_⟩
        rw [first]
        rfl
      · have outside : (String.utf8EncodeChar c).length ≤ place := Nat.le_of_not_lt inside
        rw [List.getElem?_append_right outside] at found
        obtain ⟨before, behind, shape, bytes⟩ := inductionHypothesis found
        refine ⟨c :: before, behind, by rw [shape]; rfl, ?_⟩
        rw [List.take_append, List.take_of_length_le outside, bytes, encodeUtf8_cons]

/-!
## Where decoding stops

Bytes that go on as their first one asks for are those of a character.  So what stands before the
place where decoding stops is a text, and the bytes that are to blame stand from there on.
-/

/-- No more bytes go on than there are. -/
theorem goingOn_le
    (first : UInt8)
    (tail : Bytes) :
    goingOn first tail ≤ tail.length := by
  cases tail with
  | nil =>
      exact Nat.le_refl 0
  | cons second rest =>
      rw [goingOn]
      split
      · exact Nat.succ_le_succ (List.takeWhile_sublist _).length_le
      · exact Nat.zero_le _

/-- All bytes behind the first one go on with its character. -/
theorem goingOn_eq_length_iff
    {first second : UInt8}
    {rest : Bytes} :
    goingOn first (second :: rest) = (second :: rest).length ↔
      isSecond first second = true ∧ ∀ byte ∈ rest, isContinuation byte = true := by
  rw [goingOn, List.length_cons]
  split
  · next isSecond =>
    have whole :
        (rest.takeWhile isContinuation).length = rest.length ↔
          rest.takeWhile isContinuation = rest :=
      ⟨(List.takeWhile_prefix _).eq_of_length, congrArg List.length⟩
    rw [Nat.add_right_cancel_iff, whole, List.takeWhile_eq_self_iff]
    exact (and_iff_right isSecond).symm
  · next notSecond =>
    exact iff_of_false (Nat.succ_ne_zero _).symm fun both => notSecond both.1

/-- The bytes that go on with a character are those from 128 to 191. -/
theorem isContinuation_iff
    {byte : UInt8} :
    isContinuation byte = true ↔ 0x80 ≤ byte.toNat ∧ byte.toNat < 0xC0 := by
  unfold isContinuation continuation?
  split
  · next inRange =>
    exact iff_of_true rfl inRange
  · next outside =>
    exact iff_of_false nofun outside

/-- What a first byte and the number of bytes behind it say of each other. -/
theorem following?_bounds
    {first : UInt8}
    {wanted : Nat}
    (begins : following? first = some wanted) :
    (wanted = 0 ∧ first.toNat < 0x80)
      ∨ (wanted = 1 ∧ 0xC2 ≤ first.toNat ∧ first.toNat < 0xE0)
      ∨ (wanted = 2 ∧ 0xE0 ≤ first.toNat ∧ first.toNat < 0xF0)
      ∨ (wanted = 3 ∧ 0xF0 ≤ first.toNat ∧ first.toNat < 0xF5) := by
  unfold following? at begins
  split_ifs at begins <;> simp only [Option.some.injEq] at begins <;> omega

/-- What the first two bytes of a character say of each other. -/
theorem isSecond_bounds
    {first second : UInt8}
    (follows : isSecond first second = true) :
    (0x80 ≤ second.toNat ∧ second.toNat < 0xC0)
      ∧ (first.toNat = 0xE0 → 0xA0 ≤ second.toNat)
      ∧ (first.toNat = 0xED → second.toNat < 0xA0)
      ∧ (first.toNat = 0xF0 → 0x90 ≤ second.toNat)
      ∧ (first.toNat = 0xF4 → second.toNat < 0x90) := by
  have same (value : UInt8) : first = value ↔ first.toNat = value.toNat := UInt8.toNat_inj.symm
  simp only [isSecond, secondRange, Bool.and_eq_true, decide_eq_true_eq, same] at follows
  split_ifs at follows <;> simp_all <;> omega

private theorem ofNat_eq
    {byte : UInt8}
    {value : Nat}
    (same : value = byte.toNat) :
    UInt8.ofNat value = byte := by
  rw [same, UInt8.ofNat_toNat]

/-- The value of a character with a valid code point. -/
private theorem val_ofNat
    {code : Nat}
    (valid : code.isValidChar) :
    (Char.ofNat code).val.toNat = code := by
  unfold Char.ofNat
  rw [dif_pos valid]
  rfl

/-- A byte below 128 is a character. -/
private theorem encodeChar_one
    {first : UInt8}
    (small : first.toNat < 0x80) :
    ∃ c, String.utf8EncodeChar c = [first] := by
  have valid : first.toNat.isValidChar := by
    simp only [Nat.isValidChar]
    omega
  refine ⟨Char.ofNat first.toNat, ?_⟩
  simp only [String.utf8EncodeChar, val_ofNat valid]
  rw [if_pos (by omega), UInt8.ofNat_toNat]

/-- Two bytes that go on with each other are a character. -/
private theorem encodeChar_two
    {first second : UInt8}
    (begins : 0xC2 ≤ first.toNat ∧ first.toNat < 0xE0)
    (follows : isSecond first second = true) :
    ∃ c, String.utf8EncodeChar c = [first, second] := by
  have second? := isSecond_bounds follows
  let code := (first.toNat - 0xC0) * 0x40 + (second.toNat - 0x80)
  have valid : code.isValidChar := by
    simp only [Nat.isValidChar, code]
    omega
  refine ⟨Char.ofNat code, ?_⟩
  simp only [String.utf8EncodeChar, val_ofNat valid]
  rw [if_neg (by omega), if_pos (by omega)]
  simp only [List.cons.injEq, and_true]
  exact ⟨ofNat_eq (by omega), ofNat_eq (by omega)⟩

/-- Three bytes that go on with each other are a character, which is no surrogate. -/
private theorem encodeChar_three
    {first second third : UInt8}
    (begins : 0xE0 ≤ first.toNat ∧ first.toNat < 0xF0)
    (follows : isSecond first second = true)
    (goesOn : isContinuation third = true) :
    ∃ c, String.utf8EncodeChar c = [first, second, third] := by
  have second? := isSecond_bounds follows
  have third? := isContinuation_iff.mp goesOn
  let code := ((first.toNat - 0xE0) * 0x40 + (second.toNat - 0x80)) * 0x40 + (third.toNat - 0x80)
  have valid : code.isValidChar := by
    simp only [Nat.isValidChar, code]
    omega
  refine ⟨Char.ofNat code, ?_⟩
  simp only [String.utf8EncodeChar, val_ofNat valid]
  rw [if_neg (by omega), if_neg (by omega), if_pos (by omega)]
  simp only [List.cons.injEq, and_true]
  exact ⟨ofNat_eq (by omega), ofNat_eq (by omega), ofNat_eq (by omega)⟩

/-- Four bytes that go on with each other are a character, which is not beyond the last one. -/
private theorem encodeChar_four
    {first second third fourth : UInt8}
    (begins : 0xF0 ≤ first.toNat ∧ first.toNat < 0xF5)
    (follows : isSecond first second = true)
    (thirdGoesOn : isContinuation third = true)
    (fourthGoesOn : isContinuation fourth = true) :
    ∃ c, String.utf8EncodeChar c = [first, second, third, fourth] := by
  have second? := isSecond_bounds follows
  have third? := isContinuation_iff.mp thirdGoesOn
  have fourth? := isContinuation_iff.mp fourthGoesOn
  let code :=
    (((first.toNat - 0xF0) * 0x40 + (second.toNat - 0x80)) * 0x40 + (third.toNat - 0x80)) * 0x40
      + (fourth.toNat - 0x80)
  have valid : code.isValidChar := by
    simp only [Nat.isValidChar, code]
    omega
  refine ⟨Char.ofNat code, ?_⟩
  simp only [String.utf8EncodeChar, val_ofNat valid]
  rw [if_neg (by omega), if_neg (by omega), if_neg (by omega)]
  simp only [List.cons.injEq, and_true]
  exact ⟨ofNat_eq (by omega), ofNat_eq (by omega), ofNat_eq (by omega), ofNat_eq (by omega)⟩

/-- Bytes that go on as their first one asks for are those of a character. -/
theorem exists_encodeChar
    {first : UInt8}
    {tail : Bytes}
    (begins : following? first = some tail.length)
    (complete : goingOn first tail = tail.length) :
    ∃ c, String.utf8EncodeChar c = first :: tail := by
  have bounds := following?_bounds begins
  match tail, bounds, complete with
  | [], bounds, _ =>
      simp only [List.length_nil] at bounds
      exact encodeChar_one (by omega)
  | [second], bounds, complete =>
      simp only [List.length_cons, List.length_nil] at bounds
      obtain ⟨follows, -⟩ := goingOn_eq_length_iff.mp complete
      exact encodeChar_two (by omega) follows
  | [second, third], bounds, complete =>
      simp only [List.length_cons, List.length_nil] at bounds
      obtain ⟨follows, later⟩ := goingOn_eq_length_iff.mp complete
      exact encodeChar_three (by omega) follows (later third (by simp))
  | [second, third, fourth], bounds, complete =>
      simp only [List.length_cons, List.length_nil] at bounds
      obtain ⟨follows, later⟩ := goingOn_eq_length_iff.mp complete
      exact encodeChar_four (by omega) follows (later third (by simp)) (later fourth (by simp))
  | _ :: _ :: _ :: _ :: _, bounds, _ =>
      simp only [List.length_cons] at bounds
      omega

/-- Bytes that are skipped only move the place of a fault. -/
theorem faultFrom_append
    (place : Nat)
    (skipped rest : Bytes) :
    faultFrom skipped.length place (skipped ++ rest) =
      faultFrom 0 (place + skipped.length) rest := by
  induction skipped generalizing place with
  | nil =>
      rfl
  | cons byte skipped inductionHypothesis =>
      rw [List.length_cons, List.cons_append, faultFrom, inductionHypothesis]
      congr 1
      omega

/-- The bytes are a text up to the fault, and from there on stand those that it counts. -/
structure Utf8Fault.Blames
    (fault : Utf8Fault)
    (place : Nat)
    (bytes : Bytes) :
    Prop where
  split :
    ∃ before bad behind,
      bytes = encodeUtf8 before ++ (bad ++ behind)
        ∧ fault.place = place + (encodeUtf8 before).length
        ∧ fault.count = bad.length
        ∧ bad.head? = some fault.first

/-- A character in front of the bytes moves what a fault blames behind it. -/
theorem Utf8Fault.Blames.behind
    {fault : Utf8Fault}
    {place : Nat}
    {bytes : Bytes}
    {c : Char}
    (blames : fault.Blames (place + (String.utf8EncodeChar c).length) bytes) :
    fault.Blames place (String.utf8EncodeChar c ++ bytes) := by
  obtain ⟨before, bad, behind, shape, placed, count, head⟩ := blames.split
  refine ⟨c :: before, bad, behind, ?_, ?_, count, head⟩
  · rw [shape, encodeUtf8_cons, List.append_assoc]
  · rw [placed, encodeUtf8_cons, List.length_append, Nat.add_assoc]

/-- A complete character in front of the bytes is passed. -/
theorem faultFrom_of_complete
    (place : Nat)
    {first : UInt8}
    {rest : Bytes}
    {wanted : Nat}
    (begins : following? first = some wanted)
    (complete : goingOn first (rest.take wanted) = wanted) :
    ∃ c,
      first :: rest = String.utf8EncodeChar c ++ rest.drop wanted ∧
        faultFrom 0 place (first :: rest) =
          faultFrom 0 (place + (String.utf8EncodeChar c).length) (rest.drop wanted) := by
  have whole : (rest.take wanted).length = wanted := by
    have size := goingOn_le first (rest.take wanted)
    rw [List.length_take] at size ⊢
    omega
  obtain ⟨c, isChar⟩ := exists_encodeChar (whole.symm ▸ begins) (complete.trans whole.symm)
  refine ⟨c, ?_, ?_⟩
  · rw [isChar, List.cons_append, List.take_append_drop]
  · have skips := faultFrom_append (place + 1) (rest.take wanted) (rest.drop wanted)
    rw [whole, List.take_append_drop] at skips
    rw [faultFrom, begins]
    dsimp only
    rw [if_pos complete, skips, isChar, List.length_cons, whole]
    congr 1
    omega

/-- Where bytes cannot be decoded, the fault that is told is one of bytes among them, and what stands
before these is a text. -/
theorem faultFrom_blames
    (place : Nat)
    (bytes : Bytes)
    (undecodable : decodeUtf8? bytes = none) :
    (faultFrom 0 place bytes).Blames place bytes := by
  match bytes with
  | [] =>
      exact absurd undecodable (by simp [decodeUtf8?, decodeUtf8With?])
  | first :: rest =>
      cases begins : following? first with
      | none =>
          rw [faultFrom, begins]
          exact ⟨[], [first], rest, rfl, rfl, rfl, rfl⟩
      | some wanted =>
          by_cases complete : goingOn first (rest.take wanted) = wanted
          · obtain ⟨c, parts, passed⟩ := faultFrom_of_complete place begins complete
            have later : decodeUtf8? (rest.drop wanted) = none := by
              rw [decodeUtf8?, parts, decodeUtf8With?_encodeChar_append] at undecodable
              exact Option.map_eq_none_iff.mp undecodable
            rw [passed, parts]
            exact (faultFrom_blames _ (rest.drop wanted) later).behind
          · have size := goingOn_le first (rest.take wanted)
            rw [List.length_take] at size
            rw [faultFrom, begins]
            dsimp only
            rw [if_neg complete]
            refine ⟨[], first :: rest.take (goingOn first (rest.take wanted)),
              rest.drop (goingOn first (rest.take wanted)), ?_, rfl, ?_, rfl⟩
            · rw [List.cons_append, List.take_append_drop]
              rfl
            · rw [List.length_cons, List.length_take]
              dsimp only
              omega
termination_by bytes.length
decreasing_by
  rw [List.length_drop, List.length_cons]
  omega

/-- The same from the first byte on. -/
theorem utf8Fault_blames
    {bytes : Bytes}
    (undecodable : decodeUtf8? bytes = none) :
    (utf8Fault bytes).Blames 0 bytes :=
  faultFrom_blames 0 bytes undecodable

end SceneEditor.Text
