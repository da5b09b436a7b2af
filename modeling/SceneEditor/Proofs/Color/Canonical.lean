import SceneEditor.Color.Basic
import SceneEditor.Proofs.Text.OtherCase

namespace SceneEditor.Color

/-!
# One form of every color

Normalization looks at nothing but the core of a color: what is left of it when it is trimmed and put
in small letters.  Its results are such cores themselves, with three digits doubled and a name
replaced, so it leaves its own results alone.
-/

/-- A hexadecimal digit, small or capital. -/
def IsHexDigit (c : Char) : Prop :=
  c.isDigit = true ∨ ('a' ≤ c ∧ c ≤ 'f') ∨ ('A' ≤ c ∧ c ≤ 'F')

/-- The color is written with three or six hexadecimal digits, whatever blanks stand around it. -/
def IsHex (color : String) : Prop :=
  ∃ digits,
    Text.trim color.toList = '#' :: digits ∧
      (digits.length = 3 ∨ digits.length = 6) ∧ ∀ digit ∈ digits, IsHexDigit digit

/-- The color is written by a name of the table, in any case and whatever blanks stand around it. -/
def IsNamed (color : String) : Prop :=
  ∃ value, (lowered (trimmed color), value) ∈ names

/-- What normalization looks at. -/
def core (color : String) : List Char :=
  Text.lower (Text.trim color.toList)

/-- The text is the core of a color. -/
structure IsCore (text : List Char) : Prop where
  isTrimmed : Text.IsTrimmed text
  isSmall : ∀ c ∈ text, Text.IsSmall c

/-- The color of a core. -/
def ofCore : List Char → String
  | [] => white
  | '#' :: digits => String.ofList ('#' :: widen digits)
  | text =>
      ((names.find? fun (known, _) => known == String.ofList text).map Prod.snd).getD
        (String.ofList text)

/-- The core of a color is what is left of it without blanks and capitals. -/
theorem lowered_trimmed (color : String) :
    lowered (trimmed color) = String.ofList (core color) := by
  rw [lowered, trimmed, String.toList_ofList, core]

theorem isCore_core (color : String) :
    IsCore (core color) where
  isTrimmed := (Text.isTrimmed_trim color.toList).lower
  isSmall := fun _ => Text.isSmall_of_mem_lower

/-- A core is its own core. -/
theorem IsCore.core_eq
    {text : List Char}
    (isCore : IsCore text) :
    core (String.ofList text) = text := by
  rw [core, String.toList_ofList, isCore.isTrimmed.trim_eq, Text.lower_of_isSmall isCore.isSmall]

/-- The core is empty for a color of blanks only. -/
theorem core_eq_nil_iff (color : String) :
    core color = [] ↔ isBlankText color = true := by
  constructor
  · intro nothing
    have dropped : Text.trim color.toList = [] := by
      by_contra filled
      exact Text.lower_ne_nil filled nothing
    rw [isBlankText, List.all_eq_true]
    intro c member
    by_contra visible
    have kept := Text.mem_trim_of_mem (Bool.eq_false_iff.mpr visible) member
    rw [dropped] at kept
    exact absurd kept List.not_mem_nil
  · intro blank
    rw [core, Text.trim_of_all blank]
    rfl

/-- Normalization depends on the core alone. -/
theorem normalize_eq_ofCore (color : String) :
    normalize color = ofCore (core color) := by
  rw [normalize]
  split
  · next blank =>
    rw [(core_eq_nil_iff color).mpr blank]
    rfl
  · next filled =>
    have notNothing : core color ≠ [] :=
      fun nothing => filled ((core_eq_nil_iff color).mp nothing)
    have coreAgain : lowered (trimmed (String.ofList (core color))) = String.ofList (core color) := by
      rw [lowered_trimmed, (isCore_core color).core_eq]
    rw [lowered_trimmed]
    dsimp only
    rw [String.toList_ofList, named?, coreAgain]
    split
    · next digits shape =>
      rw [shape]
      rfl
    · next other =>
      rw [ofCore]
      · exact notNothing
      · exact other

/-- Only the core of a color counts. -/
theorem normalize_of_core_eq
    {first second : String}
    (same : core first = core second) :
    normalize first = normalize second := by
  rw [normalize_eq_ofCore, normalize_eq_ofCore, same]

/-- A core is its own core. -/
theorem IsCore.normalize_eq
    {text : List Char}
    (isCore : IsCore text) :
    normalize (String.ofList text) = ofCore text := by
  rw [normalize_eq_ofCore, isCore.core_eq]

/-- A text of small ASCII characters without blanks is the core of a color. -/
theorem isCore_of_ascii
    {text : List Char}
    (plain : ∀ c ∈ text, c.toNat < 0x80 ∧ c.toLower = c ∧ Text.isBlank c = false) :
    IsCore text := by
  refine ⟨⟨fun c first => ?_, fun c last => ?_⟩, fun c member => ?_⟩
  · exact (plain c (List.mem_of_mem_head? first)).2.2
  · exact (plain c (List.mem_of_getLast? last)).2.2
  · obtain ⟨ascii, small, -⟩ := plain c member
    have undotted : c ≠ 'İ' := by
      rintro rfl
      exact absurd ascii (by decide)
    have same : Text.smallLetter c = c := by
      rw [Text.smallLetter, if_pos ascii, small]
    exact same ▸ Text.isSmall_smallLetter undotted

/-!
## Digits
-/

instance : DecidablePred IsHexDigit := fun _ =>
  inferInstanceAs (Decidable (_ ∨ _))

theorem IsHexDigit.ascii
    {c : Char}
    (isHexDigit : IsHexDigit c) :
    c.toNat < 0x80 := by
  rcases isHexDigit with digit | ⟨-, last⟩ | ⟨-, last⟩
  · exact Nat.lt_of_le_of_lt (Char.isDigit_iff_toNat.mp digit).2 (by decide)
  · exact Nat.lt_of_le_of_lt last (by decide)
  · exact Nat.lt_of_le_of_lt last (by decide)

/-- A character is a digit exactly if its small form is a small one. -/
theorem isHexDigit_iff
    {c : Char}
    (ascii : c.toNat < 0x80) :
    IsHexDigit c ↔ isSmallHex c.toLower = true :=
  Text.of_ascii (fun c => IsHexDigit c ↔ isSmallHex c.toLower = true) (by decide) ascii

/-- A small hexadecimal digit is a plain character that is no blank and has no other case. -/
theorem plain_of_isSmallHex
    {c : Char}
    (digit : isSmallHex c = true) :
    c.toNat ≤ 0x66 ∧ c.toLower = c ∧ Text.isBlank c = false := by
  have last : c.toNat ≤ 0x66 := by
    rw [isSmallHex, Bool.or_eq_true, Bool.and_eq_true, decide_eq_true_eq, decide_eq_true_eq] at digit
    rcases digit with digit | ⟨-, last⟩
    · exact Nat.le_trans (Char.isDigit_iff_toNat.mp digit).2 (by decide)
    · exact last
  have plain :=
    Text.of_ascii (fun c => isSmallHex c = true → c.toLower = c ∧ Text.isBlank c = false)
      (by decide) (Nat.lt_of_le_of_lt last (by decide))
  exact ⟨last, plain digit⟩

/-- Small digits behind a number sign are the core of a color. -/
theorem isCore_of_smallHex
    {digits : List Char}
    (areDigits : ∀ digit ∈ digits, isSmallHex digit = true) :
    IsCore ('#' :: digits) := by
  refine isCore_of_ascii (List.forall_mem_cons.mpr ⟨by decide, fun c member => ?_⟩)
  obtain ⟨last, plain⟩ := plain_of_isSmallHex (areDigits c member)
  exact ⟨Nat.lt_of_le_of_lt last (by decide), plain⟩

theorem widen_of_length_ne
    {digits : List Char}
    (notThree : digits.length ≠ 3) :
    widen digits = digits := by
  simp [widen, notThree]

/-- Three digits are doubled, and any other text is left as it is. -/
theorem widen_cases (digits : List Char) :
    widen digits = digits ∨
      digits.length = 3 ∧ (∀ digit ∈ digits, isSmallHex digit = true) ∧
        (widen digits).length = 6 ∧ ∀ digit ∈ widen digits, isSmallHex digit = true := by
  rw [widen]
  split
  · next short =>
    rw [Bool.and_eq_true, decide_eq_true_eq, List.all_eq_true] at short
    obtain ⟨three, areDigits⟩ := short
    refine Or.inr ⟨three, areDigits, ?_, ?_⟩
    · simp [List.length_flatMap, three]
    · intro digit member
      obtain ⟨source, inDigits, written⟩ := List.mem_flatMap.mp member
      have same : digit = source := by simpa using written
      exact same ▸ areDigits source inDigits
  · exact Or.inl rfl

/-- Widening twice is widening once. -/
theorem widen_widen (digits : List Char) :
    widen (widen digits) = widen digits := by
  rcases widen_cases digits with same | ⟨-, -, six, -⟩
  · rw [same, same]
  · exact widen_of_length_ne (by omega)

/-- What digits of either case are put into. -/
theorem core_hex
    {digits : List Char}
    (areDigits : ∀ digit ∈ digits, IsHexDigit digit) :
    core (String.ofList ('#' :: digits)) = '#' :: digits.map Char.toLower := by
  have visible : ∀ digit ∈ digits, Text.isBlank digit = false := by
    intro digit member
    have isHexDigit := areDigits digit member
    rw [← Text.isBlank_toLower]
    exact (plain_of_isSmallHex ((isHexDigit_iff isHexDigit.ascii).mp isHexDigit)).2.2
  have all : ∀ c ∈ '#' :: digits, Text.isBlank c = false :=
    List.forall_mem_cons.mpr ⟨by decide, visible⟩
  have isTrimmed : Text.IsTrimmed ('#' :: digits) :=
    ⟨fun c first => all c (List.mem_of_mem_head? first),
      fun c last => all c (List.mem_of_getLast? last)⟩
  have ascii : ∀ c ∈ '#' :: digits, c.toNat < 0x80 :=
    List.forall_mem_cons.mpr ⟨by decide, fun digit member => (areDigits digit member).ascii⟩
  rw [core, String.toList_ofList, isTrimmed.trim_eq, Text.lower_of_ascii ascii]
  rfl

/-- Hexadecimal digits behind a `#` become small ones, six where there were three. -/
theorem normalize_hex
    {digits : List Char}
    (areDigits : ∀ digit ∈ digits, IsHexDigit digit) :
    normalize (String.ofList ('#' :: digits)) =
      String.ofList ('#' :: widen (digits.map Char.toLower)) := by
  rw [normalize_eq_ofCore, core_hex areDigits]
  rfl

/-- A color whose core is made of three small digits was written with three digits. -/
theorem isHex_of_core
    {color : String}
    {digits : List Char}
    (shape : core color = '#' :: digits)
    (three : digits.length = 3)
    (areDigits : ∀ digit ∈ digits, isSmallHex digit = true) :
    IsHex color := by
  have early : ∀ small ∈ core color, small.toNat ≤ 0x66 := by
    rw [shape]
    exact List.forall_mem_cons.mpr
      ⟨by decide, fun digit member => (plain_of_isSmallHex (areDigits digit member)).1⟩
  have ascii := Text.ascii_of_lower early
  rw [core, Text.lower_of_ascii ascii] at shape
  obtain ⟨mark, written, trimmed, isMark, same⟩ := List.map_eq_cons_iff.mp shape
  rw [trimmed] at ascii
  obtain ⟨markAscii, writtenAscii⟩ := List.forall_mem_cons.mp ascii
  have sign : mark.toLower = '#' → mark = '#' :=
    Text.of_ascii (fun c => c.toLower = '#' → c = '#') (by decide) markAscii
  refine ⟨written, by rw [trimmed, sign isMark], Or.inl ?_, fun digit member => ?_⟩
  · rw [← three, ← same, List.length_map]
  · refine (isHexDigit_iff (writtenAscii digit member)).mpr (areDigits _ ?_)
    rw [← same]
    exact List.mem_map_of_mem member

/-!
## Names
-/

/-- A word of small letters. -/
def isWord (text : List Char) : Bool :=
  !text.isEmpty && text.all fun c => Nat.ble 0x61 c.toNat && Nat.ble c.toNat 0x7A

/-- A number sign and six small digits. -/
def isFull : List Char → Bool
  | '#' :: digits => digits.length == 6 && digits.all isSmallHex
  | _ => false

/-- Each named color is a word of small letters with six digits as its value. -/
theorem names_wellFormed :
    (names.all fun (name, value) => isWord name.toList && isFull value.toList) = true := by
  decide +kernel

/-- The names stand in the order of the alphabet, so no two entries have one name. -/
theorem names_sorted : names.IsChain fun first second => first.1.toList < second.1.toList := by
  decide +kernel

/-- A word of small letters is a core. -/
theorem isCore_of_isWord
    {text : List Char}
    (word : isWord text = true) :
    IsCore text := by
  rw [isWord, Bool.and_eq_true, List.all_eq_true] at word
  refine isCore_of_ascii fun c member => ?_
  have bounds := word.2 c member
  rw [Bool.and_eq_true, Nat.ble_eq, Nat.ble_eq] at bounds
  have small :=
    Text.of_codes (fun c => c.toLower = c ∧ Text.isBlank c = false) (by decide) bounds.1
      (Nat.lt_succ_of_le bounds.2)
  exact ⟨Nat.lt_of_le_of_lt bounds.2 (by decide), small⟩

/-- A name is its own core and begins with no number sign, so it is looked up in the table. -/
theorem normalize_of_isWord
    {name : String}
    (word : isWord name.toList = true) :
    normalize name =
      ((names.find? fun (known, _) => known == name).map Prod.snd).getD name := by
  have normal := (isCore_of_isWord word).normalize_eq
  rw [String.ofList_toList] at normal
  rw [normal, ofCore, String.ofList_toList]
  · intro nothing
    rw [nothing] at word
    exact absurd word (by decide)
  · intro digits shape
    rw [shape] at word
    exact absurd word (by simp [isWord])

/-- A `#` with six small digits stays as it is. -/
theorem normalize_of_isFull
    {value : String}
    (full : isFull value.toList = true) :
    normalize value = value := by
  rw [isFull.eq_def] at full
  split at full
  · next digits shape =>
    rw [Bool.and_eq_true, beq_iff_eq, List.all_eq_true] at full
    have normal := (isCore_of_smallHex full.2).normalize_eq
    rw [← shape, String.ofList_toList, shape, ofCore, widen_of_length_ne (by omega), ← shape,
      String.ofList_toList] at normal
    exact normal
  · exact absurd full Bool.false_ne_true

/-- A name of the table is found with its own value. -/
theorem find?_names
    {name value : String}
    (entry : (name, value) ∈ names) :
    names.find? (fun (known, _) => known == name) = some (name, value) := by
  have transitive :
      Trans
        (fun first second : String × String => first.1.toList < second.1.toList)
        (fun first second : String × String => first.1.toList < second.1.toList)
        (fun first second : String × String => first.1.toList < second.1.toList) :=
    ⟨List.lt_trans⟩
  have sorted := List.isChain_iff_pairwise.mp names_sorted
  obtain ⟨before, behind, shape⟩ := List.append_of_mem entry
  rw [shape] at sorted ⊢
  refine List.find?_eq_some_iff_append.mpr ⟨beq_self_eq_true name, before, behind, rfl, ?_⟩
  rintro ⟨known, other⟩ member
  have earlier : known.toList < name.toList :=
    (List.pairwise_append.mp sorted).2.2 _ member _ List.mem_cons_self
  have different : known ≠ name := by
    rintro rfl
    exact List.lt_irrefl _ earlier
  simpa using different

/-- A named color becomes its value, which stays as it is. -/
theorem normalize_name
    {name value : String}
    (entry : (name, value) ∈ names) :
    normalize name = value ∧ normalize value = value := by
  have wellFormed := List.all_eq_true.mp names_wellFormed (name, value) entry
  rw [Bool.and_eq_true] at wellFormed
  rw [normalize_of_isWord wellFormed.1, find?_names entry]
  exact ⟨rfl, normalize_of_isFull wellFormed.2⟩

/-!
## Normalization
-/

/-- The color of a core is left alone. -/
theorem IsCore.normalize_ofCore
    {text : List Char}
    (isCore : IsCore text) :
    normalize (ofCore text) = ofCore text := by
  rw [ofCore.eq_def]
  split
  · decide +kernel
  · next digits =>
    rcases widen_cases digits with same | ⟨-, -, -, areDigits⟩
    · rw [same, isCore.normalize_eq, ofCore, same]
    · rw [(isCore_of_smallHex areDigits).normalize_eq, ofCore, widen_widen]
  · next notNothing noSign =>
    cases found : names.find? fun (known, _) => known == String.ofList text with
    | none =>
        rw [Option.map_none, Option.getD_none, isCore.normalize_eq, ofCore, found]
        · rfl
        · exact notNothing
        · exact noSign
    | some entry =>
        exact (normalize_name (List.mem_of_find?_eq_some found)).2

/-- The canonical form of a color is its own canonical form. -/
theorem normalize_normalize (color : String) :
    normalize (normalize color) = normalize color := by
  rw [normalize_eq_ofCore color]
  exact (isCore_core color).normalize_ofCore

/-- A color that is no color of the known kinds keeps its core. -/
theorem normalize_of_unknown
    {color : String}
    (filled : isBlankText color = false)
    (notHex : ¬ IsHex color)
    (notNamed : ¬ IsNamed color) :
    normalize color = lowered (trimmed color) := by
  rw [normalize_eq_ofCore, lowered_trimmed, ofCore.eq_def]
  split
  · next nothing =>
    rw [(core_eq_nil_iff color).mp nothing] at filled
    exact absurd filled (by decide)
  · next digits shape =>
    rcases widen_cases digits with same | ⟨three, areDigits, -⟩
    · rw [same, shape]
    · exact absurd (isHex_of_core shape three areDigits) notHex
  · rw [List.find?_eq_none.mpr]
    · rfl
    · intro entry member isKnown
      refine notNamed ⟨entry.2, ?_⟩
      rw [lowered_trimmed, ← beq_iff_eq.mp isKnown]
      exact member

/--
Normalization leaves its results alone and does not see blanks around a color or the case of ASCII
letters.  Three digits stand for these digits doubled, a name for its value in the table, which is in
normal form, and any other text that is not blank for itself, trimmed and in small letters.
-/
theorem normalize_isCanonical (color : String) :
    normalize (normalize color) = normalize color ∧
      (∀ lead tail : List Char,
        lead.all Text.isBlank = true → tail.all Text.isBlank = true →
          normalize (String.ofList (lead ++ (color.toList ++ tail))) = normalize color) ∧
      (∀ other : String,
        Text.AlikeInCase color.toList other.toList → normalize other = normalize color) ∧
      (∀ a b c : Char,
        IsHexDigit a → IsHexDigit b → IsHexDigit c →
          normalize (String.ofList ['#', a, b, c]) =
              String.ofList ['#', a.toLower, a.toLower, b.toLower, b.toLower, c.toLower, c.toLower] ∧
            normalize (String.ofList ['#', a, b, c]) =
              normalize (String.ofList ['#', a, a, b, b, c, c])) ∧
      (∀ name value : String,
        (name, value) ∈ names → normalize name = value ∧ normalize value = value) ∧
      (isBlankText color = false → ¬ IsHex color → ¬ IsNamed color →
        normalize color = lowered (trimmed color)) := by
  refine ⟨normalize_normalize color, ?_, ?_, ?_, fun name value => normalize_name,
    normalize_of_unknown⟩
  · intro lead tail isLead isTail
    refine normalize_of_core_eq ?_
    rw [core, core, String.toList_ofList, Text.trim_append isLead isTail]
  · intro other alike
    exact normalize_of_core_eq alike.lower_trim_eq.symm
  · intro a b c isA isB isC
    have short : ∀ digit ∈ [a, b, c], IsHexDigit digit := by
      simp [isA, isB, isC]
    have long : ∀ digit ∈ [a, a, b, b, c, c], IsHexDigit digit := by
      simp [isA, isB, isC]
    have areSmall : ∀ digit ∈ [a, b, c], isSmallHex digit.toLower = true :=
      fun digit member => (isHexDigit_iff (short digit member).ascii).mp (short digit member)
    have doubled :
        widen [a.toLower, b.toLower, c.toLower] =
          [a.toLower, a.toLower, b.toLower, b.toLower, c.toLower, c.toLower] := by
      simp [widen, areSmall]
    have full := normalize_hex long
    rw [widen_of_length_ne (by simp)] at full
    rw [normalize_hex short, full]
    simp only [List.map_cons, List.map_nil, doubled, and_self]

/-- A capital sigma at the end of a word stays final whatever the case of the letters before it. -/
theorem normalize_isCanonical_sigma :
    normalize " Ta\u03A3\n" = "ta\u03C2" ∧
      normalize "ta\u03C2" = "ta\u03C2" ∧
      normalize "\u00A0 Ta\u03A3\n\t" = "ta\u03C2" ∧
      normalize " tA\u03A3\n" = "ta\u03C2" ∧
      normalize "#Fa0" = normalize "#FFaa00" ∧
      normalize "aqua" = "#00ffff" := by
  obtain ⟨idempotent, blanks, letters, digits, known, unknown⟩ :=
    normalize_isCanonical " Ta\u03A3\n"
  have isTrimmed : Text.trim " Ta\u03A3\n".toList = ['T', 'a', '\u03A3'] := by decide
  have notHex : ¬ IsHex " Ta\u03A3\n" := by
    rintro ⟨digits, shape, -⟩
    rw [isTrimmed] at shape
    exact absurd (List.cons.inj shape).1 (by decide)
  have notNamed : ¬ IsNamed " Ta\u03A3\n" := by
    rintro ⟨value, entry⟩
    have wellFormed := List.all_eq_true.mp names_wellFormed _ entry
    rw [Bool.and_eq_true] at wellFormed
    exact absurd wellFormed.1 (by decide +kernel)
  have result : normalize " Ta\u03A3\n" = "ta\u03C2" := by
    rw [unknown (by decide) notHex notNamed]
    decide +kernel
  have alike : Text.AlikeInCase " Ta\u03A3\n".toList " tA\u03A3\n".toList := by
    rw [Text.AlikeInCase]
    decide
  have around := blanks ['\u00A0'] ['\t'] (by decide) (by decide)
  refine ⟨result, ?_, ?_, ?_, ?_, (known "aqua" "#00ffff" (by decide)).1⟩
  · rw [result] at idempotent
    exact idempotent
  · rw [result] at around
    exact around
  · rw [letters " tA\u03A3\n" alike, result]
  · exact (digits 'F' 'a' '0' (by decide) (by decide) (by decide)).2

end SceneEditor.Color
