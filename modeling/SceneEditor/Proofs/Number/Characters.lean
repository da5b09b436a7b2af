import SceneEditor.Number.Num
import SceneEditor.Proofs.Text.Blank
import SceneEditor.Proofs.Text.Cut

namespace SceneEditor

/-!
# The characters of number texts

Numbers are written with digits, a point, signs, the letter of an exponent and the letters of the
words for what is no finite number, whatever their kind and however many places they have.  No two
integers are written alike.
-/

/-- The characters that numbers are written with. -/
def numberCharacters : List Char :=
  "0123456789.+-einfa".toList

theorem mem_numberCharacters_of_isDigit
    {c : Char}
    (digit : c.isDigit = true) :
    c ∈ numberCharacters :=
  Text.of_isDigit (· ∈ numberCharacters) (by decide) digit

/-- An integer is written with its sign and its decimal digits. -/
theorem toList_toString_int (whole : Int) :
    (toString whole).toList =
      (if whole < 0 then ['-'] else []) ++ Nat.toDigits 10 whole.natAbs := by
  cases whole with
  | ofNat magnitude =>
      simp [toString, Int.repr]
  | negSucc less =>
      simp [toString, Int.repr]

/-- The text is written with characters of numbers only. -/
def IsNumberText (text : List Char) : Prop :=
  ∀ c ∈ text, c ∈ numberCharacters

namespace IsNumberText

theorem nil : IsNumberText [] :=
  List.forall_mem_nil _

theorem cons
    {c : Char}
    {text : List Char}
    (mark : c ∈ numberCharacters)
    (rest : IsNumberText text) :
    IsNumberText (c :: text) :=
  List.forall_mem_cons.mpr ⟨mark, rest⟩

/-- Two number texts make one. -/
theorem append
    {first second : List Char}
    (isFirst : IsNumberText first)
    (isSecond : IsNumberText second) :
    IsNumberText (first ++ second) :=
  List.forall_mem_append.mpr ⟨isFirst, isSecond⟩

/-- A part of a number text is one. -/
theorem sublist
    {part text : List Char}
    (isText : IsNumberText text)
    (isPart : part.Sublist text) :
    IsNumberText part :=
  fun c member => isText c (isPart.subset member)

/-- The digits of a natural number are a number text. -/
theorem toDigits (number : Nat) : IsNumberText (Nat.toDigits 10 number) :=
  fun _ member =>
    mem_numberCharacters_of_isDigit (Nat.isDigit_of_mem_toDigits (by decide) (by decide) member)

theorem zeros (count : Nat) : IsNumberText (List.replicate count '0') := by
  intro c member
  rw [(List.mem_replicate.mp member).2]
  decide

/-- The mark of a negative number is one of these characters. -/
theorem signed
    {text : List Char}
    (isText : IsNumberText text)
    (negative : Bool) :
    IsNumberText (if negative then '-' :: text else text) := by
  split
  · exact cons (by decide) isText
  · exact isText

/-- Any other character is missing from a number text. -/
theorem notMem
    {text : List Char}
    (isText : IsNumberText text)
    {c : Char}
    (other : c ∉ numberCharacters) :
    c ∉ text :=
  fun member => other (isText c member)

/-- An integer is written as a number text. -/
theorem int (value : Int) : IsNumberText (toString value).toList := by
  rw [toList_toString_int]
  refine append ?_ (toDigits value.natAbs)
  split
  · exact cons (by decide) nil
  · exact nil

end IsNumberText

/-!
## Integers
-/

/-- The digits tell the natural number. -/
theorem toDigits_injective : Function.Injective (Nat.toDigits 10) := by
  intro first second same
  have read := congrArg (Nat.ofDigitChars 10 · 0) same
  simpa using read

/-- The text tells the integer. -/
theorem toString_int_injective : Function.Injective fun value : Int => toString value := by
  have unsigned (magnitude : Nat) : '-' ∉ Nat.toDigits 10 magnitude := fun member =>
    absurd (Nat.isDigit_of_mem_toDigits (by decide) (by decide) member) (by decide)
  intro first second same
  replace same := congrArg String.toList same
  rw [toList_toString_int, toList_toString_int] at same
  by_cases negative : first < 0
  · by_cases otherNegative : second < 0
    · rw [if_pos negative, if_pos otherNegative] at same
      have sameDigits := toDigits_injective (List.cons.inj same).2
      omega
    · rw [if_pos negative, if_neg otherNegative, List.nil_append] at same
      exact absurd (same ▸ List.mem_cons_self) (unsigned second.natAbs)
  · by_cases otherNegative : second < 0
    · rw [if_neg negative, if_pos otherNegative, List.nil_append] at same
      exact absurd (same ▸ List.mem_cons_self) (unsigned first.natAbs)
    · rw [if_neg negative, if_neg otherNegative] at same
      have sameDigits := toDigits_injective same
      omega

/-!
## Decimals
-/

namespace Decimal

theorem isNumberText_digits (decimal : Decimal) : IsNumberText decimal.digits := by
  have kept :
      IsNumberText ((Nat.toDigits 10 decimal.coefficient).reverse.dropWhile (· = '0')).reverse := by
    intro c member
    rw [List.mem_reverse] at member
    exact IsNumberText.toDigits _ c (List.mem_reverse.mp ((List.dropWhile_sublist _).subset member))
  rw [digits]
  split
  · exact .cons (by decide) .nil
  · exact kept

theorem isNumberText_exponentMark (exponent : Int) : IsNumberText (exponentMark exponent) := by
  refine .cons (by decide) (.cons ?_ (.append (.zeros _) (.toDigits _)))
  split
  · decide
  · decide

section

variable {digits : List Char}

theorem isNumberText_positional
    (areDigits : IsNumberText digits)
    {layout : Layout}
    (isMark : IsNumberText layout.wholeMark)
    (point : Int) :
    IsNumberText (positional layout digits point) := by
  rw [positional]
  split
  · exact .cons (by decide) (.cons (by decide) (.append (.zeros _) areDigits))
  · split
    · exact .append (.append areDigits (.zeros _)) isMark
    · exact .append (areDigits.sublist (List.take_sublist _ _))
        (.cons (by decide) (areDigits.sublist (List.drop_sublist _ _)))

theorem isNumberText_scientific
    (areDigits : IsNumberText digits)
    (point : Int) :
    IsNumberText (scientific digits point) := by
  have mark := isNumberText_exponentMark (point - 1)
  rw [scientific.eq_def]
  split
  · exact .nil
  · exact .append areDigits mark
  · next digit rest _ =>
    obtain ⟨isDigit, areRest⟩ := List.forall_mem_cons.mp areDigits
    exact .cons isDigit (.cons (by decide) (.append areRest mark))

end

/-- A decimal is written as a number text in any layout. -/
theorem isNumberText_render
    {layout : Layout}
    (isMark : IsNumberText layout.wholeMark)
    (decimal : Decimal) :
    IsNumberText (decimal.render layout) := by
  have areDigits := decimal.isNumberText_digits
  rw [render]
  split
  · exact isNumberText_positional areDigits isMark decimal.point
  · exact isNumberText_scientific areDigits decimal.point

end Decimal

namespace Binary64

theorem isNumberText_textWith
    {magnitude : Fin finiteCount → List Char}
    (isText : ∀ rank, IsNumberText (magnitude rank))
    (value : Binary64) :
    IsNumberText (value.textWith magnitude).toList := by
  cases value with
  | nan =>
      rw [textWith]
      exact Text.forall_of_all (by decide)
  | infinity negative =>
      rw [textWith, String.toList_ofList]
      exact .signed (Text.forall_of_all (by decide)) negative
  | finite negative rank =>
      rw [textWith, String.toList_ofList]
      exact .signed (isText rank) negative

/-- A real number is written as a number text. -/
theorem isNumberText_text (value : Binary64) : IsNumberText value.text.toList :=
  isNumberText_textWith
    (fun rank => Decimal.isNumberText_render (Text.forall_of_all (by decide)) (shortest rank)) value

theorem isNumberText_placed
    (places hundredths : Nat) :
    IsNumberText (placed places hundredths) := by
  have padded :
      IsNumberText
        (List.replicate (places + 1 - (Nat.toDigits 10 hundredths).length) '0' ++
          Nat.toDigits 10 hundredths) :=
    .append (.zeros _) (.toDigits hundredths)
  exact .append (padded.sublist (List.take_sublist _ _))
    (.cons (by decide) (padded.sublist (List.drop_sublist _ _)))

/-- With a fixed number of digits a real number is a number text too. -/
theorem isNumberText_fixedText
    (places : Nat)
    (value : Binary64) :
    IsNumberText (value.fixedText places).toList :=
  isNumberText_textWith (fun _ => isNumberText_placed places _) value

end Binary64

/-- A number is sent as a number text. -/
theorem Num.isNumberText_wireText (value : Num) : IsNumberText value.wireText.toList := by
  cases value with
  | int value =>
      exact .int value
  | real value =>
      rw [wireText]
      split
      · next whole _ =>
        exact .int whole
      · exact value.isNumberText_text

end SceneEditor
