import Mathlib.Data.List.TakeDrop
import SceneEditor.Json.Encoding
import SceneEditor.Proofs.Attempt
import SceneEditor.Proofs.Number.Numeral

namespace SceneEditor

/-!
# Integers that were read can be told

An integer with too many digits can be neither read nor written.  So every integer of a document
that could be read can be written again: in a summary, in a note, or in the text of a command.
-/

/-- An integer that is written with no more digits than are allowed. -/
def Num.IsTellable : Num → Prop
  | .int value => value.natAbs < 10 ^ NumberError.digitLimit
  | .real _ => True

namespace Json

/-- All integers in a value can be told. -/
inductive IsTellable : Json → Prop
  | null : IsTellable null
  | bool (value : Bool) : IsTellable (bool value)
  | number {value : Num} (tellable : value.IsTellable) : IsTellable (number value)
  | string (value : String) : IsTellable (string value)
  | array {items : List Json} (tellable : ∀ item ∈ items, IsTellable item) :
      IsTellable (array items)
  | object {fields : List (String × Json)} (tellable : ∀ field ∈ fields, IsTellable field.2) :
      IsTellable (object fields)

/-!
## Numerals
-/

theorem isDigit_of_spanDigits
    {text digits rest : List Char}
    (spanned : spanDigits text = (digits, rest)) :
    ∀ c ∈ digits, c.isDigit = true := by
  rw [spanDigits, List.span_eq_takeWhile_dropWhile] at spanned
  have taken : text.takeWhile Char.isDigit = digits := congrArg Prod.fst spanned
  rw [← taken]
  exact List.all_eq_true.mp List.all_takeWhile

/-- The whole part of a numeral is made of digits. -/
theorem isDigit_of_wholePart?
    {text whole rest : List Char}
    (taken : wholePart? text = some (whole, rest)) :
    ∀ c ∈ whole, c.isDigit = true := by
  unfold wholePart? at taken
  split at taken
  · obtain ⟨rfl, -⟩ := Prod.mk.inj (Option.some.inj taken)
    simp
  · split at taken
    · exact absurd taken (by simp)
    · next spanned =>
        obtain ⟨rfl, -⟩ := Prod.mk.inj (Option.some.inj taken)
        exact isDigit_of_spanDigits spanned

/-- A run of digits that is not too long writes an integer that can be told. -/
theorem natAbs_valueOf_lt
    {digits : List Char}
    (areDigits : ∀ c ∈ digits, c.isDigit = true)
    (fits : digits.length ≤ NumberError.digitLimit) :
    Numeral.valueOf (digits.map fun d => d.toNat - '0'.toNat) < 10 ^ NumberError.digitLimit := by
  have small : ∀ digit ∈ digits.map fun d => d.toNat - '0'.toNat, digit < 10 := by
    intro digit member
    obtain ⟨c, inDigits, rfl⟩ := List.mem_map.mp member
    have bounds := Char.isDigit_iff_toNat.mp (areDigits c inDigits)
    have last : '9'.toNat = '0'.toNat + 9 := rfl
    omega
  have bounded := Numeral.valueOf_lt small
  rw [List.length_map] at bounded
  exact Nat.lt_of_lt_of_le bounded (Nat.pow_le_pow_right (by decide) fits)

/-- A sign does not touch the magnitude. -/
theorem natAbs_signed
    (negative : Bool)
    (magnitude : Nat) :
    (if negative then -(magnitude : Int) else magnitude).natAbs = magnitude := by
  cases negative <;> simp

/-- A numeral that was read can be told. -/
theorem IsTellable.of_readNumber
    {text rest : List Char}
    {value : Json}
    (read : readNumber text = .ok (value, rest)) :
    value.IsTellable := by
  unfold readNumber at read
  dsimp only at read
  split at read
  · exact absurd read (by simp)
  · next taken =>
      split at read
      · split at read
        · exact absurd read (by simp)
        · next fits =>
            obtain ⟨rfl, -⟩ := Prod.mk.inj (Except.ok.inj read)
            have magnitude :=
              natAbs_valueOf_lt (isDigit_of_wholePart? taken) (Nat.le_of_not_lt fits)
            apply IsTellable.number
            simp only [Num.IsTellable, natAbs_signed]
            exact magnitude
      · obtain ⟨rfl, -⟩ := Prod.mk.inj (Except.ok.inj read)
        exact .number trivial

/-- A word stands for a document that can be told. -/
theorem IsTellable.of_readWord?
    {text rest : List Char}
    {value : Json}
    (read : readWord? text = some (value, rest)) :
    value.IsTellable := by
  obtain ⟨⟨word, held⟩, member, found⟩ := List.exists_of_findSome?_eq_some read
  obtain ⟨after, -, result⟩ := Option.map_eq_some_iff.mp found
  obtain ⟨rfl, -⟩ := Prod.mk.inj result
  simp only [words, List.mem_cons, Prod.mk.injEq, List.not_mem_nil, or_false] at member
  rcases member with ⟨-, rfl⟩ | ⟨-, rfl⟩ | ⟨-, rfl⟩ | ⟨-, rfl⟩ | ⟨-, rfl⟩ | ⟨-, rfl⟩
  · exact .null
  · exact .bool true
  · exact .bool false
  · exact .number trivial
  · exact .number trivial
  · exact .number trivial

/-!
## Lists and objects
-/

/-- A field that is set to what can be told leaves an object that can be told. -/
theorem IsTellable.setField
    {value : Json}
    {fields : List (String × Json)}
    (tellable : value.IsTellable)
    (known : ∀ field ∈ fields, field.2.IsTellable)
    (key : String) :
    ∀ field ∈ setField key value fields, field.2.IsTellable := by
  induction fields with
  | nil =>
      simpa [Json.setField] using tellable
  | cons first rest inductionHypothesis =>
      obtain ⟨name, old⟩ := first
      have restKnown : ∀ field ∈ rest, field.2.IsTellable :=
        fun field member => known field (List.mem_cons_of_mem _ member)
      unfold Json.setField
      split
      · intro field member
        rcases List.mem_cons.mp member with rfl | inRest
        · exact tellable
        · exact restKnown field inRest
      · intro field member
        rcases List.mem_cons.mp member with rfl | inRest
        · exact known (name, old) List.mem_cons_self
        · exact inductionHypothesis restKnown field inRest

/--
What the three readers read can be told.  The induction is on their common fuel, since they call
each other with less of it.
-/
theorem IsTellable.of_readers (fuel : Nat) :
    (∀ {depth : Nat} {text rest : List Char} {value : Json},
      readValue fuel depth text = .ok (value, rest) → value.IsTellable) ∧
    (∀ {depth : Nat} {items : List Json} {text rest : List Char} {value : Json},
      (∀ item ∈ items, item.IsTellable) →
        readItems fuel depth items text = .ok (value, rest) → value.IsTellable) ∧
    ∀ {depth : Nat} {fields : List (String × Json)} {text rest : List Char} {value : Json},
      (∀ field ∈ fields, field.2.IsTellable) →
        readFields fuel depth fields text = .ok (value, rest) → value.IsTellable := by
  induction fuel with
  | zero =>
      refine ⟨?_, ?_, ?_⟩
      · intro depth text rest value read
        simp [readValue] at read
      · intro depth items text rest value known read
        simp [readItems] at read
      · intro depth fields text rest value known read
        simp [readFields] at read
  | succ fuel inductionHypothesis =>
      obtain ⟨ofValue, ofItems, ofFields⟩ := inductionHypothesis
      refine ⟨?_, ?_, ?_⟩
      · intro depth text rest value read
        unfold readValue at read
        split at read
        · obtain ⟨⟨content, after⟩, -, result⟩ := Attempt.bind_eq_ok_iff.mp read
          obtain ⟨rfl, -⟩ := Prod.mk.inj (Except.ok.inj result)
          exact .string content
        · split at read
          · exact absurd read (by simp)
          · split at read
            · obtain ⟨rfl, -⟩ := Prod.mk.inj (Except.ok.inj read)
              exact .array (by simp)
            · exact ofItems (by simp) read
        · split at read
          · exact absurd read (by simp)
          · split at read
            · obtain ⟨rfl, -⟩ := Prod.mk.inj (Except.ok.inj read)
              exact .object (by simp)
            · exact ofFields (by simp) read
        · split at read
          · next found =>
              rw [Except.ok.injEq] at read
              exact .of_readWord? (found.trans (congrArg some read))
          · exact .of_readNumber read
      · intro depth items text rest value known read
        unfold readItems at read
        obtain ⟨⟨item, afterItem⟩, itemRead, result⟩ := Attempt.bind_eq_ok_iff.mp read
        have extended : ∀ other ∈ item :: items, other.IsTellable := by
          intro other member
          rcases List.mem_cons.mp member with rfl | inRead
          · exact ofValue itemRead
          · exact known other inRead
        dsimp only at result
        split at result
        · obtain ⟨rfl, -⟩ := Prod.mk.inj (Except.ok.inj result)
          exact .array fun other member => extended other (List.mem_reverse.mp member)
        · exact ofItems extended result
        · exact absurd result (by simp)
      · intro depth fields text rest value known read
        unfold readFields at read
        split at read
        · next lessFuel quotedKey sameFuel =>
            obtain rfl := Nat.succ.inj sameFuel
            obtain ⟨⟨key, afterKey⟩, -, keyed⟩ := Attempt.bind_eq_ok_iff.mp read
            dsimp only at keyed
            split at keyed
            · obtain ⟨⟨held, afterValue⟩, valueRead, result⟩ := Attempt.bind_eq_ok_iff.mp keyed
              have extended := (ofValue valueRead).setField known key
              dsimp only at result
              split at result
              · obtain ⟨rfl, -⟩ := Prod.mk.inj (Except.ok.inj result)
                exact .object extended
              · exact ofFields extended result
              · exact absurd result (by simp)
            · exact absurd keyed (by simp)
        · exact absurd read (by simp)

/-- A document that was read can be told. -/
theorem IsTellable.of_read
    {text : List Char}
    {value : Json}
    (document : read text = .ok value) :
    value.IsTellable := by
  obtain ⟨⟨held, rest⟩, valueRead, result⟩ := Attempt.bind_eq_ok_iff.mp document
  dsimp only at result
  split at result
  · obtain rfl := Except.ok.inj result
    exact (of_readers _).1 valueRead
  · exact absurd result (by simp)

end Json

/-- What a message holds can be told. -/
theorem Message.isTellable_of_json
    {message : Message}
    {value : Json}
    (held : message.json = .ok value) :
    value.IsTellable := by
  cases message with
  | text content =>
      unfold json at held
      dsimp only at held
      split at held
      · exact absurd held (by simp)
      · exact .of_read held
  | bytes content =>
      unfold json at held
      dsimp only at held
      split at held
      · exact .of_read held
      · exact absurd held (by simp)

end SceneEditor
