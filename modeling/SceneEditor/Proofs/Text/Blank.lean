import Mathlib.Data.List.TakeWhile
import SceneEditor.Text.Characters

namespace SceneEditor.Text

/-!
# Trimmed texts

A text is trimmed if no blank stands at either of its ends.  Trimming makes a text such, and leaves
one alone that already is.
-/

/-- No blank stands at an end of the text. -/
structure IsTrimmed (text : List Char) : Prop where
  front : ∀ c, text.head? = some c → isBlank c = false
  back : ∀ c, text.getLast? = some c → isBlank c = false

/-- Nothing is dropped from a text that begins with what is kept. -/
theorem dropWhile_of_head
    {drop : Char → Bool}
    {text : List Char}
    (kept : ∀ c, text.head? = some c → drop c = false) :
    text.dropWhile drop = text := by
  cases text with
  | nil =>
      rfl
  | cons c text =>
      simp [kept c rfl]

/-- What is left begins with what is kept. -/
theorem head?_dropWhile
    {drop : Char → Bool}
    {text : List Char}
    {c : Char}
    (first : (text.dropWhile drop).head? = some c) :
    drop c = false := by
  have kept := List.head?_dropWhile_not drop text
  rw [first] at kept
  simpa using kept

/-- A text that is left ends as it did before. -/
theorem getLast?_dropWhile
    {drop : Char → Bool}
    {text : List Char}
    {c : Char}
    (last : (text.dropWhile drop).getLast? = some c) :
    text.getLast? = some c := by
  obtain ⟨dropped, shape⟩ := List.dropWhile_suffix (l := text) drop
  rw [← shape, List.getLast?_append, last]
  rfl

/-- Nothing is dropped from a text with nothing to drop at its ends. -/
theorem trimWhile_of_ends
    {drop : Char → Bool}
    {text : List Char}
    (front : ∀ c, text.head? = some c → drop c = false)
    (back : ∀ c, text.getLast? = some c → drop c = false) :
    trimWhile drop text = text := by
  have kept : text.reverse.dropWhile drop = text.reverse := by
    apply dropWhile_of_head
    intro c first
    rw [List.head?_reverse] at first
    exact back c first
  rw [trimWhile, dropWhile_of_head front, dropEndWhile, kept, List.reverse_reverse]

/-- A trimmed text is left alone. -/
theorem IsTrimmed.trim_eq
    {text : List Char}
    (trimmed : IsTrimmed text) :
    trim text = text :=
  trimWhile_of_ends trimmed.front trimmed.back

/-- Trimming leaves no blank at the ends. -/
theorem isTrimmed_trim (text : List Char) :
    IsTrimmed (trim text) := by
  constructor
  · intro c first
    rw [trim, trimWhile, dropEndWhile, List.head?_reverse] at first
    have inFront := getLast?_dropWhile first
    rw [List.getLast?_reverse] at inFront
    exact head?_dropWhile inFront
  · intro c last
    rw [trim, trimWhile, dropEndWhile, List.getLast?_reverse] at last
    exact head?_dropWhile last

@[simp] theorem trim_trim (text : List Char) :
    trim (trim text) = trim text :=
  (isTrimmed_trim text).trim_eq

/-- A blank in front of a text is trimmed. -/
theorem trim_cons_of_blank
    {c : Char}
    (blank : isBlank c = true)
    (text : List Char) :
    trim (c :: text) = trim text := by
  rw [trim, trimWhile, List.dropWhile_cons_of_pos blank]
  rfl

theorem trim_dropWhile (text : List Char) :
    trim (text.dropWhile isBlank) = trim text := by
  rw [trim, trimWhile, dropWhile_of_head fun c first => head?_dropWhile first]
  rfl

/-- Trimming at the end keeps the first character that is no blank. -/
theorem head?_trim (text : List Char) :
    (trim text).head? = (text.dropWhile isBlank).head? := by
  rw [trim, trimWhile]
  cases shape : text.dropWhile isBlank with
  | nil =>
      rfl
  | cons c rest =>
      have visible : isBlank c = false :=
        head?_dropWhile (by rw [shape]; rfl : (text.dropWhile isBlank).head? = some c)
      rw [dropEndWhile, List.head?_reverse, List.reverse_cons, List.dropWhile_append]
      split
      · simp [visible]
      · simp

/-- Trimming takes no visible character away. -/
theorem mem_trim_of_mem
    {c : Char}
    {text : List Char}
    (visible : isBlank c = false)
    (member : c ∈ text) :
    c ∈ trim text := by
  have kept {characters : List Char} (inside : c ∈ characters) :
      c ∈ characters.dropWhile isBlank := by
    rw [← List.takeWhile_append_dropWhile (p := isBlank) (l := characters)] at inside
    rcases List.mem_append.mp inside with dropped | kept
    · exact absurd (List.mem_takeWhile_imp dropped) (by simp [visible])
    · exact kept
  rw [trim, trimWhile, dropEndWhile, List.mem_reverse]
  exact kept (List.mem_reverse.mpr (kept member))

/-- Trimming drops characters and adds none. -/
theorem mem_of_mem_trim
    {c : Char}
    {text : List Char}
    (member : c ∈ trim text) :
    c ∈ text := by
  rw [trim, trimWhile, dropEndWhile, List.mem_reverse] at member
  have inFront := (List.dropWhile_suffix isBlank).subset member
  exact (List.dropWhile_suffix isBlank).subset (List.mem_reverse.mp inFront)

theorem trim_sublist (text : List Char) :
    (trim text).Sublist text := by
  rw [trim, trimWhile, dropEndWhile]
  have back := (List.dropWhile_suffix isBlank (l := (text.dropWhile isBlank).reverse)).sublist
  have front := (List.dropWhile_suffix isBlank (l := text)).sublist
  have reversed := back.reverse
  rw [List.reverse_reverse] at reversed
  exact reversed.trans front

/-- Nothing is left of a text of blanks. -/
theorem trim_of_all
    {text : List Char}
    (blank : text.all isBlank = true) :
    trim text = [] := by
  have nothing : text.dropWhile isBlank = [] :=
    List.dropWhile_eq_nil_iff.mpr (List.all_eq_true.mp blank)
  rw [trim, trimWhile, nothing]
  rfl

/-- What is trimmed off a text are blanks in front and behind. -/
theorem exists_append_trim (text : List Char) :
    ∃ lead tail,
      lead.all isBlank = true ∧ tail.all isBlank = true ∧ text = lead ++ (trim text ++ tail) := by
  have back (characters : List Char) :
      characters =
        dropEndWhile isBlank characters ++ (characters.reverse.takeWhile isBlank).reverse := by
    rw [dropEndWhile, ← List.reverse_append, List.takeWhile_append_dropWhile, List.reverse_reverse]
  refine ⟨text.takeWhile isBlank, ((text.dropWhile isBlank).reverse.takeWhile isBlank).reverse,
    List.all_takeWhile, ?_, ?_⟩
  · rw [List.all_reverse]
    exact List.all_takeWhile
  · rw [trim, trimWhile, ← back, List.takeWhile_append_dropWhile]

/-- Blanks in front of a text and behind it do not count when it is trimmed. -/
theorem trim_append
    {lead tail : List Char}
    (isLead : lead.all isBlank = true)
    (isTail : tail.all isBlank = true)
    (text : List Char) :
    trim (lead ++ (text ++ tail)) = trim text := by
  have leadDropped : lead.dropWhile isBlank = [] :=
    List.dropWhile_eq_nil_iff.mpr (List.all_eq_true.mp isLead)
  have tailDropped : tail.dropWhile isBlank = [] :=
    List.dropWhile_eq_nil_iff.mpr (List.all_eq_true.mp isTail)
  have tailReversed : tail.reverse.dropWhile isBlank = [] := by
    refine List.dropWhile_eq_nil_iff.mpr (List.all_eq_true.mp ?_)
    rw [List.all_reverse]
    exact isTail
  have front : (lead ++ (text ++ tail)).dropWhile isBlank = (text ++ tail).dropWhile isBlank := by
    rw [List.dropWhile_append, leadDropped]
    rfl
  rw [trim, trim, trimWhile, trimWhile, front, List.dropWhile_append]
  split
  · next allBlank =>
    rw [List.isEmpty_iff.mp allBlank, tailDropped]
  · rw [dropEndWhile, dropEndWhile, List.reverse_append, List.dropWhile_append, tailReversed]
    rfl

/-- The characters of a range are checked by their codes. -/
theorem of_codes
    (property : Char → Prop)
    {first bound : Nat}
    (checked : ∀ code < bound, first ≤ code → property (Char.ofNat code))
    {c : Char}
    (least : first ≤ c.toNat)
    (below : c.toNat < bound) :
    property c := by
  have entry := checked c.toNat below least
  rwa [Char.ofNat_toNat] at entry

/-- What is checked for each code below 128 holds of each such character. -/
theorem of_ascii
    (property : Char → Prop)
    (checked : ∀ code < 0x80, property (Char.ofNat code))
    {c : Char}
    (ascii : c.toNat < 0x80) :
    property c :=
  of_codes property (fun code below _ => checked code below) (Nat.zero_le _) ascii

/-- What is checked for the codes of the digits holds of each digit. -/
theorem of_isDigit
    (property : Char → Prop)
    (checked : ∀ code < '9'.toNat + 1, '0'.toNat ≤ code → property (Char.ofNat code))
    {c : Char}
    (digit : c.isDigit = true) :
    property c :=
  have bounds := Char.isDigit_iff_toNat.mp digit
  of_codes property checked bounds.1 (Nat.lt_succ_of_le bounds.2)

theorem isBlank_of_isDigit
    {c : Char}
    (digit : c.isDigit = true) :
    isBlank c = false :=
  of_isDigit (fun c => isBlank c = false) (by decide) digit

/-- A text between two characters that are no blanks is trimmed. -/
theorem isTrimmed_between
    {first last : Char}
    (firstKept : isBlank first = false)
    (lastKept : isBlank last = false)
    (between : List Char) :
    IsTrimmed (first :: (between ++ [last])) := by
  constructor
  · intro c isFirst
    rw [← Option.some.inj isFirst]
    exact firstKept
  · intro c isLast
    rw [← List.cons_append, List.getLast?_concat] at isLast
    rw [← Option.some.inj isLast]
    exact lastKept

end SceneEditor.Text

namespace SceneEditor

/-- A trimmed text stays as it is. -/
theorem Text.IsTrimmed.trimmed_eq
    {text : String}
    (isTrimmed : Text.IsTrimmed text.toList) :
    trimmed text = text := by
  rw [trimmed, isTrimmed.trim_eq, String.ofList_toList]

@[simp] theorem trimmed_trimmed (text : String) :
    trimmed (trimmed text) = trimmed text := by
  simp [trimmed]

end SceneEditor
