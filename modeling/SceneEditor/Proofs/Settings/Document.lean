import SceneEditor.Proofs.Json.Typed
import SceneEditor.Proofs.Timeline.Settings
import SceneEditor.Settings.Document

namespace SceneEditor

open Attempt

/-!
# What a document of settings gives

A document gives settings whose timeline is sound, or it is refused with an error that is told to the
user.  But an integer beyond the range of floating-point numbers, where a real number is wanted, and an
infinity, where an integer is wanted, are overflows.  The first value that cannot be read decides,
and if it is an overflow then the document is not refused, and nobody is told.
-/

/-- The track shows a finite and positive span, its gutter is finite and not negative, and the
shortest clip lasts a tenth of a second or more, and less than the span. -/
structure TimelineSettings.IsSound (settings : TimelineSettings) : Prop where
  maxTime :
    ∃ real : Binary64,
      settings.maxTime = .real real ∧ real.isFinite = true ∧ Binary64.lt 0 real = true
  gutter :
    ∃ real : Binary64,
      settings.gutter = .real real ∧ real.isFinite = true ∧ Binary64.le 0 real = true
  shortest :
    ∃ real : Binary64,
      settings.shortest = .real real ∧ Track.shortestDuration.le real = true
  below : settings.shortest.lt settings.maxTime = true

namespace Settings

/-- What a value is read as. -/
inductive Reading where
  | text
  | real
  | integer
  deriving DecidableEq, Repr

/-- The values of the server in the order in which they are read. -/
def serverKeys : List (String × Reading) :=
  [
    ("url", .text), ("command_destination", .text), ("world_topic", .text),
    ("reconnect_delay", .real), ("max_reconnect_attempts", .integer),
    ("heartbeat_interval", .real), ("connect_timeout", .real)
  ]

/-- The values of the timeline, which are read behind those of the server and then checked. -/
def timelineKeys : List (String × Reading) :=
  [("max_time", .real), ("label_gutter_px", .real), ("min_clip_duration", .real)]

/-- A value of a document: the section and the key under which it stands, and how it is read. -/
structure Entry where
  sectionName : String
  key : String
  reading : Reading
  deriving DecidableEq, Repr

/-- The entries of a section, one for each of its keys. -/
def Entry.inSection (sectionName : String) (keys : List (String × Reading)) : List Entry :=
  keys.map fun (key, reading) => { sectionName, key, reading }

/-- The values in the order in which they are read, up to the check of the timeline. -/
def entries : List Entry :=
  Entry.inSection "server" serverKeys ++ Entry.inSection "timeline" timelineKeys

/-- Why a value cannot be read, if it cannot. -/
def Reading.error? : Reading → Json → Option NumberError
  | text, value => failure? value.toText
  | real, value => failure? value.toReal
  | integer, value => failure? value.toInteger

/--
A number that is out of range for what it is read as: an integer of `2 ^ 1024 - 2 ^ 970` or more, with
either sign, or an infinity.
-/
inductive Reading.Overflows : Reading → Json → NumberError → Prop where
  | real {value : Int} (tooLarge : (2 ^ 54 - 1) * 2 ^ 970 ≤ value.natAbs) :
      Overflows real (.number (.int value)) .integerTooLarge
  | integer (negative : Bool) :
      Overflows integer (.number (.real (.infinity negative))) .infiniteInteger

/-- The section of a document, if it and the document are mappings or empty. -/
def sectionIn? (document : Json) (name : String) : Option Section :=
  (section? document).bind fun root => section? ((Json.field? name root).getD .null)

/-- The document is a mapping of mappings, as far as it is looked at. -/
def HasSections (document : Json) : Prop :=
  ∀ name ∈ ["server", "timeline", "logging"], (sectionIn? document name).isSome

/-- Why the value of an entry cannot be read, if it is there and cannot. -/
def Entry.error? (document : Json) (entry : Entry) : Option NumberError :=
  (sectionIn? document entry.sectionName).bind fun fields =>
    (Json.field? entry.key fields).bind entry.reading.error?

/-- The first value of the document that cannot be read is a number out of range. -/
def Escapes (document : Json) (error : NumberError) : Prop :=
  HasSections document ∧
    ∃ earlier entry later,
      entries = earlier ++ entry :: later ∧
        (∀ other ∈ earlier, other.error? document = none) ∧
        ∃ fields value,
          sectionIn? document entry.sectionName = some fields ∧
            Json.field? entry.key fields = some value ∧
            entry.reading.Overflows value error

/-!
## Values that cannot be read
-/

theorem isOverflow_of_toText
    {value : Json}
    {error : NumberError}
    (fails : value.toText = .error error) :
    error.isOverflow = false := by
  unfold Json.toText at fails
  split at fails
  · exact absurd fails (by simp)
  · rw [← Except.error.inj fails]
    rfl

/-- Only an infinity overflows as an integer; whatever else fails is no overflow. -/
theorem toInteger_error
    {value : Json}
    {error : NumberError}
    (fails : value.toInteger = .error error) :
    (∃ negative, value = .number (.real (.infinity negative)) ∧ error = .infiniteInteger) ∨
      error.isOverflow = false := by
  cases value with
  | number number =>
      cases number with
      | int value =>
          exact absurd fails (by simp [Json.toInteger])
      | real value =>
          cases value with
          | nan =>
              exact Or.inr (congrArg NumberError.isOverflow (Except.error.inj fails).symm)
          | infinity negative =>
              exact Or.inl ⟨negative, rfl, (Except.error.inj fails).symm⟩
          | finite negative rank =>
              exact absurd fails (by simp [Json.toInteger])
  | string text =>
      rcases Numeral.integer?_error fails with rfl | ⟨count, rfl⟩
      · exact Or.inr rfl
      · exact Or.inr rfl
  | bool value =>
      exact absurd fails (by simp [Json.toInteger])
  | null | array | object =>
      exact Or.inr (congrArg NumberError.isOverflow (Except.error.inj fails).symm)

/-- A real number overflows for an integer that is too large. -/
theorem toReal_overflows_iff
    {value : Json}
    {error : NumberError} :
    value.toReal = .error error ∧ error.isOverflow = true ↔
      Reading.real.Overflows value error := by
  constructor
  · rintro ⟨fails, overflow⟩
    rcases Json.toReal_error fails with ⟨number, rfl, tooLarge⟩ | ⟨kind, rfl⟩ | ⟨text, rfl⟩
    · obtain ⟨rfl, whole, negative, rfl, infinite⟩ := (number.toReal_failsIf error).mp tooLarge
      exact .real (Binary64.ofInt_eq_infinity_iff.mp infinite).2
    · exact absurd overflow Bool.false_ne_true
    · exact absurd overflow Bool.false_ne_true
  · rintro ⟨tooLarge⟩
    have infinite := Binary64.ofInt_eq_infinity_iff.mpr ⟨rfl, tooLarge⟩
    exact ⟨(Num.toReal_failsIf _ _).mpr ⟨rfl, _, _, rfl, infinite⟩, rfl⟩

/-- An integer overflows for an infinity. -/
theorem toInteger_overflows_iff
    {value : Json}
    {error : NumberError} :
    value.toInteger = .error error ∧ error.isOverflow = true ↔
      Reading.integer.Overflows value error := by
  constructor
  · rintro ⟨fails, overflow⟩
    rcases toInteger_error fails with ⟨negative, rfl, rfl⟩ | noOverflow
    · exact .integer negative
    · rw [noOverflow] at overflow
      exact absurd overflow Bool.false_ne_true
  · rintro ⟨negative⟩
    exact ⟨rfl, rfl⟩

/-- A value that cannot be read is out of range exactly if it is a number that overflows. -/
theorem Reading.overflows_iff
    {reading : Reading}
    {value : Json}
    {error : NumberError} :
    reading.error? value = some error ∧ error.isOverflow = true ↔
      reading.Overflows value error := by
  cases reading with
  | text =>
      constructor
      · rintro ⟨fails, overflow⟩
        rw [isOverflow_of_toText (eq_error_of_failure? fails)] at overflow
        exact absurd overflow Bool.false_ne_true
      · rintro ⟨⟩
  | real =>
      rw [← toReal_overflows_iff, Reading.error?, failure?_eq_some_iff]
  | integer =>
      rw [← toInteger_overflows_iff, Reading.error?, failure?_eq_some_iff]

/-!
## Sections
-/

/-- Why the value of a key cannot be read, if it is there and cannot. -/
def keyError? (fields : Section) (key : String) (reading : Reading) : Option NumberError :=
  (Json.field? key fields).bind reading.error?

theorem textOr_failure?
    (fields : Section)
    (key default : String) :
    failure? (textOr fields key default) = (keyError? fields key .text).map failure := by
  unfold textOr keyError?
  cases Json.field? key fields with
  | none =>
      rfl
  | some value =>
      exact failure?_mapError _ _

theorem realOr_failure?
    (fields : Section)
    (key : String)
    (default : Num) :
    failure? (realOr fields key default) = (keyError? fields key .real).map failure := by
  unfold realOr keyError?
  cases Json.field? key fields with
  | none =>
      rfl
  | some value =>
      change failure? ((value.toReal.map Num.real).mapError failure) = _
      rw [failure?_mapError]
      change _ = (failure? value.toReal).map failure
      cases value.toReal with
      | error error =>
          rfl
      | ok real =>
          rfl

theorem integerOr_failure?
    (fields : Section)
    (key : String)
    (default : Int) :
    failure? (integerOr fields key default) = (keyError? fields key .integer).map failure := by
  unfold integerOr keyError?
  cases Json.field? key fields with
  | none =>
      rfl
  | some value =>
      exact failure?_mapError _ _

/-- The error of the first of some keys whose value cannot be read. -/
def firstError? (fields : Section) (keys : List (String × Reading)) : Option NumberError :=
  keys.findSome? fun (key, reading) => keyError? fields key reading

/-- The first error is that of the first key that has one. -/
theorem firstError?_cons
    (fields : Section)
    (key : String)
    (reading : Reading)
    (rest : List (String × Reading)) :
    firstError? fields ((key, reading) :: rest) =
      (keyError? fields key reading).or (firstError? fields rest) := by
  simp only [firstError?, List.findSome?_cons]
  cases keyError? fields key reading with
  | none =>
      rfl
  | some error =>
      rfl

/-- Reading the value of a key, and then those of others. -/
theorem failure?_cons
    {fields : Section}
    {key : String}
    {reading : Reading}
    {rest : List (String × Reading)}
    {step : Except SettingsFailure α}
    {next : α → Except SettingsFailure β}
    (first : failure? step = (keyError? fields key reading).map failure)
    (later : ∀ value, failure? (next value) = (firstError? fields rest).map failure) :
    failure? (step >>= next) =
      (firstError? fields ((key, reading) :: rest)).map failure := by
  rw [failure?_bind fun value _ => later value, first, firstError?_cons, Option.map_or]

/-- The server section fails with its first error. -/
theorem serverOf_failure? (fields : Section) :
    failure? (serverOf fields) = (firstError? fields serverKeys).map failure :=
  failure?_cons (textOr_failure? ..) fun _ =>
    failure?_cons (textOr_failure? ..) fun _ =>
      failure?_cons (textOr_failure? ..) fun _ =>
        failure?_cons (realOr_failure? ..) fun _ =>
          failure?_cons (integerOr_failure? ..) fun _ =>
            failure?_cons (realOr_failure? ..) fun _ =>
              failure?_cons (realOr_failure? ..) fun _ => rfl

/-!
## Overflows
-/

/-- The step ends with an overflow exactly if the error is one. -/
def OverflowsAs (step : Except SettingsFailure α) (error? : Option NumberError) : Prop :=
  ∀ error, step = .error (.overflow error) ↔ error? = some error ∧ error.isOverflow = true

theorem failure_eq_overflow_iff
    {error other : NumberError} :
    failure other = .overflow error ↔ other = error ∧ error.isOverflow = true := by
  unfold failure
  split
  · next overflow =>
    constructor
    · intro same
      obtain rfl := SettingsFailure.overflow.inj same
      exact ⟨rfl, overflow⟩
    · rintro ⟨rfl, -⟩
      rfl
  · next noOverflow =>
    constructor
    · intro same
      exact absurd same (by simp)
    · rintro ⟨rfl, overflow⟩
      exact absurd overflow noOverflow

theorem OverflowsAs.of_failure?
    {step : Except SettingsFailure α}
    {error? : Option NumberError}
    (fails : failure? step = error?.map failure) :
    OverflowsAs step error? := by
  intro error
  rw [← failure?_eq_some_iff, fails, Option.map_eq_some_iff]
  constructor
  · rintro ⟨other, found, same⟩
    obtain ⟨rfl, overflow⟩ := failure_eq_overflow_iff.mp same
    exact ⟨found, overflow⟩
  · rintro ⟨found, overflow⟩
    exact ⟨error, found, failure_eq_overflow_iff.mpr ⟨rfl, overflow⟩⟩

/-- The first of two steps overflows before the second. -/
theorem OverflowsAs.bind
    {step : Except SettingsFailure α}
    {next : α → Except SettingsFailure β}
    {first? later? : Option NumberError}
    (first : failure? step = first?.map failure)
    (later : ∀ value, OverflowsAs (next value) later?) :
    OverflowsAs (step >>= next) (first?.or later?) := by
  cases step with
  | ok value =>
      cases first? with
      | none =>
          exact later value
      | some error =>
          exact absurd first (by simp [failure?])
  | error failed =>
      cases first? with
      | none =>
          exact absurd first (by simp [failure?])
      | some error =>
          exact OverflowsAs.of_failure? first

/-- What comes behind does not matter if it never overflows. -/
theorem OverflowsAs.bind_never
    {step : Except SettingsFailure α}
    {next : α → Except SettingsFailure β}
    {error? : Option NumberError}
    (overflows : OverflowsAs step error?)
    (never : ∀ value, OverflowsAs (next value) none) :
    OverflowsAs (step >>= next) error? := by
  intro error
  rw [bind_eq_error_iff, overflows error]
  constructor
  · rintro (holds | ⟨value, -, fails⟩)
    · exact holds
    · exact absurd ((never value error).mp fails).1 (by simp)
  · exact Or.inl

theorem check_never
    (settings : TimelineSettings) :
    OverflowsAs (settings.check.mapError fun error => .refused (.timeline error)) none := by
  intro error
  cases settings.check with
  | ok checked =>
      simp [Except.mapError]
  | error refusal =>
      simp [Except.mapError]

/-- The timeline section overflows with its first error. -/
theorem timelineOf_overflowsAs (fields : Section) :
    OverflowsAs (timelineOf fields) (firstError? fields timelineKeys) := by
  simp only [timelineKeys, firstError?_cons]
  refine OverflowsAs.bind (realOr_failure? ..) fun maxTime => ?_
  refine OverflowsAs.bind (realOr_failure? ..) fun gutter => ?_
  refine OverflowsAs.bind (realOr_failure? ..) fun shortest => ?_
  exact check_never { maxTime, gutter, shortest }

/-- The journal section never overflows. -/
theorem journalOf_never (fields : Section) :
    OverflowsAs (journalOf fields) none := by
  intro error
  have onlyText : OverflowsAs (journalOf fields) (keyError? fields "level" .text) :=
    OverflowsAs.bind_never (.of_failure? (textOr_failure? ..)) fun level error => by simp [pure, Except.pure]
  rw [onlyText error]
  constructor
  · rintro ⟨found, overflow⟩
    obtain ⟨value, -, unread⟩ := Option.bind_eq_some_iff.mp found
    rw [isOverflow_of_toText (eq_error_of_failure? unread)] at overflow
    exact absurd overflow Bool.false_ne_true
  · rintro ⟨never, -⟩
    exact absurd never (by simp)

/-!
## Documents
-/

/-- The settings of three sections. -/
def ofSections (server timeline journal : Section) : Except SettingsFailure Settings := do
  return {
    server := ← serverOf server
    timeline := ← timelineOf timeline
    journal := ← journalOf journal
  }

theorem sectionOf_cases (root : Section) (name : String) :
    let value := (Json.field? name root).getD .null
    (∃ fields, section? value = some fields ∧ sectionOf root name = .ok fields) ∨
      (section? value = none ∧ sectionOf root name = .error (.refused (.noSection name))) := by
  unfold sectionOf
  split
  · next fields found =>
    exact Or.inl ⟨fields, found, rfl⟩
  · next missing =>
    exact Or.inr ⟨missing, rfl⟩

/-- A document is refused for a section that is missing, or it is read section by section. -/
theorem ofDocument_cases (document : Json) :
    (¬ HasSections document ∧ ∃ error, ofDocument document = .error (.refused error)) ∨
      ∃ server timeline journal,
        sectionIn? document "server" = some server ∧
          sectionIn? document "timeline" = some timeline ∧
          sectionIn? document "logging" = some journal ∧
          ofDocument document = ofSections server timeline journal := by
  unfold ofDocument HasSections sectionIn?
  cases section? document with
  | none =>
      refine Or.inl ⟨fun sections => ?_, .noMapping, rfl⟩
      exact absurd (sections "server" List.mem_cons_self) (by simp)
  | some root =>
      simp only [Option.bind_some, List.forall_mem_cons]
      rcases sectionOf_cases root "server" with ⟨server, found, read⟩ | ⟨missing, refused⟩
      · rcases sectionOf_cases root "timeline" with ⟨timeline, found', read'⟩ | ⟨missing, refused⟩
        · rcases sectionOf_cases root "logging" with ⟨journal, found'', read''⟩ | ⟨missing, refused⟩
          · refine Or.inr ⟨server, timeline, journal, found, found', found'', ?_⟩
            rw [read, read', read'']
            rfl
          · refine Or.inl ⟨by simp [missing], .noSection "logging", ?_⟩
            rw [read, read', refused]
            rfl
        · refine Or.inl ⟨by simp [missing], .noSection "timeline", ?_⟩
          rw [read, refused]
          rfl
      · refine Or.inl ⟨by simp [missing], .noSection "server", ?_⟩
        rw [refused]
        rfl

/-- The first entry whose value cannot be read is looked for in one section after the other. -/
theorem findSome?_entries
    {document : Json}
    {server timeline : Section}
    (serverFound : sectionIn? document "server" = some server)
    (timelineFound : sectionIn? document "timeline" = some timeline) :
    entries.findSome? (Entry.error? document) =
      (firstError? server serverKeys).or (firstError? timeline timelineKeys) := by
  have inSection
      {name : String}
      {fields : Section}
      (found : sectionIn? document name = some fields)
      (keys : List (String × Reading)) :
      (Entry.inSection name keys).findSome? (Entry.error? document) = firstError? fields keys := by
    rw [Entry.inSection, List.findSome?_map, firstError?]
    congr 1
    funext ⟨key, reading⟩
    simp [Entry.error?, found, keyError?]
  rw [entries, List.findSome?_append, inSection serverFound, inSection timelineFound]

theorem Entry.error?_overflows_iff
    {document : Json}
    {entry : Entry}
    {error : NumberError} :
    entry.error? document = some error ∧ error.isOverflow = true ↔
      ∃ fields value,
        sectionIn? document entry.sectionName = some fields ∧
          Json.field? entry.key fields = some value ∧
          entry.reading.Overflows value error := by
  constructor
  · rintro ⟨found, overflow⟩
    obtain ⟨fields, inDocument, found⟩ := Option.bind_eq_some_iff.mp found
    obtain ⟨value, inFields, unread⟩ := Option.bind_eq_some_iff.mp found
    exact ⟨fields, value, inDocument, inFields, Reading.overflows_iff.mp ⟨unread, overflow⟩⟩
  · rintro ⟨fields, value, inDocument, inFields, overflows⟩
    obtain ⟨unread, overflow⟩ := Reading.overflows_iff.mpr overflows
    simp [error?, inDocument, inFields, unread, overflow]

/-- An error escapes exactly if it is the first of a document with proper sections, and an overflow.
-/
theorem escapes_iff
    {document : Json}
    {error : NumberError} :
    Escapes document error ↔
      HasSections document ∧
        entries.findSome? (Entry.error? document) = some error ∧ error.isOverflow = true := by
  rw [Escapes, List.findSome?_eq_some_iff]
  constructor
  · rintro ⟨sections, earlier, entry, later, split, readable, overflows⟩
    obtain ⟨unread, overflow⟩ := Entry.error?_overflows_iff.mpr overflows
    exact ⟨sections, ⟨earlier, entry, later, split, unread, readable⟩, overflow⟩
  · rintro ⟨sections, ⟨earlier, entry, later, split, unread, readable⟩, overflow⟩
    exact ⟨sections, earlier, entry, later, split, readable,
      Entry.error?_overflows_iff.mp ⟨unread, overflow⟩⟩

/-- The sections are read one after another. -/
theorem ofSections_overflowsAs (server timeline journal : Section) :
    OverflowsAs (ofSections server timeline journal)
      ((firstError? server serverKeys).or (firstError? timeline timelineKeys)) := by
  refine OverflowsAs.bind (serverOf_failure? server) fun _ => ?_
  refine OverflowsAs.bind_never (timelineOf_overflowsAs timeline) fun _ => ?_
  refine OverflowsAs.bind_never (journalOf_never journal) fun _ error => ?_
  simp [pure, Except.pure]

/-- A document overflows exactly if an error escapes. -/
theorem ofDocument_overflow_iff
    {document : Json}
    {error : NumberError} :
    ofDocument document = .error (.overflow error) ↔ Escapes document error := by
  rw [escapes_iff]
  rcases ofDocument_cases document with
    ⟨missing, refusal, refused⟩ | ⟨server, timeline, journal, first, second, third, read⟩
  · simp [missing, refused]
  · have sections : HasSections document := by
      simp [HasSections, first, second, third]
    rw [read, ofSections_overflowsAs server timeline journal error,
      findSome?_entries first second]
    exact (and_iff_right sections).symm

/-!
## Settings of the timeline
-/

/-- A number of the timeline is given as a real number, and so is its default. -/
theorem realOr_isReal
    {fields : Section}
    {key : String}
    {default : Binary64}
    {value : Num}
    (read : realOr fields key (.real default) = .ok value) :
    ∃ real, value = .real real := by
  unfold realOr at read
  split at read
  · exact ⟨default, (Except.ok.inj read).symm⟩
  · next given found =>
    cases result : given.toReal with
    | error error =>
        rw [result] at read
        exact absurd read (by simp [Except.map, Except.mapError])
    | ok real =>
        rw [result] at read
        exact ⟨real, (Except.ok.inj read).symm⟩

/-- A finite number that is not below or at zero is above it. -/
theorem zero_lt_of_not_le
    {real : Binary64}
    (finite : real.isFinite = true)
    (notLe : (Num.real real).le 0 = false) :
    Binary64.lt 0 real = true := by
  cases real with
  | nan | infinity =>
      exact absurd finite (by simp [Binary64.isFinite])
  | finite negative rank =>
      change (decide (Binary64.signedUnits negative rank < 0 * (unitsPerOne : Int)) ||
        decide (Binary64.signedUnits negative rank = 0 * (unitsPerOne : Int))) = false at notLe
      rw [Int.zero_mul, Bool.or_eq_false_iff, decide_eq_false_iff_not, decide_eq_false_iff_not]
        at notLe
      rw [Binary64.lt, Binary64.position?_zero]
      simp only [Binary64.position?, decide_eq_true_eq]
      omega

/-- A finite number that is not below zero is at zero or above it. -/
theorem zero_le_of_not_lt
    {real : Binary64}
    (finite : real.isFinite = true)
    (notLt : (Num.real real).lt 0 = false) :
    Binary64.le 0 real = true := by
  cases real with
  | nan | infinity =>
      exact absurd finite (by simp [Binary64.isFinite])
  | finite negative rank =>
      change decide (Binary64.signedUnits negative rank < 0 * (unitsPerOne : Int)) = false at notLt
      rw [Int.zero_mul, decide_eq_false_iff_not] at notLt
      rw [Binary64.le, Binary64.position?_zero]
      simp only [Binary64.position?, decide_eq_true_eq]
      omega

theorem real_le_real
    {left right : Binary64}
    (below : (Num.real left).le (.real right) = true) :
    left.le right = true := by
  rw [Num.le, Bool.or_eq_true] at below
  simp only [Num.lt, Num.equals, Binary64.lt, Binary64.equals] at below
  rw [Binary64.le]
  generalize left.position? = leftPlace? at below ⊢
  generalize right.position? = rightPlace? at below ⊢
  cases leftPlace? with
  | none =>
      simp at below
  | some leftPlace =>
      cases rightPlace? with
      | none =>
          simp at below
      | some rightPlace =>
          simp only [decide_eq_true_eq] at below ⊢
          omega

/-- Real settings that pass the check are sound. -/
theorem isSound_of_check
    {maxTime gutter shortest : Binary64}
    {checked : TimelineSettings}
    (accepted :
      TimelineSettings.check
        { maxTime := .real maxTime, gutter := .real gutter, shortest := .real shortest } =
        .ok checked) :
    checked.IsSound := by
  obtain ⟨rfl, passes⟩ := TimelineSettings.passes_of_check accepted
  have finiteTime : maxTime.isFinite = true := Except.ok.inj passes.maxTime
  have finiteGutter : gutter.isFinite = true := Except.ok.inj passes.gutter
  exact {
    maxTime := ⟨maxTime, rfl, finiteTime, zero_lt_of_not_le finiteTime passes.positive⟩
    gutter := ⟨gutter, rfl, finiteGutter, zero_le_of_not_lt finiteGutter passes.notNegative⟩
    shortest := ⟨shortest, rfl, real_le_real passes.long⟩
    below := passes.below
  }

/-- Timeline settings that are read are sound. -/
theorem timelineOf_isSound
    {fields : Section}
    {settings : TimelineSettings}
    (read : timelineOf fields = .ok settings) :
    settings.IsSound := by
  obtain ⟨maxTime, readTime, read⟩ := bind_eq_ok_iff.mp read
  obtain ⟨gutter, readGutter, read⟩ := bind_eq_ok_iff.mp read
  obtain ⟨shortest, readShortest, read⟩ := bind_eq_ok_iff.mp read
  obtain ⟨maxTime, rfl⟩ := realOr_isReal readTime
  obtain ⟨gutter, rfl⟩ := realOr_isReal readGutter
  obtain ⟨shortest, rfl⟩ := realOr_isReal readShortest
  dsimp only at read
  cases checked :
      TimelineSettings.check
        { maxTime := .real maxTime, gutter := .real gutter, shortest := .real shortest } with
  | ok accepted =>
      rw [checked] at read
      rw [← Except.ok.inj read]
      exact isSound_of_check checked
  | error refusal =>
      rw [checked] at read
      exact nomatch read

/-- The timeline settings of a document that is read are sound. -/
theorem ofDocument_isSound
    {document : Json}
    {settings : Settings}
    (read : ofDocument document = .ok settings) :
    settings.timeline.IsSound := by
  rcases ofDocument_cases document with
    ⟨-, refusal, refused⟩ | ⟨server, timeline, journal, -, -, -, inSections⟩
  · rw [refused] at read
    exact nomatch read
  · rw [inSections] at read
    obtain ⟨_, -, read⟩ := bind_eq_ok_iff.mp read
    obtain ⟨timelineSettings, readTimeline, read⟩ := bind_eq_ok_iff.mp read
    obtain ⟨_, -, read⟩ := bind_eq_ok_iff.mp read
    rw [← Except.ok.inj read]
    exact timelineOf_isSound readTimeline

/--
Every document, whatever it holds, gives settings whose timeline is sound, or is refused with an error
that is told to the user, or ends with an overflow; and it ends with an overflow exactly if the
first of its values that cannot be read is a number out of range.
-/
theorem ofDocument_settles (document : Json) :
    (∀ settings, ofDocument document = .ok settings → settings.timeline.IsSound) ∧
      (∀ error, ofDocument document = .error (.overflow error) ↔ Escapes document error) ∧
      ((∀ error, ¬ Escapes document error) →
        (∃ settings, ofDocument document = .ok settings) ∨
          ∃ error, ofDocument document = .error (.refused error)) := by
  refine ⟨fun settings => ofDocument_isSound, fun error => ofDocument_overflow_iff, ?_⟩
  intro contained
  cases read : ofDocument document with
  | ok settings =>
      exact Or.inl ⟨settings, rfl⟩
  | error failed =>
      cases failed with
      | refused error =>
          exact Or.inr ⟨error, rfl⟩
      | overflow error =>
          exact absurd (ofDocument_overflow_iff.mp read) (contained error)

/-- A text that is no number refuses the document, although a number out of range stands behind it. -/
theorem ofDocument_settles_soon :
    let document : Json :=
      .object [
        ("server", .object [
          ("max_reconnect_attempts", .number (.real (.infinity false))),
          ("reconnect_delay", .string "soon")])]
    (∀ error, ¬ Escapes document error) ∧
      ((∃ settings, ofDocument document = .ok settings) ∨
        ∃ error, ofDocument document = .error (.refused error)) := by
  intro document
  have first : entries.findSome? (Entry.error? document) = some (.unreadableReal "soon") := by
    decide +kernel
  have contained : ∀ error, ¬ Escapes document error := by
    intro error escapes
    obtain ⟨-, found, overflow⟩ := escapes_iff.mp escapes
    obtain rfl := Option.some.inj (first.symm.trans found)
    exact Bool.false_ne_true overflow
  exact ⟨contained, (ofDocument_settles document).2.2 contained⟩

/-- An infinite number of attempts and an integer of 309 digits for seconds are not refused. -/
theorem ofDocument_overflows :
    ofDocument
        (.object [
          ("server", .object [("max_reconnect_attempts", .number (.real (.infinity false)))])]) =
        .error (.overflow .infiniteInteger) ∧
      ofDocument
          (.object [("timeline", .object [("max_time", .number (.int (Nat.pow 2 1024 : Nat)))])]) =
        .error (.overflow .integerTooLarge) := by
  constructor
  · rfl
  · apply ofDocument_overflow_iff.mpr
    rw [escapes_iff, HasSections]
    exact ⟨by decide +kernel, by decide +kernel, rfl⟩

end Settings

end SceneEditor
