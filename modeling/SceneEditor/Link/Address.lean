import SceneEditor.Text.Characters
import SceneEditor.Text.Cut
import SceneEditor.Text.LetterCase
import SceneEditor.Text.Quoted

namespace SceneEditor

/-!
# Addresses of servers

The host of an address stands behind two slashes, after any user and before any number
behind a colon, and is written in small letters.  A host in brackets may hold colons; it is an
address of eight groups, or one of a version to come.
-/

/-- Why an address cannot be read. -/
inductive AddressError where
  /-- There are brackets of one kind only. -/
  | unpaired
  /-- The host in brackets begins like an address of a version to come, and goes on otherwise. -/
  | badFuture
  /-- The host in brackets is an address of four numbers. -/
  | dotted
  /-- The host in brackets is no address. -/
  | noAddress (host : String)
  /-- A character of the authority may be taken for a text with a mark in it. -/
  | hiddenMark (authority : String)
  deriving DecidableEq, Repr

/-- The wording of an error. -/
def AddressError.message : AddressError → String
  | unpaired => "Invalid IPv6 URL"
  | badFuture => "IPvFuture address is invalid"
  | dotted => "An IPv4 address cannot be in brackets"
  | noAddress host => quoted host ++ " does not appear to be an IPv4 or IPv6 address"
  | hiddenMark authority =>
      s!"netloc '{authority}' contains invalid characters under NFKC normalization"

namespace Address

/-!
## The parts of an address
-/

/-- A control character or a space, which may stand in front of an address. -/
def isLeading (c : Char) : Bool :=
  decide (c.toNat ≤ 0x20)

/-- A character that is left out of an address wherever it stands. -/
def isDropped (c : Char) : Bool :=
  c = '\t' || c = '\r' || c = '\n'

/-- A character that may stand in a scheme. -/
def isSchemeChar (c : Char) : Bool :=
  c.isAlphanum || c = '+' || c = '-' || c = '.'

/-- What stands behind the scheme and its colon, or all if there is no scheme. -/
def withoutScheme (address : List Char) : List Char :=
  match Text.cutAt? [':'] address with
  | some (first :: scheme, rest) =>
      if first.isAlpha && scheme.all isSchemeChar then rest else address
  | _ => address

/-- What stands between the slashes and the path, the query or the fragment. -/
def authority (address : List Char) : List Char :=
  let cleaned := (address.dropWhile isLeading).filter fun c => !isDropped c
  match withoutScheme cleaned with
  | '/' :: '/' :: rest => rest.takeWhile fun c => c != '/' && c != '?' && c != '#'
  | _ => []

/-- What stands behind the last mark of a kind. -/
def afterLast (mark : Char) (text : List Char) : List Char :=
  (text.reverse.takeWhile (· != mark)).reverse

/-- What stands behind the first opening bracket and before the closing one, if one opens. -/
def bracketed? (text : List Char) : Option (List Char) :=
  (Text.cutAt? ['['] text).map fun (_, rest) => rest.takeWhile (· != ']')

/-- The host in small letters; the zone of a host is left as it is. -/
def small (host : List Char) : List Char :=
  let name := host.takeWhile (· != '%')
  Text.lower name ++ host.drop name.length

/-- The host of an authority, which is empty if there is none. -/
def hostOf (authority : List Char) : List Char :=
  let place := afterLast '@' authority
  small ((bracketed? place).getD (place.takeWhile (· != ':')))

/-!
## Hosts in brackets
-/

/-- A hexadecimal digit, in letters of either case. -/
def isHexDigit (c : Char) : Bool :=
  (Text.hexValue? c).isSome

/-- A number from 0 to 255, written in decimal without a zero in front. -/
def isOctet (text : List Char) : Bool :=
  !text.isEmpty && text.all Char.isDigit && decide (text.length ≤ 3)
    && (text == ['0'] || text.head? != some '0')
    && decide (text.foldl (fun value digit => 10 * value + (digit.toNat - '0'.toNat)) 0 ≤ 255)

/-- Four numbers with dots between them. -/
def isDotted (text : List Char) : Bool :=
  let octets := Text.pieces '.' text
  decide (octets.length = 4) && octets.all isOctet

/-- A group of an address: one to four hexadecimal digits. -/
def isGroup (text : List Char) : Bool :=
  !text.isEmpty && text.all isHexDigit && decide (text.length ≤ 4)

/-- What stands between the colons of an address.  Four numbers with dots may stand at its end in the
place of two groups. -/
def parts? (address : List Char) : Option (List (List Char)) :=
  let parts := Text.pieces ':' address
  let last := parts.getLastD []
  if last.contains '.' then
    if isDotted last then some (parts.dropLast ++ [['0'], ['0']]) else none
  else some parts

/-- How many groups stand on one side of two colons; a side without any is one empty part. -/
def groupCount? (parts : List (List Char)) : Option Nat :=
  if parts = [[]] then some 0
  else if parts.all isGroup then some parts.length
  else none

/-- Eight groups with colons between them, or fewer of them with two colons in the place of those
that are left out. -/
def isGrouped (address : List Char) : Bool :=
  match parts? address with
  | none => false
  | some parts =>
      -- Two colons leave an empty part that is neither the first nor the last one.
      match parts.tail.dropLast.findIdx? List.isEmpty with
      | none => decide (parts.length = 8) && parts.all isGroup
      | some before =>
          match groupCount? (parts.take (before + 1)), groupCount? (parts.drop (before + 2)) with
          | some left, some right => decide (left + right < 8)
          | _, _ => false

/-- An address of groups, with or without a zone behind a percent sign. -/
def isZoned (host : List Char) : Bool :=
  match Text.cutAt? ['%'] host with
  | none => isGrouped host
  | some (address, zone) => !zone.isEmpty && !zone.contains '%' && isGrouped address

/-- What stands behind the letter of an address of a version to come: the number of the version, a
dot, and anything. -/
def isFuture (text : List Char) : Bool :=
  let version := text.takeWhile isHexDigit
  match text.drop version.length with
  | '.' :: _ :: _ => !version.isEmpty
  | _ => false

/-- Why a host cannot stand in brackets, if it cannot. -/
def bracketedError? (host : List Char) : Option AddressError :=
  match host with
  | 'v' :: rest => if isFuture rest then none else some .badFuture
  | _ =>
      if isDotted host then some .dotted
      else if isZoned host then none
      else some (.noAddress (String.ofList host))

/-!
## Reading an address
-/

/-- The code points that are compatible with texts in which one of the marks `/`, `?`, `#`, `@` and
`:` stands. -/
def markCodes : List Nat :=
  [
    0x2047, 0x2048, 0x2049, 0x2100, 0x2101, 0x2105, 0x2106, 0x2A74, 0xFE13, 0xFE16, 0xFE55,
    0xFE56, 0xFE5F, 0xFE6B, 0xFF03, 0xFF0F, 0xFF1A, 0xFF1F, 0xFF20
  ]

/-- The character may be taken for a text in which a mark stands. -/
def hidesMark (c : Char) : Bool :=
  markCodes.contains c.toNat

/-- Why an authority cannot be read, if it cannot. -/
def error? (authority : List Char) : Option AddressError :=
  if authority.contains '[' != authority.contains ']' then some .unpaired
  else
    match (bracketed? authority).bind bracketedError? with
    | some error => some error
    | none =>
        if authority.any hidesMark then some (.hiddenMark (String.ofList authority)) else none

/-- The host of an address, which is empty if there is none. -/
def host (address : String) : Except AddressError String :=
  let authority := authority address.toList
  match error? authority with
  | some error => .error error
  | none => .ok (String.ofList (hostOf authority))

/-- The host of an address that can be read. -/
def host? (address : String) : Option String :=
  (host address).toOption

/-- An address cannot be read exactly if its authority cannot. -/
theorem host_eq_error_iff
    {address : String}
    {error : AddressError} :
    host address = .error error ↔ error? (authority address.toList) = some error := by
  simp only [host]
  cases error? (authority address.toList) with
  | none =>
      simp
  | some other =>
      simp

/-- An address has a host exactly if it can be read. -/
theorem host?_isSome_iff
    {address : String} :
    (host? address).isSome = true ↔ ∃ name, host address = .ok name := by
  unfold host?
  cases host address with
  | error error =>
      exact ⟨nofun, nofun⟩
  | ok name =>
      exact ⟨fun _ => ⟨name, rfl⟩, fun _ => rfl⟩

end Address

end SceneEditor
