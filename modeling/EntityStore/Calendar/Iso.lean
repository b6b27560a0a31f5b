import EntityStore.Calendar.Timestamp

/-!
# ISO date and time texts

Reading is by bytes of the UTF-8 text. A date is `YYYY-MM-DD`, `YYYYMMDD`, or a week date; a time
follows a separator of one character, and may end in an offset or `Z`. One further character
between the time and its offset is passed over. Writing uses the extended form, with microseconds
only where they are not zero.
-/

namespace EntityStore

namespace Iso

abbrev Bytes := List UInt8

def bytesOf (s : String) : Bytes := s.toUTF8.toList

def digit? (b : UInt8) : Option Nat :=
  if 48 ≤ b.toNat ∧ b.toNat ≤ 57 then some (b.toNat - 48) else none

def isDigit (b : UInt8) : Bool := (digit? b).isSome

/-- Exactly `n` digits, and what follows them. -/
def takeDigits : Nat → Bytes → Option (Nat × Bytes)
  | 0, bs => some (0, bs)
  | n + 1, b :: bs => do
    let d ← digit? b
    let (v, rest) ← takeDigits n bs
    some (d * Nat.pow 10 n + v, rest)
  | _ + 1, [] => none

/-- The byte at the front, zero past the end. -/
def peek (bs : Bytes) : UInt8 := bs.headD 0

def hyphen : UInt8 := 45
def colon : UInt8 := 58
def weekMark : UInt8 := 87

/-- Reads the date that fills the first `len` bytes. -/
def readDate? (len : Nat) (bs : Bytes) : Option Date := do
  let (year, rest) ← takeDigits 4 bs
  let separated := peek rest = hyphen
  let rest := if separated then rest.drop 1 else rest
  let afterSeparator (bs : Bytes) : Option Bytes :=
    if separated then if peek bs = hyphen then some (bs.drop 1) else none else some bs
  if peek rest = weekMark then
    let (week, rest) ← takeDigits 2 (rest.drop 1)
    if bs.length - rest.length < len then
      let rest ← afterSeparator rest
      let (day, _) ← takeDigits 1 rest
      Date.ofWeek? year week day
    else Date.ofWeek? year week 1
  else
    let (month, rest) ← takeDigits 2 rest
    let rest ← afterSeparator rest
    let (day, _) ← takeDigits 2 rest
    Date.ofParts? year month day

/-- Reads a date text of 7, 8 or 10 bytes. -/
def date? (s : String) : Option Date :=
  let bs := bytesOf s
  if bs.length = 7 ∨ bs.length = 8 ∨ bs.length = 10 then readDate? bs.length bs else none

/-- Where the character between date and time stands. -/
def separatorPlace? (bs : Bytes) : Option Nat :=
  let len := bs.length
  let byteAt (i : Nat) : UInt8 := bs.getD i 0
  if len < 7 then none
  else if len = 7 then some 7
  else if byteAt 4 = hyphen then
    if byteAt 5 = weekMark then
      if 8 < len ∧ byteAt 8 = hyphen then
        if len = 9 then none
        else if 10 < len ∧ isDigit (byteAt 10) then some 8 else some 10
      else some 8
    else some 10
  else if byteAt 4 = weekMark then
    let stop := 7 + ((bs.drop 7).takeWhile isDigit).length
    if stop < 9 then some stop else if stop % 2 = 0 then some 7 else some 8
  else some 8

/-- A time of day, and whether a character was left over after it. -/
structure Clock where
  hour : Nat
  minute : Nat
  second : Nat
  micro : Nat
  leftover : Bool

/-- The digits after the decimal mark: six count, the rest are passed over. -/
def readFraction? (stop : Nat) (bs : Bytes) : Option (Nat × Bool) := do
  let count := min (bs.length - stop) 6
  let (v, rest) ← takeDigits count bs
  let rest := rest.dropWhile isDigit
  some (v * Nat.pow 10 (6 - count), peek rest ≠ 0)

/-- Reads hours, then minutes and seconds where they follow, then a fraction of a second. The text
ends where `stop` bytes are left. -/
def readClock? (stop : Nat) (bs : Bytes) : Option Clock := do
  let mark := 46
  let comma := 44
  let past (rest : Bytes) : Bool := rest.length ≤ stop + 1
  let (hour, rest) ← takeDigits 2 bs
  let c := peek rest
  let separated := c = colon
  if past rest then return ⟨hour, 0, 0, 0, c ≠ 0⟩
  if ¬ separated ∧ (c = mark ∨ c = comma) then
    let (micro, more) ← readFraction? stop (rest.drop 1)
    return ⟨hour, 0, 0, micro, more⟩
  let (minute, rest) ← takeDigits 2 (if separated then rest.drop 1 else rest)
  let c := peek rest
  if past rest then return ⟨hour, minute, 0, 0, c ≠ 0⟩
  if c = mark ∨ c = comma then
    let (micro, more) ← readFraction? stop (rest.drop 1)
    return ⟨hour, minute, 0, micro, more⟩
  if separated ∧ c ≠ colon then none
  let (second, rest) ← takeDigits 2 (if separated then rest.drop 1 else rest)
  let c := peek rest
  if past rest then return ⟨hour, minute, second, 0, c ≠ 0⟩
  if c = mark ∨ c = comma ∨ (separated ∧ c = colon) then
    let (micro, more) ← readFraction? stop (rest.drop 1)
    return ⟨hour, minute, second, micro, more⟩
  if separated then none
  let (micro, more) ← readFraction? stop rest
  return ⟨hour, minute, second, micro, more⟩

/-- The offset that a signed clock text gives, in microseconds. Whole seconds of zero are universal
time. -/
def offsetMicros? (negative : Bool) (c : Clock) : Option Int :=
  let seconds := (c.hour * 60 + c.minute) * 60 + c.second
  let micros := if seconds = 0 then 0 else seconds * 1000000 + c.micro
  if c.leftover ∨ microsPerDay ≤ micros then none
  else some (if negative then -(micros : Int) else micros)

/-- Reads the part after the separator. -/
def readTime? (date : Date) (bs : Bytes) : Option Timestamp := do
  let isMark (b : UInt8) : Bool := b = 43 || b = hyphen || b = 90
  let zone := bs.dropWhile (! isMark ·)
  let clock ← readClock? zone.length bs
  match zone with
  | [] =>
    if clock.leftover then none
    else Timestamp.ofParts? date clock.hour clock.minute clock.second clock.micro none
  | z :: rest =>
    let offset ←
      if z = 90 then if peek rest = 0 then some 0 else none
      else (readClock? 0 rest).bind (offsetMicros? (z = hyphen))
    Timestamp.ofParts? date clock.hour clock.minute clock.second clock.micro (some offset)

/-- The bytes of the character at the front. -/
def leadLength (b : UInt8) : Nat :=
  if b.toNat < 128 then 1
  else if b.toNat / 16 = 14 then 3
  else if b.toNat / 16 = 15 then 4
  else 2

def timestamp? (s : String) : Option Timestamp := do
  let bs := bytesOf s
  let place ← separatorPlace? bs
  let date ← readDate? place bs
  let rest := bs.drop place
  if rest.isEmpty then Timestamp.ofParts? date 0 0 0 0 none
  else readTime? date (rest.drop (leadLength (peek rest)))

/-! ## Writing -/

def padded (width n : Nat) : String :=
  let digits := Nat.toDigits 10 n
  String.ofList (List.replicate (width - digits.length) '0' ++ digits)

def dateText (d : Date) : String :=
  padded 4 d.year ++ "-" ++ padded 2 d.month ++ "-" ++ padded 2 d.day

/-- Microseconds as a clock text; the parts smaller than minutes only where they are not zero. -/
def offsetText (offset : Int) : String :=
  let n := offset.natAbs
  let seconds := n / 1000000 % 60
  let micros := n % 1000000
  (if offset < 0 then "-" else "+") ++ padded 2 (n / 3600000000) ++ ":"
    ++ padded 2 (n / 60000000 % 60)
    ++ (if seconds = 0 ∧ micros = 0 then "" else ":" ++ padded 2 seconds)
    ++ (if micros = 0 then "" else "." ++ padded 6 micros)

def timestampText (separator : String) (t : Timestamp) : String :=
  dateText t.date ++ separator ++ padded 2 t.hour ++ ":" ++ padded 2 t.minute ++ ":"
    ++ padded 2 t.second ++ (if t.micro = 0 then "" else "." ++ padded 6 t.micro)
    ++ (t.offset.map offsetText).getD ""

end Iso

end EntityStore
