import EntityStore.Value

/-!
# Reading JSON

A text is read strictly, with the names `NaN`, `Infinity` and `-Infinity` as further numbers. Whole
numbers stay exact, all others become binary numbers. Of entries with one key the last counts, at
the place of the first. The flaw that is reported is the first one met, with its position.
-/

namespace EntityStore

namespace Json

inductive Fault where
  | byteOrderMark
  | expectedValue
  | expectedName
  | expectedColon
  | expectedComma
  | extraData
  | controlCharacter
  | unterminatedText
  | badEscape
  | badCodeEscape
  deriving DecidableEq, Repr

def Fault.message : Fault → String
  | byteOrderMark => "Unexpected UTF-8 BOM (decode using utf-8-sig)"
  | expectedValue => "Expecting value"
  | expectedName => "Expecting property name enclosed in double quotes"
  | expectedColon => "Expecting ':' delimiter"
  | expectedComma => "Expecting ',' delimiter"
  | extraData => "Extra data"
  | controlCharacter => "Invalid control character at"
  | unterminatedText => "Unterminated string starting at"
  | badEscape => "Invalid \\escape"
  | badCodeEscape => "Invalid \\uXXXX escape"

inductive Flaw where
  | fault (what : Fault) (position : Nat)
  | numberTooLong (digits : Nat)
  deriving DecidableEq, Repr

/-- A flaw while reading, placed by the number of characters left. -/
inductive Stop where
  | fault (what : Fault) (left : Nat)
  | numberTooLong (digits : Nat)

abbrev Step (α : Type) := Except Stop (α × List Char)

def stopAt {α : Type} (what : Fault) (cs : List Char) : Step α := .error (.fault what cs.length)

def isSpace (c : Char) : Bool := c = ' ' || c = '\t' || c = '\n' || c = '\r'

def skipSpace (cs : List Char) : List Char := cs.dropWhile isSpace

/-! ## Texts -/

def hexDigit? (c : Char) : Option Nat :=
  if c.isDigit then some (c.toNat - 48)
  else if 'a' ≤ c && c ≤ 'f' then some (c.toNat - 87)
  else if 'A' ≤ c && c ≤ 'F' then some (c.toNat - 55)
  else none

/-- Four hexadecimal digits that are not the last characters. -/
def codeUnit? : List Char → Option (Nat × List Char)
  | a :: b :: c :: d :: e :: rest => do
    let w ← hexDigit? a
    let x ← hexDigit? b
    let y ← hexDigit? c
    let z ← hexDigit? d
    some (((w * 16 + x) * 16 + y) * 16 + z, e :: rest)
  | _ => none

def isHighUnit (n : Nat) : Bool := 0xd800 ≤ n && n < 0xdc00
def isLowUnit (n : Nat) : Bool := 0xdc00 ≤ n && n < 0xe000

def joinUnits (high low : Nat) : Nat := 0x10000 + (high - 0xd800) * 1024 + (low - 0xdc00)

/-- The character of a code escape whose digits follow; `atU` begins with its letter. Two units of
a pair are joined, and a unit without its partner stands for the replacement character. -/
def codeEscape (atU : List Char) : Step Char :=
  match codeUnit? atU.tail with
  | none => stopAt .badCodeEscape atU
  | some (unit, rest) =>
    if isHighUnit unit then
      match rest with
      | '\\' :: 'u' :: digits =>
        if digits.length ≤ 4 then .ok ('\ufffd', rest)
        else
          match codeUnit? digits with
          | none => stopAt .badCodeEscape ('u' :: digits)
          | some (low, after) =>
            if isLowUnit low then .ok (Char.ofNat (joinUnits unit low), after)
            else .ok ('\ufffd', rest)
      | _ => .ok ('\ufffd', rest)
    else if isLowUnit unit then .ok ('\ufffd', rest)
    else .ok (Char.ofNat unit, rest)

def simpleEscape? (c : Char) : Option Char :=
  [('"', '"'), ('\\', '\\'), ('/', '/'), ('b', '\x08'), ('f', '\x0c'), ('n', '\n'), ('r', '\r'),
    ('t', '\t')].lookup c

/-- The characters of a text up to its closing quote, in reverse; `start` begins with the opening
quote. -/
def textBody (start : List Char) : Nat → List Char → List Char → Step (List Char)
  | 0, _, _ => stopAt .unterminatedText start
  | _ + 1, _, [] => stopAt .unterminatedText start
  | steps + 1, soFar, '"' :: rest => let _ := steps; .ok (soFar, rest)
  | steps + 1, soFar, '\\' :: rest =>
    match rest with
    | [] => stopAt .unterminatedText start
    | 'u' :: _ =>
      match codeEscape rest with
      | .error e => .error e
      | .ok (c, after) => textBody start steps (c :: soFar) after
    | c :: after =>
      match simpleEscape? c with
      | some e => textBody start steps (e :: soFar) after
      | none => stopAt .badEscape ('\\' :: rest)
  | steps + 1, soFar, c :: rest =>
    if c.toNat < 32 then stopAt .controlCharacter (c :: rest)
    else textBody start steps (c :: soFar) rest

/-- A text whose opening quote is at the front. -/
def readText (cs : List Char) : Step String :=
  match textBody cs (cs.length + 1) [] cs.tail with
  | .ok (chars, rest) => .ok (String.ofList chars.reverse, rest)
  | .error e => .error e

/-! ## Numbers -/

def maxDigits : Nat := 4300

/-- The fraction digits, where a point is followed by a digit. -/
def fractionPart (cs : List Char) : Option (List Char) × List Char :=
  match cs with
  | '.' :: rest =>
    let digits := rest.takeWhile Char.isDigit
    if digits.isEmpty then (none, cs) else (some digits, rest.dropWhile Char.isDigit)
  | _ => (none, cs)

def exponentPart (cs : List Char) : Option Int × List Char :=
  match cs with
  | c :: rest =>
    if c = 'e' ∨ c = 'E' then
      let (negative, body) := Decimal.splitSign rest
      let digits := body.takeWhile Char.isDigit
      if digits.isEmpty then (none, cs)
      else
        let n := (Decimal.digitsValue? digits).getD 0
        (some (if negative then -(n : Int) else n), body.dropWhile Char.isDigit)
    else (none, cs)
  | [] => (none, cs)

/-- A number without leading zeros; `none` where no number begins. -/
def readNumber? (cs : List Char) : Option (Step Value) :=
  let (negative, body) := match cs with
    | '-' :: rest => (true, rest)
    | _ => (false, cs)
  match body with
  | [] => none
  | c :: after =>
    if ¬ c.isDigit then none
    else
      let digits := if c = '0' then ['0'] else body.takeWhile Char.isDigit
      let rest := if c = '0' then after else body.dropWhile Char.isDigit
      let (fraction, rest) := fractionPart rest
      let (exponent, rest) := exponentPart rest
      some <|
        match fraction, exponent with
        | none, none =>
          if maxDigits < digits.length then .error (.numberTooLong digits.length)
          else
            let n := (Decimal.digitsValue? digits).getD 0
            .ok (.int (if negative then -(n : Int) else n), rest)
        | _, _ =>
          let all := digits ++ fraction.getD []
          let coeff := (Decimal.digitsValue? all).getD 0
          let exp := exponent.getD 0 - (fraction.getD []).length
          .ok (.float (Binary64.ofScaled negative coeff exp), rest)

def names : List (String × Value) :=
  [("null", .null), ("true", .bool true), ("false", .bool false), ("NaN", .float .nan),
    ("Infinity", .float (.infinity false)), ("-Infinity", .float (.infinity true))]

/-- A name at the front. -/
def readName? (cs : List Char) : Option (Value × List Char) :=
  names.findSome? fun (name, v) =>
    if name.toList.isPrefixOf cs then some (v, cs.drop name.length) else none

/-! ## Values -/

/-- Puts an entry in place: a key that is there keeps its place and takes the new value. -/
def putEntry (entries : List (String × Value)) (key : String) (v : Value) :
    List (String × Value) :=
  if entries.any (·.1 = key) then entries.map fun e => if e.1 = key then (key, v) else e
  else entries ++ [(key, v)]

mutual

def readValue : Nat → List Char → Step Value
  | 0, cs => stopAt .expectedValue cs
  | steps + 1, cs =>
    match cs with
    | '"' :: _ =>
      match readText cs with
      | .ok (s, rest) => .ok (.text s, rest)
      | .error e => .error e
    | '\x7b' :: rest =>
      match skipSpace rest with
      | '\x7d' :: after => .ok (.mapping [], after)
      | inner => readEntries steps [] inner
    | '[' :: rest =>
      match skipSpace rest with
      | ']' :: after => .ok (.list [], after)
      | inner => readItems steps [] inner
    | _ =>
      match readName? cs with
      | some found => .ok found
      | none =>
        match readNumber? cs with
        | some step => step
        | none => stopAt .expectedValue cs

/-- The items of an array up to its closing bracket; `soFar` is in reverse. -/
def readItems : Nat → List Value → List Char → Step Value
  | 0, _, cs => stopAt .expectedValue cs
  | steps + 1, soFar, cs =>
    match readValue steps cs with
    | .error e => .error e
    | .ok (v, rest) =>
      match skipSpace rest with
      | ']' :: after => .ok (.list (v :: soFar).reverse, after)
      | ',' :: after => readItems steps (v :: soFar) (skipSpace after)
      | other => stopAt .expectedComma other

/-- The entries of an object up to its closing brace. -/
def readEntries : Nat → List (String × Value) → List Char → Step Value
  | 0, _, cs => stopAt .expectedName cs
  | steps + 1, soFar, cs =>
    match cs with
    | '"' :: _ =>
      match readText cs with
      | .error e => .error e
      | .ok (key, rest) =>
        match skipSpace rest with
        | ':' :: after =>
          match readValue steps (skipSpace after) with
          | .error e => .error e
          | .ok (v, rest) =>
            let entries := putEntry soFar key v
            match skipSpace rest with
            | '\x7d' :: after => .ok (.mapping entries, after)
            | ',' :: after => readEntries steps entries (skipSpace after)
            | other => stopAt .expectedComma other
        | other => stopAt .expectedColon other
    | _ => stopAt .expectedName cs

end

/-- Reads one value that fills the text, blanks around it aside. -/
def read (s : String) : Except Flaw Value :=
  let cs := s.toList
  let place (left : Nat) : Nat := cs.length - left
  if cs.head? = some '\ufeff' then .error (.fault .byteOrderMark 0)
  else
    match readValue (3 * cs.length + 3) (skipSpace cs) with
    | .error (.fault what left) => .error (.fault what (place left))
    | .error (.numberTooLong n) => .error (.numberTooLong n)
    | .ok (v, rest) =>
      let rest := skipSpace rest
      if rest.isEmpty then .ok v else .error (.fault .extraData (place rest.length))

end Json

end EntityStore
