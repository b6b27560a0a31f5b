import EntityStore.Json.Reader
import EntityStore.Text.LetterCase
import EntityStore.Text.Printable
import EntityStore.Text.Percent

/-!
# Hosts of web addresses

A host is a domain name, an IPv4 address, an IPv6 address in brackets, or, for addresses of schemes
without rules of their own, an opaque name. Domain names may be percent-encoded and may hold
characters outside ASCII, as themselves or in their ASCII form.
-/

namespace EntityStore

namespace Host

def splitBy (separator : Char) : List Char → List (List Char)
  | [] => [[]]
  | c :: rest =>
    match splitBy separator rest with
    | [] => [[c]]
    | part :: parts => if c = separator then [] :: part :: parts else (c :: part) :: parts

/-! ## IPv4 -/

def radixValue? (radix : Nat) (cs : List Char) : Option Nat :=
  cs.foldl (fun acc c => acc.bind fun n =>
    (Json.hexDigit? c).bind fun d => if d < radix then some (radix * n + d) else none) (some 0)

/-- A number in decimal, in octal after a zero, or in hexadecimal after `0x`. -/
def addressNumber? (cs : List Char) : Option Nat :=
  match cs with
  | [] => none
  | '0' :: 'x' :: rest => radixValue? 16 rest
  | '0' :: c :: rest => radixValue? 8 (c :: rest)
  | _ => radixValue? 10 cs

def dropLastEmpty (parts : List (List Char)) : List (List Char) :=
  if parts.getLast? = some [] then parts.dropLast else parts

/-- Whether the last label is a number, so that the whole can only be an IPv4 address. -/
def endsInNumber (domain : List Char) : Bool :=
  match (dropLastEmpty (splitBy '.' domain)).getLast? with
  | none => false
  | some last => (!last.isEmpty && last.all Char.isDigit) || (addressNumber? last).isSome

/-- Up to four numbers; the last one fills the bytes that the others leave. -/
def isIPv4 (domain : List Char) : Bool :=
  match (dropLastEmpty (splitBy '.' domain)).mapM addressNumber? with
  | none => false
  | some numbers =>
    numbers.length ≤ 4 && numbers.dropLast.all (· ≤ 255)
      && numbers.getLast?.getD 0 < Nat.pow 256 (5 - numbers.length)

/-! ## IPv6 -/

/-- A decimal byte without leading zeros. -/
def isByteText (cs : List Char) : Bool :=
  !cs.isEmpty && cs.all Char.isDigit && (cs.length = 1 || cs.head? ≠ some '0')
    && (radixValue? 10 cs).any (· ≤ 255)

def isDottedQuad (cs : List Char) : Bool :=
  let parts := splitBy '.' cs
  parts.length = 4 && parts.all isByteText

def isPiece (cs : List Char) : Bool :=
  !cs.isEmpty && cs.length ≤ 4 && cs.all fun c => (Json.hexDigit? c).isSome

/-- The number of 16-bit pieces of a sequence; a dotted quad at the end makes two. -/
def pieceCount? (quadAllowed : Bool) (cs : List Char) : Option Nat :=
  if cs.isEmpty then some 0
  else
    let parts := splitBy ':' cs
    let last := parts.getLast?.getD []
    if parts.all isPiece then some parts.length
    else if quadAllowed ∧ parts.dropLast.all isPiece ∧ isDottedQuad last then
      some (parts.length + 1)
    else none

/-- What stands before and after the first double colon. -/
def splitAtGap : List Char → Option (List Char × List Char)
  | ':' :: ':' :: rest => some ([], rest)
  | c :: rest => (splitAtGap rest).map fun (a, b) => (c :: a, b)
  | [] => none

/-- Eight pieces, or fewer with a gap between them. -/
def isIPv6 (cs : List Char) : Bool :=
  match splitAtGap cs with
  | none => pieceCount? true cs = some 8
  | some (before, after) =>
    match pieceCount? false before, pieceCount? true after with
    | some m, some n => m + n ≤ 7
    | _, _ => false

/-! ## Names in ASCII form -/

def punycodeDigit? (c : Char) : Option Nat :=
  if 'a' ≤ c && c ≤ 'z' then some (c.toNat - 97)
  else if c.isDigit then some (c.toNat - 48 + 26)
  else none

def threshold (k bias : Nat) : Nat :=
  if k ≤ bias then 1 else if bias + 26 ≤ k then 26 else k - bias

def adapt (delta count : Nat) (isFirst : Bool) : Nat :=
  let scaled := if isFirst then delta / 700 else delta / 2
  let rec shrink : Nat → Nat → Nat → Nat × Nat
    | 0, d, k => (d, k)
    | steps + 1, d, k => if 455 < d then shrink steps (d / 35) (k + 36) else (d, k)
  let start := scaled + scaled / count
  let (d, k) := shrink start start 0
  k + 36 * d / (d + 38)

/-- A number of variable length, added to `i`. -/
def punycodeNumber? (bias : Nat) : List Char → Nat → Nat → Nat → Option (Nat × List Char)
  | [], _, _, _ => none
  | c :: rest, k, weight, i =>
    (punycodeDigit? c).bind fun d =>
      let t := threshold k bias
      if d < t then some (i + d * weight, rest)
      else punycodeNumber? bias rest (k + 36) (weight * (36 - t)) (i + d * weight)

/-- Inserts the characters that the numbers tell, one at each step. -/
def insertPunycode : Nat → Nat → Nat → Nat → List Char → List Char → Option (List Char)
  | _, _, _, _, out, [] => some out
  | 0, _, _, _, _, _ => none
  | steps + 1, bias, n, i, out, cs =>
    (punycodeNumber? bias cs 36 1 i).bind fun (j, rest) =>
      let count := out.length + 1
      let code := n + j / count
      let place := j % count
      if code < 0x110000 ∧ ¬ (0xd800 ≤ code ∧ code < 0xe000) then
        insertPunycode steps (adapt (j - i) count (i = 0)) code (place + 1)
          (out.insertIdx place (Char.ofNat code)) rest
      else none

/-- The label that an ASCII form stands for. -/
def ofPunycode? (cs : List Char) : Option (List Char) :=
  let tail := (cs.reverse.takeWhile (· ≠ '-')).reverse
  let head := (cs.take (cs.length - tail.length)).dropLast
  insertPunycode cs.length 72 128 0 head tail

/-! ## Domain names -/

/-- Characters that end or divide the parts of an address. -/
def isForbidden (c : Char) : Bool :=
  c.toNat ≤ 32 || c.toNat = 127 || "%#/:<>?@[\\]^|".toList.contains c

/-- Characters that leave no trace in a name. -/
def isIgnored (c : Char) : Bool :=
  let n := c.toNat
  n = 0xad || n = 0x200b || n = 0x2060 || n = 0x2064 || n = 0xfeff || (0xfe00 ≤ n && n ≤ 0xfe0f)

/-- Lower case, full-width forms in ASCII, and ideographic full stops as points. -/
def foldChar (c : Char) : Char :=
  let n := c.toNat
  let narrow :=
    if 0xff01 ≤ n ∧ n ≤ 0xff5e then Char.ofNat (n - 0xfee0)
    else if n = 0x3002 ∨ n = 0xff61 then '.'
    else c
  toLower narrow

def isNameChar (c : Char) : Bool :=
  if c.toNat < 128 then !isForbidden c else isPrintable c && c.toNat ≠ 0xfffd

def isLabel (label : List Char) : Bool :=
  match label with
  | 'x' :: 'n' :: '-' :: '-' :: rest =>
    match ofPunycode? rest with
    | none => false
    | some decoded =>
      decoded.any (128 ≤ ·.toNat) && decoded.all fun c => isNameChar c && foldChar c = c
  | _ => label.all isNameChar

/-- A domain name as it is looked up, or none if it is no name. -/
def domain? (cs : List Char) : Option (List Char) :=
  (Utf8.decode? (Percent.decodeBytes (String.ofList cs).toUTF8.toList)).bind fun text =>
    let folded := (text.toList.filter (! isIgnored ·)).map foldChar
    if !folded.isEmpty ∧ (splitBy '.' folded).all isLabel then some folded else none

/-- The text between the brackets of an IPv6 address. -/
def bracketed? (cs : List Char) : Option (List Char) :=
  if cs.head? = some '[' then
    some (if 2 ≤ cs.length ∧ cs.getLast? = some ']' then cs.tail.dropLast else [])
  else none

/-- A host of a scheme that names machines. -/
def isSpecialHost (cs : List Char) : Bool :=
  match bracketed? cs with
  | some inner => isIPv6 inner
  | none =>
    match domain? cs with
    | none => false
    | some domain => if endsInNumber domain then isIPv4 domain else true

/-- A host of any other scheme; it may hold percent signs. -/
def isOpaqueHost (cs : List Char) : Bool :=
  match bracketed? cs with
  | some inner => isIPv6 inner
  | none => !cs.isEmpty && cs.all fun c =>
      c ≠ '\x00' && c ≠ ' ' && !"#/:<>?@[\\]^|".toList.contains c

end Host

end EntityStore
