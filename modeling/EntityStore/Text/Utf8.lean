import EntityStore.Text.Quoted

/-!
# Reading UTF-8

Bytes are read as text strictly. Where they are no UTF-8, `Utf8.fault?` tells the first bytes that
cannot be read, and why.
-/

namespace EntityStore

namespace Utf8

inductive Reason where
  | invalidStart
  | invalidContinuation
  | unexpectedEnd
  deriving DecidableEq, Repr

/-- The first bytes that cannot be read: the lead byte, its position, and how many belong to it. -/
structure Fault where
  lead : UInt8
  position : Nat
  length : Nat
  reason : Reason
  deriving DecidableEq, Repr

/-- The second byte of a sequence has a narrower range after some lead bytes. -/
def secondRange (lead : Nat) : Nat × Nat :=
  if lead = 0xe0 then (0xa0, 0xbf)
  else if lead = 0xed then (0x80, 0x9f)
  else if lead = 0xf0 then (0x90, 0xbf)
  else if lead = 0xf4 then (0x80, 0x8f)
  else (0x80, 0xbf)

/-- The number of bytes that follow a lead byte. -/
def following? (lead : Nat) : Option Nat :=
  if lead < 0x80 then some 0
  else if lead < 0xc2 then none
  else if lead < 0xe0 then some 1
  else if lead < 0xf0 then some 2
  else if lead < 0xf5 then some 3
  else none

/-- Checks the bytes after a lead byte; `taken` counts the bytes of the sequence so far. -/
def checkTail (range : Nat × Nat) (taken : Nat) : Nat → List UInt8 → Option (Nat × Reason)
  | 0, _ => none
  | _ + 1, [] => some (taken, .unexpectedEnd)
  | n + 1, b :: rest =>
    if range.1 ≤ b.toNat ∧ b.toNat ≤ range.2 then checkTail (0x80, 0xbf) (taken + 1) n rest
    else some (taken, .invalidContinuation)

/-- The bytes at the front that are no character: how many, and why. -/
def checkFront (lead : UInt8) (rest : List UInt8) : Option (Nat × Reason) :=
  match following? lead.toNat with
  | none => some (1, .invalidStart)
  | some n => checkTail (secondRange lead.toNat) 1 n rest

/-- Bytes that belong to an earlier character are passed over. -/
def faultFrom (position skip : Nat) : List UInt8 → Option Fault
  | [] => none
  | b :: rest =>
    match skip with
    | n + 1 => faultFrom (position + 1) n rest
    | 0 =>
      match checkFront b rest with
      | some (length, reason) => some ⟨b, position, length, reason⟩
      | none => faultFrom (position + 1) ((following? b.toNat).getD 0) rest

def fault? (bytes : List UInt8) : Option Fault := faultFrom 0 0 bytes

def Reason.message : Reason → String
  | invalidStart => "invalid start byte"
  | invalidContinuation => "invalid continuation byte"
  | unexpectedEnd => "unexpected end of data"

def Fault.message (f : Fault) : String :=
  "'utf-8' codec can't decode "
    ++ (if f.length = 1 then
          "byte 0x" ++ Quoted.hex 2 f.lead.toNat ++ " in position " ++ toString f.position
        else
          "bytes in position " ++ toString f.position ++ "-"
            ++ toString (f.position + f.length - 1))
    ++ ": " ++ f.reason.message

def decode? (bytes : List UInt8) : Option String := String.fromUTF8? ⟨bytes.toArray⟩

/-- The characters of the bytes; every stretch that cannot be read becomes one replacement
character. -/
def lossyChars : Nat → List UInt8 → List Char
  | 0, _ => []
  | _ + 1, [] => []
  | steps + 1, b :: rest =>
    match checkFront b rest with
    | some (length, _) => '\ufffd' :: lossyChars steps ((b :: rest).drop length)
    | none =>
      let length := (following? b.toNat).getD 0 + 1
      let char := ((decode? ((b :: rest).take length)).getD "").toList
      char ++ lossyChars steps ((b :: rest).drop length)

def decodeLossy (bytes : List UInt8) : String := String.ofList (lossyChars bytes.length bytes)

end Utf8

end EntityStore
