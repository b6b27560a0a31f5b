import EntityStore.Validation.Host

/-!
# Web addresses

An address is accepted when it names a host. Blanks around it and line breaks within it are passed
over, as are the number of slashes of the schemes that always name a machine.
-/

namespace EntityStore

namespace WebAddress

inductive SchemeKind where
  | file
  | special
  | other
  deriving DecidableEq, Repr

def specialSchemes : List String := ["http", "https", "ws", "wss", "ftp"]

def isSchemeChar (c : Char) : Bool := c.isAlphanum || c = '+' || c = '-' || c = '.'

/-- The kind of the scheme, and what follows its colon. -/
def splitScheme? (cs : List Char) : Option (SchemeKind × List Char) :=
  let name := cs.takeWhile isSchemeChar
  if ¬ cs.head?.any Char.isAlpha then none
  else
    match cs.dropWhile isSchemeChar with
    | ':' :: rest =>
      let lower := String.ofList (name.map Char.toLower)
      let kind := if lower = "file" then .file
        else if specialSchemes.contains lower then .special else .other
      some (kind, rest)
    | _ => none

def isSlash (backslash : Bool) (c : Char) : Bool := c = '/' || (backslash && c = '\\')

/-- Whether a character ends the part of an address that names the host. -/
def endsAuthority (backslash : Bool) (c : Char) : Bool := isSlash backslash c || c = '?' || c = '#'

/-- What follows the last `@`. -/
def afterLastAt (cs : List Char) : List Char :=
  (cs.reverse.takeWhile (· ≠ '@')).reverse

/-- The host: up to the first colon outside brackets. -/
def takeHost : Bool → List Char → List Char
  | _, [] => []
  | inside, c :: rest =>
    if c = ':' ∧ ¬ inside then []
    else c :: takeHost (if c = '[' then true else if c = ']' then false else inside) rest

/-- Digits up to 65535, or nothing; `rest` begins with the colon, if there is one. -/
def isPort (rest : List Char) : Bool :=
  match rest with
  | [] => true
  | _ :: digits =>
    digits.all Char.isDigit && (digits.isEmpty || (Host.radixValue? 10 digits).any (· ≤ 65535))

/-- User, host and port of an address of a scheme other than `file`. -/
def authorityNamesHost (special : Bool) (cs : List Char) : Bool :=
  let authority := cs.takeWhile (! endsAuthority special ·)
  let location := afterLastAt authority
  let host := takeHost false location
  let rest := location.drop host.length
  let portText := if special then rest else rest.takeWhile (· ≠ '\\')
  (if special then Host.isSpecialHost host else Host.isOpaqueHost host) && isPort portText

/-- A letter with a colon or a bar, which names a drive. -/
def isDrive (cs : List Char) : Bool :=
  match cs with
  | [a, b] => a.isAlpha && (b = ':' || b = '|')
  | _ => false

/-- A file address names a host other than the local one, unless its path begins with a drive. -/
def fileNamesHost (cs : List Char) : Bool :=
  match cs with
  | a :: b :: rest =>
    if ¬ isSlash true a ∨ ¬ isSlash true b then false
    else
      let host := rest.takeWhile (! endsAuthority true ·)
      let path := rest.drop host.length
      let first := (path.drop 1).takeWhile (! endsAuthority true ·)
      let startsDrive := path.head?.any (isSlash true) && isDrive first
      !host.isEmpty && !isDrive host && Host.isSpecialHost host
        && Host.domain? host ≠ some "localhost".toList && !startsDrive
  | _ => false

def isEdge (c : Char) : Bool := c.toNat ≤ 32

/-- The address without blanks at its ends, and without tabs and line breaks. -/
def clean (s : String) : List Char :=
  let trimmed := ((s.toList.dropWhile isEdge).reverse.dropWhile isEdge).reverse
  trimmed.filter fun c => c ≠ '\t' && c ≠ '\n' && c ≠ '\r'

def namesHost (s : String) : Bool :=
  match splitScheme? (clean s) with
  | none => false
  | some (.file, rest) => fileNamesHost rest
  | some (.special, rest) => authorityNamesHost true (rest.dropWhile (isSlash true))
  | some (.other, '/' :: '/' :: rest) => authorityNamesHost false rest
  | some (.other, _) => false

end WebAddress

end EntityStore
