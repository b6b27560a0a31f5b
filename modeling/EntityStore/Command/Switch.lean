/-!
# Switches

The arguments of a command are switches and words. A switch has a long form, and may have a letter;
letters can be written together. The value of a switch stands behind it or, after an equals sign, in
the same argument. Two dashes alone end the switches.
-/

namespace EntityStore

inductive Switch where
  | database
  | echo
  | json
  | verbose
  | help
  | fromFile
  | filter
  | limit
  | offset
  | orderBy
  | direction
  | dialect
  deriving DecidableEq, Repr

/-- Why arguments make no command. -/
inductive UsageFlaw where
  | noSuchSwitch (text : String)
  | missingValue (switch : Switch)
  | unexpectedValue (switch : Switch)
  | badInteger (switch : Switch) (text : String)
  | badChoice (switch : Switch) (text : String)
  | missingCommand
  | noSuchCommand (name : String)
  | missingWord (name : String)
  | unexpectedWord (text : String)
  deriving DecidableEq, Repr

namespace Switch

def long : Switch → String
  | database => "--database"
  | echo => "--echo"
  | json => "--json"
  | verbose => "--verbose"
  | help => "--help"
  | fromFile => "--from-file"
  | filter => "--where"
  | limit => "--limit"
  | offset => "--offset"
  | orderBy => "--order-by"
  | direction => "--direction"
  | dialect => "--dialect"

def letter? : Switch → Option Char
  | database => some 'd'
  | echo => some 'e'
  | json => some 'j'
  | verbose => some 'v'
  | fromFile => some 'f'
  | filter => some 'w'
  | limit => some 'n'
  | help | offset | orderBy | direction | dialect => none

def takesValue : Switch → Bool
  | echo | json | verbose | help => false
  | _ => true

end Switch

namespace UsageFlaw

def message : UsageFlaw → String
  | noSuchSwitch text => "No such option: " ++ text
  | missingValue switch => "Option '" ++ switch.long ++ "' requires an argument."
  | unexpectedValue switch => "Option '" ++ switch.long ++ "' does not take a value."
  | badInteger switch text =>
    "Invalid value for '" ++ switch.long ++ "': '" ++ text ++ "' is not a valid integer."
  | badChoice switch text =>
    "Invalid value for '" ++ switch.long ++ "': '" ++ text ++ "' is not a choice."
  | missingCommand => "Missing command."
  | noSuchCommand name => "No such command '" ++ name ++ "'."
  | missingWord name => "Missing argument '" ++ name ++ "'."
  | unexpectedWord text => "Got unexpected extra argument (" ++ text ++ ")"

end UsageFlaw

/-- Arguments taken apart; a switch without a value stands with an empty one. -/
structure Arguments where
  given : List (Switch × String) := []
  words : List String := []
  deriving DecidableEq, Repr

namespace Arguments

/-- What one argument gives: switches with their values, and a switch that waits for its value. -/
abbrev Taken := List (Switch × String) × Option Switch

/-- Letters written together; the first that takes a value takes all that follows it. -/
def takeLetters (known : List Switch) : List Char → Except UsageFlaw Taken
  | [] => .ok ([], none)
  | c :: rest =>
    match known.find? (·.letter? = some c) with
    | none => .error (.noSuchSwitch ("-" ++ String.singleton c))
    | some s =>
      if s.takesValue then
        if rest.isEmpty then .ok ([], some s) else .ok ([(s, String.ofList rest)], none)
      else (takeLetters known rest).map fun (given, waiting) => ((s, "") :: given, waiting)

def takeLong (s : Switch) (value? : Option String) : Except UsageFlaw Taken :=
  match s.takesValue, value? with
  | true, some value => .ok ([(s, value)], none)
  | true, none => .ok ([], some s)
  | false, some _ => .error (.unexpectedValue s)
  | false, none => .ok ([(s, "")], none)

/-- Takes an argument that begins with a dash. -/
def take (known : List Switch) (argument : String) : Except UsageFlaw Taken :=
  let name := argument.toList.takeWhile (· ≠ '=')
  let value? := match argument.toList.drop name.length with
    | _ :: value => some (String.ofList value)
    | [] => none
  match known.find? (·.long = String.ofList name) with
  | some s => takeLong s value?
  | none =>
    if argument.startsWith "--" then .error (.noSuchSwitch (String.ofList name))
    else takeLetters known (argument.toList.drop 1)

def isSwitch (argument : String) : Bool := argument.startsWith "-" && argument ≠ "-"

def give (given : List (Switch × String)) (a : Arguments) : Arguments :=
  { a with given := given ++ a.given }

/-- Takes arguments apart. Where switches may not stand behind words, the first word ends them. -/
def split (known : List Switch) (isMixed : Bool) : List String → Except UsageFlaw Arguments
  | [] => .ok {}
  | argument :: rest =>
    if argument = "--" then .ok { words := rest }
    else if isSwitch argument then
      match take known argument, rest with
      | .error flaw, _ => .error flaw
      | .ok (given, none), rest => (split known isMixed rest).map (give given)
      | .ok (_, some s), [] => .error (.missingValue s)
      | .ok (given, some s), value :: rest =>
        (split known isMixed rest).map (give (given ++ [(s, value)]))
    else if isMixed then
      (split known isMixed rest).map fun a => { a with words := argument :: a.words }
    else .ok { words := argument :: rest }

def has (s : Switch) (a : Arguments) : Bool := a.given.any (·.1 = s)

/-- The values of a switch in their order. -/
def values (s : Switch) (a : Arguments) : List String :=
  a.given.filterMap fun (t, value) => if t = s then some value else none

/-- The value of a switch; of several the last counts. -/
def value? (s : Switch) (a : Arguments) : Option String := (a.values s).getLast?

end Arguments

end EntityStore
