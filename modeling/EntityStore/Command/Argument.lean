import EntityStore.Entity.Descriptor
import EntityStore.Failure
import EntityStore.Json.Reader
import EntityStore.Text.Parts

/-!
# Arguments of commands

Payloads are given as JSON objects and filters as `name=value` pairs. The value of a filter stays
text, for the rules of its field to read.
-/

namespace EntityStore

namespace Argument

/-- Why a text holds no payload. -/
def jsonFailure : Json.Flaw → Failure
  | .fault what position =>
    .plain .badValue
      ("Invalid JSON: " ++ what.message ++ " (position " ++ toString position ++ ")")
  | .numberTooLong digits => .digitLimit digits

/-- Reads a payload: a JSON object. -/
def payload (text : String) : Except Failure (List (String × Value)) :=
  match Json.read text with
  | .error flaw => .error (jsonFailure flaw)
  | .ok (.mapping entries) => .ok entries
  | .ok _ => .error (.plain .badValue "Expected a JSON object")

/-- The word `null` stands for null, and on flags the words `true` and `false` for truth values. -/
def filterValue (d : Descriptor) (name raw : String) : Value :=
  if raw = "null" then .null
  else if (d.field? name).any (·.kind = .boolean) ∧ (raw = "true" ∨ raw = "false") then
    .bool (raw = "true")
  else .text raw

/-- Reads a pair: all up to the first equals sign is the name, blanks around it aside. -/
def filter (d : Descriptor) (pair : String) : Except Failure (String × Value) :=
  let name := pair.toList.takeWhile (· ≠ '=')
  match pair.toList.dropWhile (· ≠ '=') with
  | [] =>
    .error (.plain .badValue
      ("Invalid filter: '" ++ pair ++ "'. Expected format: name=value"))
  | _ :: raw =>
    let name := String.ofList (trimBlanks name)
    .ok (name, filterValue d name (String.ofList raw))

/-- Reads the pairs in order; of pairs with one name the last counts. -/
def filters (d : Descriptor) (pairs : List String) : Except Failure (List (String × Value)) :=
  pairs.foldlM
    (fun entries pair => (filter d pair).map fun (name, v) => Json.putEntry entries name v) []

end Argument

end EntityStore
