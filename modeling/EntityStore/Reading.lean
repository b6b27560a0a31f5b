import EntityStore.Coercion

/-!
# Reading mappings

A record is read from a mapping attribute by attribute. Every problem is gathered with its place, in
the order of the attributes, before the reading fails.
-/

namespace EntityStore

/-- A reading that gathers every problem. -/
abbrev Gathered (α : Type) := Except (List Problem) α

namespace Gathered

def refuse {α : Type} (cause : Refusal) : Gathered α := .error [⟨[], cause⟩]

def ofRefusal {α : Type} : Except Refusal α → Gathered α
  | .ok a => .ok a
  | .error cause => refuse cause

def within {α : Type} (place : String) : Gathered α → Gathered α
  | .ok a => .ok a
  | .error ps => .error (ps.map (·.within place))

/-- Gives a reading to a function that was itself read; the problems of both count. -/
def and {α β : Type} (f : Gathered (α → β)) (x : Gathered α) : Gathered β :=
  match f, x with
  | .ok f, .ok a => .ok (f a)
  | .error ps, .ok _ => .error ps
  | .ok _, .error ps => .error ps
  | .error ps, .error qs => .error (ps ++ qs)

/-- A reading that stands only if no further problems do. -/
def barring {α : Type} (x : Gathered α) (more : List Problem) : Gathered α :=
  if more.isEmpty then x
  else match x with
    | .ok _ => .error more
    | .error ps => .error (ps ++ more)

end Gathered

namespace Reading

abbrev Entries := List (String × Value)

/-- The items of a list, each read at its position. -/
def items {α : Type} (read : Value → Gathered α) : Nat → List Value → Gathered (List α)
  | _, [] => .ok []
  | i, v :: rest =>
    Gathered.and (Gathered.and (.ok List.cons) ((read v).within (toString i)))
      (items read (i + 1) rest)

def tuple {α : Type} (read : Value → Gathered α) : Value → Gathered (List α)
  | .list vs => items read 0 vs
  | _ => .refuse .notTuple

def optional {α : Type} (entries : Entries) (key : String) (absent : α)
    (read : Value → Gathered α) : Gathered α :=
  match Value.entry? entries key with
  | none => .ok absent
  | some v => (read v).within key

def mandatory {α : Type} (entries : Entries) (key : String) (read : Value → Gathered α) :
    Gathered α :=
  match Value.entry? entries key with
  | none => .error [⟨[key], .missing⟩]
  | some v => (read v).within key

def nullable {α : Type} (read : Value → Gathered α) : Value → Gathered (Option α)
  | .null => .ok none
  | v => (read v).map some

/-- Keys that name no attribute, in the order given. -/
def undeclared (known : List String) (entries : Entries) : List Problem :=
  (entries.filter fun (k, _) => !known.contains k).map fun (k, _) => ⟨[k], .notDeclared⟩

def text (v : Value) : Gathered String := .ofRefusal (Coercion.text v)
def flag (v : Value) : Gathered Bool := .ofRefusal (Coercion.boolean v)

/-- A whole number from zero up. -/
def natural (v : Value) : Gathered Nat :=
  .ofRefusal <| (Coercion.integer v).bind fun n =>
    if n < 0 then .error (.belowMinimum "0") else .ok n.toNat

/-- A whole number from one up. -/
def positive (v : Value) : Gathered Nat :=
  .ofRefusal <| (Coercion.integer v).bind fun n =>
    if n ≤ 0 then .error (.belowLeast "0") else .ok n.toNat

/-- One of a list of words. -/
def word {α : Type} (words : List String) (ofWord? : String → Option α) (v : Value) : Gathered α :=
  let refusal : Gathered α := .refuse (.notOfKind words)
  match Coercion.textLike? v with
  | some (.ok s) =>
    match ofWord? s with
    | some a => .ok a
    | none => refusal
  | _ => refusal

/-- One of a list of words, given as text and nothing else. -/
def literal {α : Type} (words : List String) (ofWord? : String → Option α) : Value → Gathered α
  | .text s =>
    match ofWord? s with
    | some a => .ok a
    | none => .refuse (.notOneOf words)
  | _ => .refuse (.notOneOf words)

end Reading

end EntityStore
