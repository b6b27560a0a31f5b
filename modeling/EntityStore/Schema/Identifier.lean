import EntityStore.Entity.Check
import EntityStore.Schema.Digest

/-!
# Generated names

Names of indexes, constraints and triggers are joined from the names of the entity and its fields.
A joined name that is too long for an identifier is cut, and ends in digits of its digest.
-/

namespace EntityStore

/-- The characters kept of a name that is too long; an underscore and eight digits follow. -/
def keptNameLength : Nat := maxIdentifierLength - 9

def digestTail (name : String) : String :=
  Quoted.hex 8 (Sha1.digest name.toUTF8.toList).a

def boundedIdentifier (name : String) : String :=
  if name.length ≤ maxIdentifierLength then name
  else String.ofList (name.toList.take keptNameLength) ++ "_" ++ digestTail name

def indexName (entity field : String) : String :=
  boundedIdentifier ("idx_" ++ entity ++ "_" ++ field)

def constraintName (entity field : String) : String :=
  boundedIdentifier ("uq_" ++ entity ++ "_" ++ field)

def triggerName (entity : String) : String := boundedIdentifier ("trg_" ++ entity ++ "_updated_at")

end EntityStore
