import EntityStore.Text.WordChar

/-!
# Parts of a text

Taking blanks off the ends of a text, and taking a text apart at separators.
-/

namespace EntityStore

def trimEnd (cs : List Char) : List Char := (cs.reverse.dropWhile isBlank).reverse

def trimBlanks (cs : List Char) : List Char := trimEnd (cs.dropWhile isBlank)

/-- The parts between separators; there is always at least one. -/
def splitAt (isSeparator : Char → Bool) : List Char → List (List Char)
  | [] => [[]]
  | c :: rest =>
    if isSeparator c then [] :: splitAt isSeparator rest
    else
      match splitAt isSeparator rest with
      | first :: others => (c :: first) :: others
      | [] => [[c]]

/-- The texts between the places of one character. -/
def splitText (separator : Char) (s : String) : List String :=
  (splitAt (· = separator) s.toList).map String.ofList

end EntityStore
