import EntityStore.Console.Grid
import EntityStore.Console.Outline
import EntityStore.Text.LineEnd

/-!
# Blocks of output

What a command prints is a list of blocks, each drawn for a terminal of a fixed width. Marked-up text
may turn out to be flawed; the blocks in front of a flawed one are printed all the same.
-/

namespace EntityStore

namespace Console

/-- The width of a terminal in cells. -/
def terminalWidth : Nat := 100

inductive Block where
  /-- Text that is printed as it is. -/
  | verbatim (text : String)
  /-- A marked-up text, wrapped. -/
  | paragraph (text : String)
  /-- A marked-up text in a frame. -/
  | panel (title text : String)
  | grid (g : Grid)
  /-- Statements, each line filled up to the full width. -/
  | listing (text : String)
  | value (v : Value)

/-! ## Panels -/

def panelTop (title : String) : List Char :=
  let inside := terminalWidth - 2
  let label := [' '] ++ title.toList ++ [' ']
  let left := (inside - width label) / 2
  ['╭'] ++ List.replicate left '─' ++ label
    ++ List.replicate (inside - width label - left) '─' ++ ['╮']

def panelBottom : List Char := ['╰'] ++ List.replicate (terminalWidth - 2) '─' ++ ['╯']

/-- The cells that are left for text beside the frame and one blank on each side of it. -/
def panelRoom : Nat := terminalWidth - 4

def panelLine (line : List Char) : List Char := "│ ".toList ++ padTo panelRoom line ++ " │".toList

def drawPanel (title : String) (text : List Char) : List (List Char) :=
  [panelTop title] ++ (wrap panelRoom .fold text).map panelLine ++ [panelBottom]

/-! ## Listings -/

def listingLine (line : List Char) : List (List Char) :=
  (wrap terminalWidth .fold (strip (expandTabs 4 List.length line))).map (padTo terminalWidth)

/-- The lines of a listing; a byte order mark in front is not shown. Only a line feed at the end
makes an empty last line. -/
def drawListing (text : String) : List (List Char) :=
  let cs := match text.toList with
    | '\ufeff' :: rest => rest
    | cs => cs
  let lines :=
    if cs.getLast? = some '\n' then linesOf (plainLineEnds cs)
    else (linesOf (plainLineEnds (cs ++ ['\n']))).dropLast
  lines.flatMap listingLine

/-! ## Drawing -/

def joinLines (lines : List (List Char)) : String :=
  String.ofList (lines.flatMap fun line => line ++ ['\n'])

namespace Block

def draw : Block → Except MarkupFlaw String
  | verbatim text => .ok (text ++ "\n")
  | paragraph text => (render text).map fun cs => joinLines (wrap terminalWidth .fold cs)
  | panel title text => (render text).map fun cs => joinLines (drawPanel title cs)
  | grid g => (g.draw terminalWidth).map joinLines
  | listing text => .ok (joinLines (drawListing text))
  | value v => .ok (joinLines ((outline 0 "" "" v).map String.toList))

end Block

/-- Output as far as it could be drawn, and the flaw that ended it. -/
structure Printed where
  text : String
  flaw : Option MarkupFlaw
  deriving DecidableEq, Repr

def print : List Block → Printed
  | [] => ⟨"", none⟩
  | b :: rest =>
    match b.draw with
    | .error flaw => ⟨"", some flaw⟩
    | .ok text =>
      let others := print rest
      ⟨text ++ others.text, others.flaw⟩

end Console

end EntityStore
