import EntityStore.Console.Line
import EntityStore.Console.Markup
import EntityStore.Number.Decimal

/-!
# Tables

A table is drawn as wide as its texts ask for, if there is room. If not, the widest columns are
narrowed first, and a word that its column cannot hold is cut off.
-/

namespace EntityStore

namespace Console

/-- A column of a table: its title and its cells, as marked-up texts. -/
structure GridColumn where
  header : String
  cells : List String
  deriving DecidableEq, Repr

structure Grid where
  title : String
  columns : List GridColumn
  deriving DecidableEq, Repr

/-- A column as it is shown. -/
structure ShownColumn where
  header : List Char
  cells : List (List Char)

namespace GridColumn

def shown (c : GridColumn) : Except MarkupFlaw ShownColumn := do
  return ⟨← render c.header, ← c.cells.mapM render⟩

end GridColumn

/-! ## Widths -/

/-- Ends of lines that count when a text is measured. -/
def endsLine (c : Char) : Bool :=
  (10 ≤ c.toNat && c.toNat ≤ 13) || (28 ≤ c.toNat && c.toNat ≤ 30) || c.toNat = 0x85
    || c.toNat = 0x2028 || c.toNat = 0x2029

/-- The width of the widest line. -/
def textWidth (cs : List Char) : Nat := ((splitAt endsLine cs).map width).foldl max 0

/-- Blanks beside the texts of a column. -/
def gutter : Nat := 2

namespace ShownColumn

/-- The width that a column asks for where `limit` cells are left. -/
def measure (limit : Nat) (c : ShownColumn) : Nat :=
  if limit ≤ gutter then limit
  else min limit (((c.header :: c.cells).map textWidth).foldl max 0 + gutter)

end ShownColumn

/-- The cells that some widths take together. -/
def total (widths : List Nat) : Nat := widths.foldl (· + ·) 0

/-- Takes cells off some widths, spread evenly and in order. `count` of the widths are eligible. -/
def spread (isEligible : Nat → Bool) (most : Nat → Nat) : Nat → Nat → List Nat → List Nat
  | _, _, [] => []
  | excess, count, w :: rest =>
    if isEligible w then
      let share := min (most w) (roundHalfEven excess count)
      (w - share) :: spread isEligible most (excess - share) (count - 1) rest
    else w :: spread isEligible most excess count rest

def takeOff (isEligible : Nat → Bool) (most : Nat → Nat) (excess : Nat) (widths : List Nat) :
    List Nat :=
  spread isEligible most excess (widths.countP isEligible) widths

/-- Narrows the widest widths towards the next ones until all fit; each round takes off at least one
cell. -/
def narrow (limit : Nat) : Nat → List Nat → List Nat
  | 0, widths => widths
  | rounds + 1, widths =>
    let excess := total widths - limit
    let widest := widths.foldl max 0
    let next := (widths.filter (· ≠ widest)).foldl max 0
    if excess = 0 ∨ widest = next then widths
    else
      narrow limit rounds (takeOff (· = widest) (fun _ => min excess (widest - next)) excess widths)

/-- The widths of columns that share `limit` cells. -/
def columnWidths (limit : Nat) (columns : List ShownColumn) : List Nat :=
  let wanted := columns.map fun c => max 1 (c.measure limit)
  if total wanted ≤ limit then wanted
  else
    let narrowed := narrow limit (total wanted) wanted
    let fitted := takeOff (0 < ·) id (total narrowed - limit) narrowed
    (fitted.zip columns).map fun (w, c) => c.measure w

/-! ## Drawing -/

/-- The lines of a text in a column, blanks beside it included. -/
def cellLines (size : Nat) (cs : List Char) : List (List Char) :=
  if size ≤ gutter then []
  else (wrap (size - gutter) .ellipsis cs).map fun line =>
    [' '] ++ padTo (size - gutter) line ++ [' ']

/-- Fills up the lines of a cell; titles stand at the bottom of their row, cells at its top. -/
def fillCell (atBottom : Bool) (height size : Nat) (lines : List (List Char)) : List (List Char) :=
  let blank := List.replicate (height - lines.length) (spaces size)
  if atBottom then blank ++ lines else lines ++ blank

def joinLine (edge : Char) (parts : List (List Char)) : List Char :=
  [edge] ++ (parts.intersperse [edge]).flatten ++ [edge]

def drawRow (isHeader : Bool) (widths : List Nat) (texts : List (List Char)) :
    List (List Char) :=
  let cells := (widths.zip texts).map fun (w, cs) => cellLines w cs
  let height := (cells.map (·.length)).foldl max 1
  let filled := (widths.zip cells).map fun (w, lines) => fillCell isHeader height w lines
  (List.range height).map fun i =>
    joinLine (if isHeader then '┃' else '│') (filled.map fun lines => lines.getD i [])

/-- A rule: its left end, the line, the crossings and its right end. -/
def drawRule (left line crossing right : Char) (widths : List Nat) : List Char :=
  [left] ++ ((widths.map fun w => List.replicate w line).intersperse [crossing]).flatten ++ [right]

def drawFrame (widths : List Nat) (columns : List ShownColumn) : List (List Char) :=
  let height := ((columns.map (·.cells.length)).head?).getD 0
  [drawRule '┏' '━' '┳' '┓' widths]
    ++ drawRow true widths (columns.map (·.header))
    ++ [drawRule '┡' '━' '╇' '┩' widths]
    ++ (List.range height).flatMap (fun i =>
      drawRow false widths (columns.map fun c => c.cells.getD i []))
    ++ [drawRule '└' '─' '┴' '┘' widths]

namespace Grid

/-- The lines of a table that may take `room` cells, its title above it; a table without columns is
one empty line. -/
def draw (room : Nat) (g : Grid) : Except MarkupFlaw (List (List Char)) :=
  if g.columns.isEmpty then .ok [[]]
  else do
    let columns ← g.columns.mapM GridColumn.shown
    let frame := columns.length + 1
    let widths := columnWidths (room - frame) columns
    let size := total widths + frame
    let title ← if g.title.isEmpty then pure []
      else (render g.title).map fun cs => (wrap size .fold cs).map (center size)
    return (title ++ drawFrame widths columns).map (crop room)

end Grid

end Console

end EntityStore
