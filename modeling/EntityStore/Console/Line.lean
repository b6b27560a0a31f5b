import EntityStore.Console.CellWidth
import EntityStore.Text.Parts

/-!
# Lines of a given width

Text is laid out in lines that take at most a given number of cells. A line breaks between words. A
word that no line can hold is either folded over several lines or cut off with a mark.
-/

namespace EntityStore

namespace Console

def spaces (n : Nat) : List Char := List.replicate n ' '

def linesOf (cs : List Char) : List (List Char) := splitAt (· = '\n') cs

/-! ## Tabs -/

/-- Fills each part but the last up to the next tab stop. -/
def fillTabs (size : Nat) (measure : List Char → Nat) (position : Nat) :
    List (List Char) → List Char
  | [] => []
  | [last] => last
  | part :: rest =>
    let reached := position + measure part
    let gap := size - reached % size
    part ++ spaces gap ++ fillTabs size measure (reached + gap) rest

/-- Replaces tabs by blanks up to the next multiple of `size`. -/
def expandTabs (size : Nat) (measure : List Char → Nat) (cs : List Char) : List Char :=
  fillTabs size measure 0 (splitAt (· = '\t') cs)

/-! ## Words -/

/-- Words with the blanks behind them; blanks in front of the first word belong to it. -/
def wordsOf (cs : List Char) : List (List Char) :=
  match cs.splitBy fun a b => !(isBlank a && !isBlank b) with
  | first :: second :: rest =>
    if first.all isBlank then (first ++ second) :: rest else first :: second :: rest
  | few => few

/-- Cuts clusters into pieces of a width, behind a piece that was begun. -/
def chopFrom (size filled : Nat) (piece : List Char) : List Cluster → List (List Char)
  | [] => [piece]
  | c :: rest =>
    if size < filled + c.width then piece :: chopFrom size c.width c.chars rest
    else chopFrom size (filled + c.width) (piece ++ c.chars) rest

def chop (size : Nat) (word : List Char) : List (List Char) := chopFrom size 0 [] (clusters word)

/-! ## Breaking -/

/-- What becomes of a word that no line can hold. -/
inductive Overflow where
  | fold
  | ellipsis
  deriving DecidableEq, Repr

/-- Lines that are finished, with the last one first, and the line at hand with the cells it
counts. -/
structure Layout where
  finished : List (List Char) := []
  line : List Char := []
  filled : Nat := 0

namespace Layout

/-- Begins a line, unless nothing was laid out yet. -/
def breakBefore (l : Layout) (cs : List Char) : Layout :=
  { l with
    finished := if l.line.isEmpty then l.finished else l.line :: l.finished
    line := cs
    filled := width cs }

def place (size : Nat) (overflow : Overflow) (l : Layout) (word : List Char) : Layout :=
  let needed := width (trimEnd word)
  if l.filled + needed ≤ size then
    { l with line := l.line ++ word, filled := l.filled + width word }
  else
    match overflow with
    | .fold => if size < needed then (chop size word).foldl breakBefore l else l.breakBefore word
    | .ellipsis => l.breakBefore word

def lines (l : Layout) : List (List Char) := (l.line :: l.finished).reverse

end Layout

def breakLine (size : Nat) (overflow : Overflow) (cs : List Char) : List (List Char) :=
  ((wordsOf cs).foldl (Layout.place size overflow) {}).lines

/-! ## Fitting -/

/-- Takes blanks off the end, as many as the text has characters too many. -/
def trimExcess (size : Nat) (cs : List Char) : List Char :=
  let blanks := cs.length - (trimEnd cs).length
  cs.take (cs.length - min blanks (cs.length - size))

/-- The clusters at the front that fit. -/
def fitting (size : Nat) : List Cluster → List Char
  | [] => []
  | c :: rest => if c.width ≤ size then c.chars ++ fitting (size - c.width) rest else []

def padTo (size : Nat) (cs : List Char) : List Char := cs ++ spaces (size - width cs)

/-- Cuts a text that is too wide; a blank stands for half of a wide character. -/
def crop (size : Nat) (cs : List Char) : List Char :=
  if width cs ≤ size then cs else padTo size (fitting size (clusters cs))

def truncate (size : Nat) (overflow : Overflow) (cs : List Char) : List Char :=
  if width cs ≤ size then cs
  else
    match overflow with
    | .fold => crop size cs
    | .ellipsis => padTo (size - 1) (crop (size - 1) cs) ++ ['…']

/-- The lines of a text, each at most `size` cells wide. -/
def wrap (size : Nat) (overflow : Overflow) (cs : List Char) : List (List Char) :=
  (linesOf cs).flatMap fun line =>
    (breakLine size overflow (expandTabs 8 width line)).map fun part =>
      truncate size overflow (trimExcess size part)

def center (size : Nat) (cs : List Char) : List Char :=
  let shown := crop size (trimEnd cs)
  padTo size (spaces ((size - width shown) / 2) ++ shown)

end Console

end EntityStore
