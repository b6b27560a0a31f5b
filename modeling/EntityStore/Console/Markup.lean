import EntityStore.Console.EmojiName
import EntityStore.Text.LetterCase
import EntityStore.Text.Parts

/-!
# Marked-up text

Text for people may hold tags in brackets, which set a style until they are closed and are not
shown, and emoji by name between colons. A backslash in front of a tag makes it plain text. A
closing tag has to name a style that is open; an empty one closes the last.
-/

namespace EntityStore

namespace Console

/-- A tag: its name, and what follows an equals sign in it. -/
structure Tag where
  name : String
  parameters : Option String
  deriving DecidableEq, Repr

namespace Tag

def text (t : Tag) : String :=
  "[" ++ t.name ++ (match t.parameters with
    | some p => "=" ++ p
    | none => "") ++ "]"

def ofChars (cs : List Char) : Tag :=
  let name := cs.takeWhile (· ≠ '=')
  match cs.drop name.length with
  | '=' :: rest => ⟨String.ofList name, some (String.ofList rest)⟩
  | _ => ⟨String.ofList name, none⟩

end Tag

/-- A piece of marked-up text. -/
inductive Piece where
  | plain (cs : List Char)
  | tag (position : Nat) (tag : Tag)
  deriving DecidableEq, Repr

/-- A closing tag that closes nothing. -/
inductive MarkupFlaw where
  | unmatched (tag : String) (position : Nat)
  | nothingOpen (position : Nat)
  deriving DecidableEq, Repr

def MarkupFlaw.message : MarkupFlaw → String
  | unmatched tag position =>
    "closing tag '" ++ tag ++ "' at position " ++ toString position
      ++ " doesn't match any open tag"
  | nothingOpen position =>
    "closing tag '[/]' at position " ++ toString position ++ " has nothing to close"

/-! ## Pieces -/

def startsTag (c : Char) : Bool := c.isLower || c = '#' || c = '/' || c = '@'

/-- The inside of a tag at the front, and what follows it. -/
def tagBody? : List Char → Option (List Char × List Char)
  | '[' :: c :: rest =>
    if startsTag c then
      let body := rest.takeWhile fun d => d ≠ '[' && d ≠ ']'
      match rest.drop body.length with
      | ']' :: after => some (c :: body, after)
      | _ => none
    else none
  | _ => none

/-- Backslashes at the front and a tag behind them: how many there are, the tag, and the rest. -/
def escapedTag? (cs : List Char) : Option (Nat × List Char × List Char) :=
  let slashes := (cs.takeWhile (· = '\\')).length
  (tagBody? (cs.drop slashes)).map fun (body, after) => (slashes, body, after)

/-- What stands for a tag behind backslashes: half of them, and the tag, which an odd one turns into
text. -/
def tagPieces (position slashes : Nat) (body : List Char) : List Piece :=
  let shown := List.replicate (slashes / 2) '\\'
  (if shown.isEmpty then [] else [.plain shown])
    ++ (if slashes % 2 = 1 then [.plain ('[' :: body ++ [']'])]
        else [.tag (position + slashes) (Tag.ofChars body)])

/-- The pieces after some plain text, which is kept in reverse. -/
def piecesFrom : Nat → Nat → List Char → List Char → List Piece
  | 0, _, seen, _ => [.plain seen.reverse]
  | _ + 1, _, seen, [] => if seen.isEmpty then [] else [.plain seen.reverse]
  | fuel + 1, position, seen, c :: rest =>
    match escapedTag? (c :: rest) with
    | some (slashes, body, after) =>
      (if seen.isEmpty then [] else [.plain seen.reverse]) ++ tagPieces position slashes body
        ++ piecesFrom fuel (position + slashes + body.length + 2) [] after
    | none => piecesFrom fuel (position + 1) (c :: seen) rest

def pieces (cs : List Char) : List Piece := piecesFrom (cs.length + 1) 0 [] cs

/-! ## Emoji -/

/-- Text up to a colon, without blanks. -/
def nameToColon? (cs : List Char) : Option (List Char × List Char) :=
  let name := cs.takeWhile fun c => c ≠ ':' && !isBlank c
  match cs.drop name.length with
  | ':' :: after => some (name, after)
  | _ => none

/-- The marks that choose how an emoji is shown. -/
def variants : List (String × Char) := [("-emoji", '\ufe0f'), ("-text", '\ufe0e')]

def emojiText? (name : List Char) : Option (List Char) :=
  let ending := variants.find? fun (suffix, _) => suffix.toList.isSuffixOf name
  let base := match ending with
    | some (suffix, _) => name.take (name.length - suffix.length)
    | none => name
  (emoji? (String.ofList (base.map toLower))).map fun emoji =>
    emoji.toList ++ (match ending with
      | some (_, mark) => [mark]
      | none => [])

/-- Replaces names between colons; a name of no emoji stays, with both its colons. -/
def withEmojiFrom : Nat → List Char → List Char
  | 0, cs => cs
  | _ + 1, [] => []
  | fuel + 1, ':' :: rest =>
    match nameToColon? rest with
    | some (name, after) =>
      (emojiText? name).getD (':' :: name ++ [':']) ++ withEmojiFrom fuel after
    | none => ':' :: withEmojiFrom fuel rest
  | fuel + 1, c :: rest => c :: withEmojiFrom fuel rest

def withEmoji (cs : List Char) : List Char := withEmojiFrom cs.length cs

/-! ## Styles -/

/-- Attributes of a style by their words, in the order in which a style lists them. -/
def attributes : List (List String) :=
  [["bold", "b"], ["dim", "d"], ["italic", "i"], ["underline", "u"], ["blink"], ["blink2"],
    ["reverse", "r"], ["conceal", "c"], ["strike", "s"], ["underline2", "uu"], ["frame"],
    ["encircle"], ["overline", "o"]]

def basicColors : List String :=
  ["black", "red", "green", "yellow", "blue", "magenta", "cyan", "white"]

def isColor (word : String) : Bool :=
  word = "default" || basicColors.contains word || basicColors.any (fun c => "bright_" ++ c = word)
    || (word.startsWith "#" && word.length = 7
        && (word.toList.drop 1).all fun c => c.isDigit || ('a' ≤ c && c ≤ 'f'))

def words (cs : List Char) : List String :=
  ((splitAt isBlank cs).filter (! ·.isEmpty)).map String.ofList

/-- One way to write a style: its attributes in their order, then its color. A text that is no style
stays, in small letters. -/
def styleName (name : String) : String :=
  let lower := name.toList.map toLower
  let parts := words lower
  let isAttribute (w : String) : Bool := attributes.any (·.contains w)
  let colors := parts.filter fun w => !isAttribute w
  if parts.isEmpty ∨ colors.any (! isColor ·) then
    String.ofList (trimBlanks lower)
  else
    let set := attributes.filter fun names => parts.any names.contains
    String.intercalate " " (set.map (·.headD "") ++ (colors.getLast?).toList)

/-! ## Rendering -/

/-- Takes the last open style of a name off the open ones, which stand with the last one first. -/
def close? (name : String) : List String → Option (List String)
  | [] => none
  | top :: rest => if top = name then some rest else (close? name rest).map (top :: ·)

/-- The styles that are open after a tag. -/
def follow (isOpen : List String) (position : Nat) (t : Tag) : Except MarkupFlaw (List String) :=
  match t.name.toList with
  | '/' :: closed =>
    if closed.all isBlank then
      match isOpen with
      | _ :: rest => .ok rest
      | [] => .error (.nothingOpen position)
    else
      match close? (styleName (String.ofList closed)) isOpen with
      | some rest => .ok rest
      | none => .error (.unmatched t.text position)
  | _ => .ok (styleName t.name :: isOpen)

/-- A backslash in front of a bracket that begins no tag is dropped. -/
def dropSlashes : List Char → List Char
  | '\\' :: '[' :: rest => '[' :: dropSlashes rest
  | c :: rest => c :: dropSlashes rest
  | [] => []

def renderPieces (isOpen : List String) : List Piece → Except MarkupFlaw (List Char)
  | [] => .ok []
  | .plain cs :: rest => (renderPieces isOpen rest).map (withEmoji (dropSlashes cs) ++ ·)
  | .tag position t :: rest => do renderPieces (← follow isOpen position t) rest

/-- Bell, backspace, vertical tab, form feed and carriage return are never shown. -/
def isStripped (c : Char) : Bool :=
  c.toNat = 7 || c.toNat = 8 || c.toNat = 11 || c.toNat = 12 || c.toNat = 13

def strip (cs : List Char) : List Char := cs.filter (! isStripped ·)

/-- What is shown of a marked-up text. -/
def render (s : String) : Except MarkupFlaw (List Char) :=
  if s.toList.contains '[' then (renderPieces [] (pieces s.toList)).map strip
  else .ok (strip (withEmoji s.toList))

end Console

end EntityStore
