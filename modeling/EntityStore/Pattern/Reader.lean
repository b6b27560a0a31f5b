import EntityStore.Pattern.Expr
import EntityStore.Pattern.Flaw
import EntityStore.Number.Whole

/-!
# Reading pattern texts

A pattern text is cut into single characters and backslash pairs, and read by descent: an
expression is a list of alternatives, an alternative a sequence of items, an item what one
character, one escape, one set or one group stands for, with the repetition after it. The first
flaw met on the way ends the reading.
-/

namespace EntityStore

namespace Pattern

/-- A character, or a backslash with the character after it; a lone backslash may end the text. -/
inductive Token where
  | plain (c : Char)
  | escaped (c : Char)
  | dangling
  deriving DecidableEq, Repr

namespace Token

def width : Token → Nat
  | plain _ => 1
  | escaped _ => 2
  | dangling => 1

def text : Token → String
  | plain c => String.singleton c
  | escaped c => String.ofList ['\\', c]
  | dangling => "\\"

def ofChars : List Char → List Token
  | [] => []
  | '\\' :: c :: rest => escaped c :: ofChars rest
  | ['\\'] => [dangling]
  | c :: rest => plain c :: ofChars rest

end Token

/-- A group: its name, and the least and greatest width of its body once it is closed. -/
structure GroupInfo where
  name : Option String
  width : Option (Nat × Option Nat)

/-- Where the reader stands, and what it has seen. -/
structure Cursor where
  tokens : List Token
  position : Nat
  groups : List GroupInfo
  flags : Flags
  /-- The number of groups when the outermost look-behind began. -/
  lookBehindFrom : Option Nat
  /-- Groups that conditions refer to by number, with their positions. -/
  conditions : List (Nat × Nat)

abbrev Reader := StateT Cursor (Except Flaw)

namespace Reader

def fail {α : Type} (what : Fault) (back : Nat) : Reader α := do
  let c ← get
  throw (.fault what (some (c.position - back)))

def peek : Reader (Option Token) := return (← get).tokens.head?

/-- Drops the token at the front. A lone backslash is refused as soon as it comes to the front. -/
def advance : Reader Unit := do
  let c ← get
  match c.tokens with
  | [] => pure ()
  | t :: rest =>
    let next := { c with tokens := rest, position := c.position + t.width }
    if rest.head? = some .dangling then
      throw (.fault .danglingEscape (some next.position))
    set next

def next : Reader (Option Token) := do
  let t ← peek
  advance
  return t

/-- Passes over `ch` if it comes next. -/
def skip (ch : Char) : Reader Bool := do
  if (← peek) = some (.plain ch) then
    advance
    return true
  return false

/-- At most `n` characters of a class. -/
def takeUpTo (accept : Char → Bool) : Nat → Reader (List Char)
  | 0 => return []
  | n + 1 => do
    match ← peek with
    | some (.plain ch) =>
      if accept ch then
        advance
        return ch :: (← takeUpTo accept n)
      else return []
    | _ => return []

/-- A name up to its terminator. -/
def takeName (terminator : Char) (what : String) : Nat → String → Reader String
  | 0, _ => fail (.missing what) 0
  | steps + 1, soFar => do
    match ← next with
    | none =>
      if soFar.isEmpty then fail (.missing what) 0
      else fail (.unterminatedName terminator) soFar.length
    | some t =>
      if t = .plain terminator then
        if soFar.isEmpty then fail (.missing what) 1 else return soFar
      else takeName terminator what steps (soFar ++ t.text)

def name (terminator : Char) (what : String) : Reader String := do
  takeName terminator what ((← get).tokens.length + 1) ""

end Reader

open Reader

def isHexDigit (c : Char) : Bool :=
  c.isDigit || ('a' ≤ c && c ≤ 'f') || ('A' ≤ c && c ≤ 'F')

def isOctalDigit (c : Char) : Bool := '0' ≤ c && c ≤ '7'

def hexValue (cs : List Char) : Nat :=
  cs.foldl (fun n c =>
    16 * n + (if c.isDigit then c.toNat - 48 else c.toLower.toNat - 87)) 0

def octalValue (cs : List Char) : Nat := cs.foldl (fun n c => 8 * n + (c.toNat - 48)) 0

def decimalValue (cs : List Char) : Nat := cs.foldl (fun n c => 10 * n + (c.toNat - 48)) 0

/-- A name of letters, digits and underscores that does not begin with a digit. -/
def isName (s : String) : Bool :=
  match s.toList with
  | [] => false
  | c :: rest => isWordChar c && !isDecimalDigit c && rest.all isWordChar

def controlEscape? (c : Char) : Option Nat :=
  [('a', 7), ('b', 8), ('f', 12), ('n', 10), ('r', 13), ('t', 9), ('v', 11), ('\\', 92)].lookup c

def classEscape? (c : Char) : Option (CharClass × Bool) :=
  match c with
  | 'd' => some (.digit, false)
  | 'D' => some (.digit, true)
  | 's' => some (.space, false)
  | 'S' => some (.space, true)
  | 'w' => some (.word, false)
  | 'W' => some (.word, true)
  | _ => none

/-- The escapes with a code: `\x`, `\u`, `\U` and `\N`. -/
def codeEscape? (c : Char) : Option (Reader Nat) :=
  let digits (count : Nat) : Reader Nat := do
    let ds ← takeUpTo isHexDigit count
    let text := String.ofList ('\\' :: c :: ds)
    if ds.length = count then
      if hexValue ds < 0x110000 then return hexValue ds else fail (.badEscape text) text.length
    else fail (.incompleteEscape text) text.length
  match c with
  | 'x' => some (digits 2)
  | 'u' => some (digits 4)
  | 'U' => some (digits 8)
  | 'N' => some do
    if ← skip '\x7b' then
      let n ← name '\x7d' "character name"
      fail (.unknownCharacterName n) (n.length + 4)
    else fail (.missing "\x7b") 0
  | _ => none

/-- An octal code of at most three digits. -/
def octalEscape (digits : List Char) : Reader Nat := do
  let text := String.ofList ('\\' :: digits)
  if 255 < octalValue digits then fail (.octalTooLarge text) text.length
  return octalValue digits

/-- An escape inside a set. -/
def setEscape (c : Char) : Reader (SetItem) := do
  let text := String.ofList ['\\', c]
  match controlEscape? c, classEscape? c, codeEscape? c with
  | some code, _, _ => return .one code
  | _, some (cls, comp), _ => return .ofClass cls comp
  | _, _, some code => return .one (← code)
  | none, none, none =>
    if isOctalDigit c then
      let more ← takeUpTo isOctalDigit 2
      return .one (← octalEscape (c :: more))
    else if c.isDigit ∨ c.isAlpha then fail (.badEscape text) 2
    else return .one c.toNat

/-- Refuses a group that is still open, or one that belongs to the look-behind it is used in. -/
def checkGroupClosed (number back : Nat) : Reader Unit := do
  let c ← get
  match c.groups[number - 1]? with
  | some g => if g.width.isNone then fail .openGroup back
  | none => pure ()

def checkLookBehind (number : Nat) : Reader Unit := do
  let c ← get
  match c.lookBehindFrom with
  | none => pure ()
  | some start =>
    let closed := ((c.groups[number - 1]?).bind (·.width)).isSome
    if ¬ closed then fail .openGroup 0
    if start ≤ number then fail .lookBehindGroup 0

/-- An escape outside sets. -/
def escape (c : Char) : Reader Expr := do
  let text := String.ofList ['\\', c]
  match classEscape? c with
  | some (cls, comp) => return .oneOf false [.ofClass cls comp]
  | none =>
  match c with
  | 'A' => return .anchor .textStart
  | 'b' => return .anchor .wordEdge
  | 'B' => return .anchor .wordInside
  | 'Z' => return .anchor .textEnd
  | _ =>
  match controlEscape? c, codeEscape? c with
  | some code, _ => return .one code
  | none, some code => return .one (← code)
  | none, none =>
    if c = '0' then
      let more ← takeUpTo isOctalDigit 2
      return .one (octalValue (c :: more))
    else if c.isDigit then
      let second ← takeUpTo Char.isDigit 1
      let digits := c :: second
      let third ←
        if second ≠ [] ∧ digits.all isOctalDigit then takeUpTo isOctalDigit 1 else pure []
      if third ≠ [] then return .one (← octalEscape (digits ++ third))
      let number := decimalValue digits
      let width := digits.length + 1
      if number ≤ (← get).groups.length then
        checkGroupClosed number width
        checkLookBehind number
        return .again number
      else fail (.noSuchGroup number) (width - 1)
    else if c.isAlpha then fail (.badEscape text) 2
    else return .one c.toNat

/-! ## Sets -/

def tokenItem : Token → Reader SetItem
  | .plain c => return .one c.toNat
  | .escaped c => setEscape c
  | .dangling => return .one 92

/-- The items of a set up to its closing bracket. -/
def setItems (start : Nat) : Nat → List SetItem → Reader (List SetItem)
  | 0, _ => fail .unterminatedSet 0
  | steps + 1, soFar => do
    let unterminated {α : Type} : Reader α := do
      fail .unterminatedSet ((← get).position - start)
    match ← next with
    | none => unterminated
    | some t =>
      if t = .plain ']' ∧ soFar ≠ [] then return soFar
      let item ← tokenItem t
      if ← skip '-' then
        match ← next with
        | none => unterminated
        | some u =>
          if u = .plain ']' then return soFar ++ [item, .one 45]
          let upper ← tokenItem u
          match item, upper with
          | .one lo, .one hi =>
            if hi < lo then fail (.badRange t.text u.text) (t.width + 1 + u.width)
            setItems start steps (soFar ++ [.range lo hi])
          | _, _ => fail (.badRange t.text u.text) (t.width + 1 + u.width)
      else setItems start steps (soFar ++ [item])

def uniqueItems (items : List SetItem) : List SetItem :=
  items.foldl (fun seen i => if seen.contains i then seen else seen ++ [i]) []

def readSet : Reader Expr := do
  let start := (← get).position - 1
  let complement ← skip '^'
  let items ← setItems start ((← get).tokens.length + 1) []
  match uniqueItems items with
  | [.one code] => return if complement then .oneBut code else .one code
  | items => return .oneOf complement items

/-! ## Flags -/

def flagOf? (c : Char) : Option (Flags → Flags) :=
  match c with
  | 'i' => some fun f => { f with ignoreCase := true }
  | 'L' => some id
  | 'm' => some fun f => { f with multiline := true }
  | 's' => some fun f => { f with dotAll := true }
  | 'x' => some fun f => { f with verbose := true }
  | 'a' => some fun f => { f with ascii := true }
  | 't' => some fun f => { f with template := true }
  | 'u' => some fun f => { f with wide := true }
  | _ => none

def Flags.union (f g : Flags) : Flags :=
  ⟨f.ignoreCase || g.ignoreCase, f.multiline || g.multiline, f.dotAll || g.dotAll,
    f.verbose || g.verbose, f.ascii || g.ascii, f.wide || g.wide, f.template || g.template⟩

def Flags.meets (f g : Flags) : Bool :=
  (f.ignoreCase && g.ignoreCase) || (f.multiline && g.multiline) || (f.dotAll && g.dotAll)
    || (f.verbose && g.verbose)

/-- A character that may follow flag letters, or the reason why it may not. -/
def afterFlag (expected : String) (stops : List Char) :
    Option Token → Reader (Char × Bool)
  | none => fail (.missing expected) 0
  | some (.plain c) =>
    if stops.contains c then return (c, true)
    else if (flagOf? c).isSome then return (c, false)
    else fail (if isWordChar c && !isDecimalDigit c && c ≠ '_' then .unknownFlag
      else .missing expected) 1
  | some t => fail (.missing expected) t.width

/-- The flag letters to turn on, from `c` up to `)`, `-` or `:`. -/
def flagsOn : Nat → Char → Flags → Reader (Flags × Char)
  | 0, c, f => return (f, c)
  | steps + 1, c, f => do
    if c = 'L' then fail .localeFlag 0
    let f := ((flagOf? c).map (· f)).getD f
    if f.ascii ∧ f.wide ∧ (c = 'a' ∨ c = 'u') then fail .typeFlags 0
    let (c, stop) ← afterFlag "-, : or )" [')', '-', ':'] (← next)
    if stop then return (f, c) else flagsOn steps c f

/-- The flag letters to turn off, from `c` up to the colon. -/
def flagsOff : Nat → Char → Flags → Reader Flags
  | 0, _, f => return f
  | steps + 1, c, f => do
    if c = 'a' ∨ c = 'u' ∨ c = 'L' then fail .offTypeFlag 0
    let f := ((flagOf? c).map (· f)).getD f
    let (c, stop) ← afterFlag ":" [':'] (← next)
    if stop then return f else flagsOff steps c f

/-- Flags for the whole pattern, which give `none`, or for one group. -/
def readFlags (c : Char) : Reader (Option (Flags × Flags)) := do
  let steps := (← get).tokens.length + 1
  let (on, stop) ← if c = '-' then pure ({}, '-') else flagsOn steps c {}
  if stop = ')' then
    modify fun s => { s with flags := s.flags.union on }
    return none
  if on.template then fail .onGlobalFlag 1
  let off ←
    if stop = '-' then do
      let (c, _) ← afterFlag "flag" [] (← next)
      flagsOff steps c {}
    else pure {}
  if off.template then fail .offGlobalFlag 1
  if on.meets off then fail .onAndOff 1
  return some (on, off)

/-! ## Widths -/

/-- A width past every text. -/
def hugeWidth : Nat := Nat.pow 2 64

/-- The least and the greatest number of characters that an expression matches. -/
def widthOf (groups : List GroupInfo) : Expr → Nat × Nat
  | .empty | .anchor _ | .ahead .. | .behind .. => (0, 0)
  | .one _ | .oneBut _ | .anyChar | .oneOf .. => (1, 1)
  | .seq a b =>
    let (l, h) := widthOf groups a
    let (l', h') := widthOf groups b
    (min (l + l') hugeWidth, min (h + h') hugeWidth)
  | .either a b =>
    let (l, h) := widthOf groups a
    let (l', h') := widthOf groups b
    (min l l', max h h')
  | .repeated least most _ body =>
    let (l, h) := widthOf groups body
    let greatest := match most with
      | none => if h = 0 then 0 else hugeWidth
      | some n => h * n
    (min (l * least) hugeWidth, min greatest hugeWidth)
  | .group _ body | .scoped _ _ body | .atomic body => widthOf groups body
  | .again n =>
    match ((groups[n - 1]?).bind (·.width)) with
    | some (l, h) => (l, h.getD hugeWidth)
    | none => (0, 0)
  | .branch _ yes no =>
    let (l, h) := widthOf groups yes
    let (l', h') := widthOf groups no
    (min l l', max h h')

/-- Every look-behind must have one width, and a template may not repeat. -/
def checkExpr (groups : List GroupInfo) (template : Bool) : Expr → Except Flaw Unit
  | .seq a b | .either a b => do
    checkExpr groups template a
    checkExpr groups template b
  | .branch _ yes no => do
    checkExpr groups template yes
    checkExpr groups template no
  | .repeated _ _ mode body => do
    if template then
      let op := match mode with
        | .greedy => "MAX_REPEAT"
        | .lazy => "MIN_REPEAT"
        | .possessive => "POSSESSIVE_REPEAT"
      throw (.fault (.templateRepeat op) none)
    checkExpr groups template body
  | .group _ body | .scoped _ _ body | .atomic body | .ahead _ body =>
    checkExpr groups template body
  | .behind _ body => do
    let (l, h) := widthOf groups body
    if l ≠ h then throw (.fault .unboundedLookBehind none)
    checkExpr groups template body
  | _ => return ()

/-! ## Sequences and groups -/

/-- One item of a sequence as it was written; a bare group is one without number and flags. -/
structure Item where
  expr : Expr
  isAnchor : Bool := false
  isRepeat : Bool := false

def isVerboseBlank (c : Char) : Bool :=
  c = ' ' || c = '\t' || c = '\n' || c = '\r' || c.toNat = 11 || c.toNat = 12

/-- Drops a comment up to the end of its line. -/
def skipLine : Nat → Reader Unit
  | 0 => return ()
  | steps + 1 => do
    match ← next with
    | none => return ()
    | some t => if t = .plain '\n' then return () else skipLine steps

def skipComment (start : Nat) : Nat → Reader Unit
  | 0 => return ()
  | steps + 1 => do
    match ← peek with
    | none => fail .unterminatedComment ((← get).position - start)
    | some t => do
      advance
      if t = .plain ')' then return () else skipComment start steps

/-- The largest count a repetition may name. -/
def maxRepeat : Nat := 4294967295

/-- The digits of a number that may be read at all. -/
def maxNumberDigits : Nat := 4300

def readCount (digits : List Char) : Reader Nat := do
  if maxNumberDigits < digits.length then throw (.numberTooLong digits.length)
  if maxRepeat ≤ decimalValue digits then throw .repeatTooLarge
  return decimalValue digits

/-- The counts between braces, or `none` where the brace stands for itself. -/
def readBraces (start : Nat) : Reader (Option (Nat × Option Nat)) := do
  let saved ← get
  if (← peek) = some (.plain '\x7d') then return none
  let steps := saved.tokens.length
  let low ← takeUpTo Char.isDigit steps
  let high ← if ← skip ',' then takeUpTo Char.isDigit steps else pure low
  if ← skip '\x7d' then
    let least ← if low = [] then pure 0 else readCount low
    if high = [] then return some (least, none)
    let most ← readCount high
    if most < least then fail .repeatBounds ((← get).position - start)
    return some (least, some most)
  else
    set saved
    return none

def repeatOf (c : Char) (start : Nat) : Reader (Option (Nat × Option Nat)) :=
  match c with
  | '?' => return some (0, some 1)
  | '*' => return some (0, none)
  | '+' => return some (1, none)
  | _ => readBraces start

def readMode : Reader Mode := do
  if ← skip '?' then return .lazy
  if ← skip '+' then return .possessive
  return .greedy

/-- Puts a repetition on the last item. -/
def repeatLast (start : Nat) (counts : Nat × Option Nat) (items : List Item) :
    Reader (List Item) := do
  let back := (← get).position - start + 1
  match items.getLast? with
  | none => fail .nothingToRepeat back
  | some item => do
    if item.isAnchor then fail .nothingToRepeat back
    if item.isRepeat then fail .repeatedRepeat back
    let mode ← readMode
    let expr := Expr.repeated counts.1 counts.2 mode item.expr
    return items.dropLast ++ [{ expr, isRepeat := true }]

def openGroup (groupName : Option String) : Reader Nat := do
  let c ← get
  let number := c.groups.length + 1
  match groupName with
  | none => pure ()
  | some n =>
    match c.groups.findIdx? (·.name = some n) with
    | some i => fail (.repeatedGroupName n number (i + 1)) (n.length + 1)
    | none => pure ()
  modify fun c => { c with groups := c.groups ++ [{ name := groupName, width := none }] }
  return number

def closeGroup (number : Nat) (body : Expr) : Reader Unit :=
  modify fun c =>
    let (l, h) := widthOf c.groups body
    { c with groups := c.groups.modify (number - 1) fun g => { g with width := some (l, some h) } }

def groupByName (n : String) : Reader Nat := do
  if ¬ isName n then fail (.badGroupName n) (n.length + 1)
  match (← get).groups.findIdx? (·.name = some n) with
  | some i => return i + 1
  | none => fail (.unknownGroupName n) (n.length + 1)

/-- The group that a condition asks about. -/
def conditionGroup : Reader Nat := do
  let n ← name ')' "group name"
  if isName n then groupByName n
  else
    match wholeNumber? n with
    | some (.ofNat k) =>
      if k = 0 then fail .groupZero (n.length + 1)
      if 1073741823 ≤ k then fail (.noSuchGroup k) (n.length + 1)
      modify fun c =>
        if (c.conditions.lookup k).isSome then c
        else { c with conditions := c.conditions ++ [(k, c.position - n.length - 1)] }
      return k
    | _ => fail (.badGroupName n) (n.length + 1)

def closeParen (start : Nat) : Reader Unit := do
  if ¬ (← skip ')') then fail .unterminatedGroup ((← get).position - start)

/-- What the characters after an opening parenthesis announce. -/
inductive Opening where
  | captured (groupName : Option String)
  | grouped (add drop : Flags)
  | atomic
  | look (behind complement : Bool)
  | condition
  /-- An item without a body. -/
  | whole (item : Option Expr)
  | wholeFlags

/-- Reads what follows `(?`. -/
def readExtension (start : Nat) : Reader Opening := do
  match ← next with
  | none => fail .unexpectedEnd 0
  | some (.plain 'P') =>
    if ← skip '<' then
      let n ← name '>' "group name"
      if ¬ isName n then fail (.badGroupName n) (n.length + 1)
      return .captured (some n)
    else if ← skip '=' then
      let n ← name ')' "group name"
      let number ← groupByName n
      checkGroupClosed number (n.length + 1)
      checkLookBehind number
      return .whole (some (.again number))
    else
      match ← next with
      | none => fail .unexpectedEnd 0
      | some t => fail (.unknownExtension ("?P" ++ t.text)) (t.width + 2)
  | some (.plain ':') => return .grouped {} {}
  | some (.plain '#') =>
    skipComment start ((← get).tokens.length + 1)
    return .whole none
  | some (.plain '=') => return .look false false
  | some (.plain '!') => return .look false true
  | some (.plain '<') =>
    match ← next with
    | none => fail .unexpectedEnd 0
    | some (.plain '=') => return .look true false
    | some (.plain '!') => return .look true true
    | some t => fail (.unknownExtension ("?<" ++ t.text)) (t.width + 2)
  | some (.plain '(') => return .condition
  | some (.plain '>') => return .atomic
  | some t =>
    match t with
    | .plain c =>
      if (flagOf? c).isSome ∨ c = '-' then
        match ← readFlags c with
        | none => return .wholeFlags
        | some (add, drop) => return .grouped add drop
      else fail (.unknownExtension ("?" ++ t.text)) (t.width + 1)
    | _ => fail (.unknownExtension ("?" ++ t.text)) (t.width + 1)

mutual

/-- Alternatives up to a closing parenthesis or the end. -/
def readAlternatives : Nat → Bool → Bool → Reader Expr
  | 0, _, _ => fail .unexpectedEnd 0
  | steps + 1, verbose, outermost => do
    let first ← readSequence steps verbose outermost []
    readMore steps verbose outermost (Expr.ofList (first.map (·.expr)))

/-- The alternatives after the first. -/
def readMore : Nat → Bool → Bool → Expr → Reader Expr
  | 0, _, _, left => return left
  | steps + 1, verbose, outermost, left => do
    if ← skip '|' then
      let here ← get
      let verbose := if outermost then here.flags.verbose else verbose
      let items ← readSequence steps verbose false []
      let right ← readMore steps verbose outermost (Expr.ofList (items.map (·.expr)))
      return .either left right
    else return left

/-- Items up to a bar, a closing parenthesis or the end. `leading` marks the one place where flags
for the whole pattern may stand. -/
def readSequence : Nat → Bool → Bool → List Item → Reader (List Item)
  | 0, _, _, items => return items
  | steps + 1, verbose, leading, items => do
    match ← peek with
    | none => return items
    | some (.plain '|') | some (.plain ')') => return items
    | some t => do
      advance
      match t with
      | .escaped c =>
        let e ← escape c
        let isAnchor := match e with
          | .anchor _ => true
          | _ => false
        readSequence steps verbose leading (items ++ [{ expr := e, isAnchor }])
      | .dangling => return items
      | .plain c =>
        if verbose && isVerboseBlank c then readSequence steps verbose leading items
        else if verbose && c = '#' then do
          skipLine ((← get).tokens.length + 1)
          readSequence steps verbose leading items
        else
          match c with
          | '[' => do
            let e ← readSet
            readSequence steps verbose leading (items ++ [{ expr := e }])
          | '.' => readSequence steps verbose leading (items ++ [{ expr := .anyChar }])
          | '^' =>
            readSequence steps verbose leading
              (items ++ [{ expr := .anchor .lineStart, isAnchor := true }])
          | '$' =>
            readSequence steps verbose leading
              (items ++ [{ expr := .anchor .lineEnd, isAnchor := true }])
          | '(' => do
            let start := (← get).position - 1
            let opening ← if ← skip '?' then readExtension start else pure (.captured none)
            match opening with
            | .wholeFlags =>
              let here ← get
              if ¬ leading ∨ ¬ items.isEmpty then fail .lateFlags (here.position - start)
              readSequence steps here.flags.verbose leading items
            | .whole none =>
              readSequence steps verbose leading items
            | _ => do
              let e ← readBody steps verbose start opening
              readSequence steps verbose leading (items ++ [{ expr := e }])
          | '?' | '*' | '+' | '\x7b' => do
            let start := (← get).position
            match ← repeatOf c start with
            | none => readSequence steps verbose leading (items ++ [{ expr := .one c.toNat }])
            | some counts => do
              let items ← repeatLast start counts items
              readSequence steps verbose leading items
          | _ => readSequence steps verbose leading (items ++ [{ expr := .one c.toNat }])

/-- The body of a group and its closing parenthesis. -/
def readBody : Nat → Bool → Nat → Opening → Reader Expr
  | 0, _, _, _ => fail .unexpectedEnd 0
  | steps + 1, verbose, start, opening => do
    match opening with
    | .captured groupName => do
      let number ← openGroup groupName
      let body ← readAlternatives steps verbose false
      closeParen start
      closeGroup number body
      return .group number body
    | .grouped add drop => do
      let inner := (verbose || add.verbose) && !drop.verbose
      let body ← readAlternatives steps inner false
      closeParen start
      return .scoped add drop body
    | .atomic => do
      let body ← readAlternatives steps verbose false
      closeParen start
      return .atomic body
    | .look behind complement => do
      let saved := (← get).lookBehindFrom
      if behind ∧ saved.isNone then
        modify fun c => { c with lookBehindFrom := some (c.groups.length + 1) }
      let body ← readAlternatives steps verbose false
      if behind ∧ saved.isNone then modify fun c => { c with lookBehindFrom := none }
      closeParen start
      return if behind then .behind complement body else .ahead complement body
    | .condition => do
      let number ← conditionGroup
      checkLookBehind number
      let yes ← readSequence steps verbose false []
      let no ←
        if ← skip '|' then do
          let no ← readSequence steps verbose false []
          if (← peek) = some (.plain '|') then fail .branchesOfConditional 0
          pure no
        else pure []
      closeParen start
      return .branch number (Expr.ofList (yes.map (·.expr))) (Expr.ofList (no.map (·.expr)))
    | .whole item => return item.getD .empty
    | .wholeFlags => return .empty

end

/-- Reads a pattern text. -/
def compile (text : String) : Except Flaw Compiled := do
  let tokens := Token.ofChars text.toList
  if tokens = [.dangling] then throw (.fault .danglingEscape (some 0))
  let start : Cursor := ⟨tokens, 0, [], {}, none, []⟩
  let (expr, c) ← (readAlternatives (4 * tokens.length + 4) false true).run start
  if c.flags.ascii ∧ c.flags.wide then throw .conflictingFlags
  if c.tokens ≠ [] then throw (.fault .unbalanced (some c.position))
  match c.conditions.find? fun (n, _) => c.groups.length < n with
  | some (n, position) => throw (.fault (.noSuchGroup n) (some position))
  | none => pure ()
  checkExpr c.groups c.flags.template expr
  return ⟨expr, c.flags, c.groups.length⟩

end Pattern

end EntityStore
