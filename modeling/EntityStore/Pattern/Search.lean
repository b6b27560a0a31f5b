import EntityStore.Pattern.Expr
import EntityStore.Text.WordChar
import EntityStore.Text.LetterCase

/-!
# Searching a text for a pattern

An expression is matched at a position by trying its choices in order; what follows it is passed
along, so that a later failure leads back to the next choice. A repetition stops where an iteration
consumed nothing.
-/

namespace EntityStore

namespace Pattern

/-- A place in the text, and the spans of the groups matched so far, newest first. -/
structure Place where
  position : Nat
  spans : List (Nat × Nat × Nat)

namespace Place

def span? (p : Place) (group : Nat) : Option (Nat × Nat) := p.spans.lookup group

end Place

/-- The rest of a match: what is left to do from a place. -/
abbrev Rest := Place → Option Place

/-! ## Single characters -/

def CharClass.holds (ascii : Bool) (c : Char) : CharClass → Bool
  | .digit => if ascii then c.isDigit else isDecimalDigit c
  | .space =>
    if ascii then c = ' ' || (9 ≤ c.toNat && c.toNat ≤ 13) else isBlank c
  | .word => if ascii then c.isAlphanum || c = '_' else isWordChar c

def lowerFor (ascii : Bool) (code : Nat) : Nat :=
  if ascii then if 65 ≤ code ∧ code ≤ 90 then code + 32 else code else lowerCode code

def casedFor (ascii : Bool) (code : Nat) : Bool :=
  if ascii then (65 ≤ code && code ≤ 90) || (97 ≤ code && code ≤ 122) else isCased code

/-- The code points that count as `code` when case is ignored. -/
def variantsFor (ascii : Bool) (code : Nat) : List Nat :=
  if ascii then
    let low := lowerFor true code
    if 97 ≤ low ∧ low ≤ 122 then [low, low - 32] else [low]
  else caseVariants code

def matchesOne (f : Flags) (wanted code : Nat) : Bool :=
  wanted = code ||
    (f.ignoreCase && casedFor f.ascii wanted && (variantsFor f.ascii code).contains wanted)

def SetItem.isCasedFor (ascii : Bool) : SetItem → Bool
  | one code => casedFor ascii code
  | range first last =>
    if last - first < 65536 then (List.range (last + 1 - first)).any fun i =>
      casedFor ascii (first + i)
    else true
  | ofClass .. => false

def SetItem.holds (f : Flags) (c : Char) (codes : List Nat) : SetItem → Bool
  | one code => codes.contains code
  | range first last => codes.any fun code => first ≤ code && code ≤ last
  | ofClass cls complement => cls.holds f.ascii c != complement

/-- Whether a character belongs to a set. With case ignored, a set with cased members is asked about
all forms of the character. -/
def matchesSet (f : Flags) (complement : Bool) (items : List SetItem) (c : Char) : Bool :=
  let folded := f.ignoreCase && items.any (·.isCasedFor f.ascii)
  let c' := if folded then Char.ofNat (lowerFor f.ascii c.toNat) else c
  let codes := if folded then variantsFor f.ascii c.toNat else [c.toNat]
  (items.any (·.holds f c' codes)) != complement

/-- The expressions that match one character. -/
def matchesUnit (f : Flags) (c : Char) : Expr → Bool
  | .one code => matchesOne f code c.toNat
  | .oneBut code => !matchesOne f code c.toNat
  | .anyChar => f.dotAll || c ≠ '\n'
  | .oneOf complement items => matchesSet f complement items c
  | _ => false

/-! ## Anchors -/

def isWordAt (text : Array Char) (ascii : Bool) (i : Nat) : Bool :=
  match text[i]? with
  | some c => CharClass.word.holds ascii c
  | none => false

def Anchor.holds (text : Array Char) (f : Flags) (i : Nat) : Anchor → Bool
  | .lineStart => i = 0 || (f.multiline && text[i - 1]? = some '\n')
  | .lineEnd =>
    i = text.size || (text[i]? = some '\n' && (f.multiline || i + 1 = text.size))
  | .textStart => i = 0
  | .textEnd => i = text.size
  | .wordEdge =>
    text.size ≠ 0 && ((i ≠ 0 && isWordAt text f.ascii (i - 1)) != isWordAt text f.ascii i)
  | .wordInside =>
    text.size ≠ 0 && ((i ≠ 0 && isWordAt text f.ascii (i - 1)) == isWordAt text f.ascii i)

/-! ## Repetition -/

/-- How many characters from `i` on, at most `limit`, match a one-character expression. -/
def runLength (accept : Char → Bool) (text : Array Char) (i : Nat) : Nat → Nat
  | 0 => 0
  | limit + 1 =>
    match text[i]? with
    | some c => if accept c then runLength accept text (i + 1) limit + 1 else 0
    | none => 0

/-- Tries `rest` after `n`, `n - 1`, ... down to `least` characters. -/
def fewerAndFewer (p : Place) (rest : Rest) (least : Nat) : Nat → Option Place
  | 0 => if least = 0 then rest p else none
  | n + 1 =>
    if n + 1 < least then none
    else
      match rest { p with position := p.position + (n + 1) } with
      | some q => some q
      | none => fewerAndFewer p rest least n

/-- Tries `rest` after `n`, `n + 1`, ... characters, `steps` times at most. -/
def moreAndMore (p : Place) (rest : Rest) (n : Nat) : Nat → Option Place
  | 0 => rest { p with position := p.position + n }
  | steps + 1 =>
    match rest { p with position := p.position + n } with
    | some q => some q
    | none => moreAndMore p rest (n + 1) steps

def reached (count : Nat) : Option Nat → Bool
  | none => false
  | some most => most ≤ count

/-- Iterates `body` as often as possible before `rest`; `last` is where the iteration before began. -/
def repeatGreedy (body : Place → Rest → Option Place) (least : Nat) (most : Option Nat)
    (rest : Rest) : Nat → Nat → Option Nat → Rest
  | 0, _, _, p => rest p
  | steps + 1, count, last, p =>
    if count < least then
      body p (repeatGreedy body least most rest steps (count + 1) last)
    else if reached count most || last = some p.position then rest p
    else
      match body p (repeatGreedy body least most rest steps (count + 1) (some p.position)) with
      | some q => some q
      | none => rest p

/-- Iterates `body` as seldom as possible before `rest`. -/
def repeatLazy (body : Place → Rest → Option Place) (least : Nat) (most : Option Nat)
    (rest : Rest) : Nat → Nat → Option Nat → Rest
  | 0, _, _, p => rest p
  | steps + 1, count, last, p =>
    if count < least then
      body p (repeatLazy body least most rest steps (count + 1) last)
    else
      match rest p with
      | some q => some q
      | none =>
        if reached count most || last = some p.position then none
        else body p (repeatLazy body least most rest steps (count + 1) (some p.position))

/-- Iterates `body` and keeps each iteration's first match. -/
def repeatPossessive (body : Place → Rest → Option Place) (least : Nat) (most : Option Nat) :
    Nat → Nat → Option Nat → Rest
  | 0, _, _, p => some p
  | steps + 1, count, last, p =>
    if count < least then
      (body p some).bind (repeatPossessive body least most steps (count + 1) last)
    else if reached count most || last = some p.position then some p
    else
      match body p some with
      | some q => repeatPossessive body least most steps (count + 1) (some p.position) q
      | none => some p

/-! ## Expressions -/

def Flags.within (f add drop : Flags) : Flags :=
  { ignoreCase := (f.ignoreCase || add.ignoreCase) && !drop.ignoreCase
    multiline := (f.multiline || add.multiline) && !drop.multiline
    dotAll := (f.dotAll || add.dotAll) && !drop.dotAll
    verbose := (f.verbose || add.verbose) && !drop.verbose
    ascii := if add.wide then false else f.ascii || add.ascii
    wide := f.wide
    template := f.template }

/-- Whether the characters of the span from `start` to `stop` occur again at `i`. -/
def occursAgain (text : Array Char) (f : Flags) (start stop i : Nat) : Bool :=
  i + (stop - start) ≤ text.size &&
    (List.range (stop - start)).all fun k =>
      match text[start + k]?, text[i + k]? with
      | some a, some b =>
        a = b || (f.ignoreCase && lowerFor f.ascii a.toNat = lowerFor f.ascii b.toNat)
      | _, _ => false

/-- The number of characters that a fixed-width expression matches. -/
def fixedWidth (spanWidth : Nat → Nat) : Expr → Nat
  | .empty | .anchor _ | .ahead .. | .behind .. => 0
  | .one _ | .oneBut _ | .anyChar | .oneOf .. => 1
  | .seq a b => fixedWidth spanWidth a + fixedWidth spanWidth b
  | .either a _ => fixedWidth spanWidth a
  | .repeated least _ _ body => least * fixedWidth spanWidth body
  | .group _ body | .scoped _ _ body | .atomic body => fixedWidth spanWidth body
  | .again n => spanWidth n
  | .branch _ yes _ => fixedWidth spanWidth yes

def matchExpr (text : Array Char) : Expr → Flags → Place → Rest → Option Place
  | .empty, _, p, rest => rest p
  | .one code, f, p, rest => unit (.one code) f p rest
  | .oneBut code, f, p, rest => unit (.oneBut code) f p rest
  | .anyChar, f, p, rest => unit .anyChar f p rest
  | .oneOf complement items, f, p, rest => unit (.oneOf complement items) f p rest
  | .anchor a, f, p, rest => if a.holds text f p.position then rest p else none
  | .seq a b, f, p, rest => matchExpr text a f p fun q => matchExpr text b f q rest
  | .either a b, f, p, rest =>
    match matchExpr text a f p rest with
    | some q => some q
    | none => matchExpr text b f p rest
  | .repeated least most mode body, f, p, rest =>
    if body.isUnit then
      let left := text.size - p.position
      let limit := match most with
        | none => left
        | some m => min m left
      match mode with
      | .greedy =>
        fewerAndFewer p rest least (runLength (matchesUnit f · body) text p.position limit)
      | .possessive =>
        let n := runLength (matchesUnit f · body) text p.position limit
        if n < least then none else rest { p with position := p.position + n }
      | .lazy =>
        let n := runLength (matchesUnit f · body) text p.position limit
        if n < least then none else moreAndMore p rest least (n - least)
    else
      let steps := least + text.size + 2
      let run := fun q k => matchExpr text body f q k
      match mode with
      | .greedy => repeatGreedy run least most rest steps 0 none p
      | .lazy => repeatLazy run least most rest steps 0 none p
      | .possessive => (repeatPossessive run least most steps 0 none p).bind rest
  | .group n body, f, p, rest =>
    matchExpr text body f p fun q => rest { q with spans := (n, p.position, q.position) :: q.spans }
  | .scoped add drop body, f, p, rest => matchExpr text body (f.within add drop) p rest
  | .atomic body, f, p, rest => (matchExpr text body f p some).bind rest
  | .ahead complement body, f, p, rest =>
    match matchExpr text body f p some with
    | some q => if complement then none else rest { q with position := p.position }
    | none => if complement then rest p else none
  | .behind complement body, f, p, rest =>
    let width := fixedWidth (fun n => ((p.span? n).map fun (a, b) => b - a).getD 0) body
    let found :=
      if p.position < width then none
      else matchExpr text body f { p with position := p.position - width } some
    match found with
    | some q => if complement then none else rest { q with position := p.position }
    | none => if complement then rest p else none
  | .again n, f, p, rest =>
    match p.span? n with
    | none => none
    | some (start, stop) =>
      if occursAgain text f start stop p.position then
        rest { p with position := p.position + (stop - start) }
      else none
  | .branch n yes no, f, p, rest =>
    if (p.span? n).isSome then matchExpr text yes f p rest else matchExpr text no f p rest
where
  unit (e : Expr) (f : Flags) (p : Place) (rest : Rest) : Option Place :=
    match text[p.position]? with
    | some c => if matchesUnit f c e then rest { p with position := p.position + 1 } else none
    | none => none

/-- Whether the pattern matches somewhere in the text. -/
def Compiled.search (c : Compiled) (text : String) : Bool :=
  let chars := text.toList.toArray
  (List.range (chars.size + 1)).any fun i =>
    (matchExpr chars c.expr c.flags ⟨i, []⟩ some).isSome

end Pattern

end EntityStore
