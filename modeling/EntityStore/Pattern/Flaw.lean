import EntityStore.Text.Quoted

/-!
# Flaws of pattern texts
-/

namespace EntityStore

namespace Pattern

/-- What is wrong with a pattern text. -/
inductive Fault where
  | danglingEscape
  | incompleteEscape (text : String)
  | badEscape (text : String)
  | octalTooLarge (text : String)
  | openGroup
  | lookBehindGroup
  | noSuchGroup (number : Nat)
  | missing (what : String)
  | unterminatedName (terminator : Char)
  | unknownCharacterName (name : String)
  | unterminatedSet
  | badRange (first last : String)
  | repeatBounds
  | nothingToRepeat
  | repeatedRepeat
  | unexpectedEnd
  | unknownExtension (text : String)
  | badGroupName (name : String)
  | unknownGroupName (name : String)
  | repeatedGroupName (name : String) (new old : Nat)
  | unterminatedComment
  | unterminatedGroup
  | groupZero
  | branchesOfConditional
  | lateFlags
  | unknownFlag
  | localeFlag
  | typeFlags
  | offTypeFlag
  | onGlobalFlag
  | offGlobalFlag
  | onAndOff
  | unbalanced
  | unboundedLookBehind
  | templateRepeat (operator : String)
  deriving DecidableEq, Repr

def Fault.message : Fault → String
  | danglingEscape => "bad escape (end of pattern)"
  | incompleteEscape t => "incomplete escape " ++ t
  | badEscape t => "bad escape " ++ t
  | octalTooLarge t => "octal escape value " ++ t ++ " outside of range 0-0o377"
  | openGroup => "cannot refer to an open group"
  | lookBehindGroup => "cannot refer to group defined in the same lookbehind subpattern"
  | noSuchGroup n => "invalid group reference " ++ toString n
  | missing what => "missing " ++ what
  | unterminatedName c => "missing " ++ String.singleton c ++ ", unterminated name"
  | unknownCharacterName n => "undefined character name " ++ quoted n
  | unterminatedSet => "unterminated character set"
  | badRange a b => "bad character range " ++ a ++ "-" ++ b
  | repeatBounds => "min repeat greater than max repeat"
  | nothingToRepeat => "nothing to repeat"
  | repeatedRepeat => "multiple repeat"
  | unexpectedEnd => "unexpected end of pattern"
  | unknownExtension t => "unknown extension " ++ t
  | badGroupName n => "bad character in group name " ++ quoted n
  | unknownGroupName n => "unknown group name " ++ quoted n
  | repeatedGroupName n new old =>
    "redefinition of group name " ++ quoted n ++ " as group " ++ toString new ++ "; was group "
      ++ toString old
  | unterminatedComment => "missing ), unterminated comment"
  | unterminatedGroup => "missing ), unterminated subpattern"
  | groupZero => "bad group number"
  | branchesOfConditional => "conditional backref with more than two branches"
  | lateFlags => "global flags not at the start of the expression"
  | unknownFlag => "unknown flag"
  | localeFlag => "bad inline flags: cannot use 'L' flag with a str pattern"
  | typeFlags => "bad inline flags: flags 'a', 'u' and 'L' are incompatible"
  | offTypeFlag => "bad inline flags: cannot turn off flags 'a', 'u' and 'L'"
  | onGlobalFlag => "bad inline flags: cannot turn on global flag"
  | offGlobalFlag => "bad inline flags: cannot turn off global flag"
  | onAndOff => "bad inline flags: flag turned on and off"
  | unbalanced => "unbalanced parenthesis"
  | unboundedLookBehind => "look-behind requires fixed-width pattern"
  | templateRepeat op => "internal: unsupported template operator " ++ op

/-- Why a pattern text is no pattern. The first kind is a fault of the text; the others are limits
that the reader itself runs into. -/
inductive Flaw where
  | fault (what : Fault) (position : Option Nat)
  | repeatTooLarge
  | numberTooLong (digits : Nat)
  | conflictingFlags
  deriving DecidableEq, Repr

/-- Line and column, both from one, of a position; the line breaks at or after it do not count. -/
def lineAndColumn (text : List Char) (position : Nat) : Nat × Nat :=
  let before := text.take position
  (before.count '\n' + 1, (before.reverse.takeWhile (· ≠ '\n')).length + 1)

/-- The message of a fault, with its place in the text. -/
def faultText (text : String) (what : Fault) : Option Nat → String
  | none => what.message
  | some position =>
    let cs := text.toList
    let (line, column) := lineAndColumn cs position
    what.message ++ " at position " ++ toString position
      ++ (if cs.contains '\n' then
            " (line " ++ toString line ++ ", column " ++ toString column ++ ")"
          else "")

end Pattern

end EntityStore
