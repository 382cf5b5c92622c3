import MockHost.Text.Quoted

/-!
# Faults in patterns

Why a pattern is refused, and where. A place is a number of characters from the
start of the pattern; in a pattern of several lines the line and the column are
given too. A fault found only after the whole pattern was read has no place.

## Main definitions

* `Cause`: Why a pattern is refused.
* `PatternError`: A cause with its place.
* `PatternError.message`: The text of a refusal.
-/

namespace MockHost.Pattern

/-- Why a pattern is refused. -/
inductive Cause where
  | escapeAtEnd
  | badEscape (escape : Text)
  | incompleteEscape (escape : Text)
  | octalOutOfRange (escape : Text)
  | missingBrace
  | missing (what : Text)
  | unterminatedName (terminator : CodePoint)
  | undefinedCharacter (name : Text)
  | openGroup
  | lookbehindGroup
  | invalidReference (number : Nat)
  | unterminatedSet
  | badRange (low high : Text)
  | minAboveMax
  | nothingToRepeat
  | multipleRepeat
  | unexpectedEnd
  | badGroupName (name : Text)
  | unknownGroup (name : Text)
  | redefinedGroup (name : Text) (number earlier : Nat)
  | unknownExtension (text : Text)
  | unterminatedComment
  | unterminatedGroup
  | badGroupNumber
  | tooManyBranches
  | lateFlags
  | localeFlag
  | incompatibleFlags
  | missingAfterFlags
  | unknownFlag
  | missingFlag
  | missingColon
  | globalFlagOn
  | globalFlagOff
  | classFlagOff
  | flagOnAndOff
  | unbalanced
  | variableLookbehind
  | farLookbehind
  | templateRepeat (kind : Text)
  deriving DecidableEq, Repr

/-- The text of a cause. -/
def Cause.message : Cause → Text
  | .escapeAtEnd => "bad escape (end of pattern)"
  | .badEscape escape => "bad escape " ++ escape
  | .incompleteEscape escape => "incomplete escape " ++ escape
  | .octalOutOfRange escape =>
    "octal escape value " ++ escape ++ " outside of range 0-0o377"
  | .missingBrace => "missing \x7b"
  | .missing what => "missing " ++ what
  | .unterminatedName terminator => "missing " ++ [terminator] ++ ", unterminated name"
  | .undefinedCharacter name => "undefined character name " ++ name.quoted
  | .openGroup => "cannot refer to an open group"
  | .lookbehindGroup => "cannot refer to group defined in the same lookbehind subpattern"
  | .invalidReference number => "invalid group reference " ++ Text.ofNat number
  | .unterminatedSet => "unterminated character set"
  | .badRange low high => "bad character range " ++ low ++ "-" ++ high
  | .minAboveMax => "min repeat greater than max repeat"
  | .nothingToRepeat => "nothing to repeat"
  | .multipleRepeat => "multiple repeat"
  | .unexpectedEnd => "unexpected end of pattern"
  | .badGroupName name => "bad character in group name " ++ name.quoted
  | .unknownGroup name => "unknown group name " ++ name.quoted
  | .redefinedGroup name number earlier =>
    "redefinition of group name " ++ name.quoted ++ " as group " ++ Text.ofNat number ++
      "; was group " ++ Text.ofNat earlier
  | .unknownExtension text => "unknown extension ?" ++ text
  | .unterminatedComment => "missing ), unterminated comment"
  | .unterminatedGroup => "missing ), unterminated subpattern"
  | .badGroupNumber => "bad group number"
  | .tooManyBranches => "conditional backref with more than two branches"
  | .lateFlags => "global flags not at the start of the expression"
  | .localeFlag => "bad inline flags: cannot use 'L' flag with a str pattern"
  | .incompatibleFlags => "bad inline flags: flags 'a', 'u' and 'L' are incompatible"
  | .missingAfterFlags => "missing -, : or )"
  | .unknownFlag => "unknown flag"
  | .missingFlag => "missing flag"
  | .missingColon => "missing :"
  | .globalFlagOn => "bad inline flags: cannot turn on global flag"
  | .globalFlagOff => "bad inline flags: cannot turn off global flag"
  | .classFlagOff => "bad inline flags: cannot turn off flags 'a', 'u' and 'L'"
  | .flagOnAndOff => "bad inline flags: flag turned on and off"
  | .unbalanced => "unbalanced parenthesis"
  | .variableLookbehind => "look-behind requires fixed-width pattern"
  | .farLookbehind => "looks too much behind"
  | .templateRepeat kind => "internal: unsupported template operator " ++ kind

/-- Why a pattern cannot be used. -/
inductive PatternError where
  /-- A fault in the pattern, at a place unless it concerns the whole. -/
  | fault (cause : Cause) (position : Option Nat)
  /-- The pattern asks for the characters of ASCII and for those of every script. -/
  | asciiAndUnicode
  /-- A repetition count is too large. -/
  | countTooLarge
  /-- A repetition count has more digits than an integer may be written with. -/
  | tooManyDigits (digits : Nat)
  deriving DecidableEq, Repr

/-- The place of a fault. In a pattern of several lines the line and column are
    given too; a column counts from one. -/
def placeText (pattern : Text) (position : Nat) : Text :=
  let before := pattern.take position
  let line := before.count 10 + 1
  let column := (before.reverse.takeWhile (· != 10)).length + 1
  " at position " ++ Text.ofNat position ++
    if pattern.contains 10 then
      " (line " ++ Text.ofNat line ++ ", column " ++ Text.ofNat column ++ ")"
    else Text.ofString ""

/-- The text of a refusal of `pattern`. -/
def PatternError.message (pattern : Text) : PatternError → Text
  | .fault cause (some position) => cause.message ++ placeText pattern position
  | .fault cause none => cause.message
  | .asciiAndUnicode => "ASCII and UNICODE flags are incompatible"
  | .countTooLarge => "the repetition number is too large"
  | .tooManyDigits digits =>
    "Exceeds the limit (4300 digits) for integer string conversion: value has " ++
      Text.ofNat digits ++ " digits; use sys.set_int_max_str_digits() to increase the limit"

end MockHost.Pattern
