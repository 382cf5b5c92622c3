import MockHost.Number.Integer
import MockHost.Pattern.Reading
import MockHost.Unicode.Identifier
import MockHost.Unicode.Name

/-!
# The grammar of patterns

A pattern is a choice of sequences of parts; a part may be followed by a
repetition, and groups hold choices again. Two simplifications are made while
reading, since they decide what a later repetition applies to. What all options of
a choice begin with is taken out of the choice, and a choice between single
characters is a set. A group without number and flags is replaced by its parts.

The reading functions recurse on a bound that is larger than three times the
number of characters: every step takes a token, opens a group or ends a choice.

## Main definitions

* `Read.escape`, `Read.classEscape`: What follows a backslash.
* `Read.bracketed`: A set of characters.
* `choice`: The node of several options.
* `Read.sequence`, `Read.options`: Sequences and choices.
* `parse`: A whole pattern.
-/

namespace MockHost.Pattern

/-- The character a letter stands for after a backslash, in sets too. -/
def controlEscape? (c : CodePoint) : Option CodePoint :=
  if c = 97 then some 7
  else if c = 98 then some 8
  else if c = 102 then some 12
  else if c = 110 then some 10
  else if c = 114 then some 13
  else if c = 116 then some 9
  else if c = 118 then some 11
  else if c = 92 then some 92
  else none

/-- The class that a letter stands for after a backslash, and whether it is negated. -/
def shorthand? (c : CodePoint) : Option (Shorthand × Bool) :=
  if c = 100 then some (.digit, false)
  else if c = 68 then some (.digit, true)
  else if c = 115 then some (.blank, false)
  else if c = 83 then some (.blank, true)
  else if c = 119 then some (.word, false)
  else if c = 87 then some (.word, true)
  else none

/-- The place that a letter stands for after a backslash. -/
def anchor? (c : CodePoint) : Option Anchor :=
  if c = 65 then some .textStart
  else if c = 98 then some .wordBoundary
  else if c = 66 then some .noWordBoundary
  else if c = 90 then some .textEnd
  else none

def isHexDigit (c : CodePoint) : Bool := (Text.hexDigit? c).isSome

def isOctalDigit (c : CodePoint) : Bool := 48 ≤ c && c ≤ 55

def isAsciiLetter (c : CodePoint) : Bool := (65 ≤ c && c ≤ 90) || (97 ≤ c && c ≤ 122)

/-- The number that digits denote in a base up to sixteen. -/
def numeral (base : Nat) (ds : Text) : Nat :=
  ds.foldl (fun n c => base * n + (Text.hexDigit? c).getD 0) 0

namespace Read

/-- A character given by exactly `n` hexadecimal digits after `\` and `letter`. -/
def hexEscape (letter : CodePoint) (n : Nat) : Read CodePoint := do
  let ds ← takeWhileIn isHexDigit n
  if ds.length ≠ n then fail (.incompleteEscape (92 :: letter :: ds)) (2 + ds.length)
  let c := numeral 16 ds
  if c > CodePoint.last then fail (.badEscape (92 :: letter :: ds)) (2 + ds.length)
  return c

/-- A character given by its name between braces. -/
def namedEscape : Read CodePoint := do
  unless ← accept 123 do fail .missingBrace 0
  let name ← name 125 "character name"
  match Unicode.namedPoint? name with
  | some c => return c
  | none => fail (.undefinedCharacter name) (name.length + 4)

/-- A character given by up to three octal digits, the first of them already taken. -/
def octalEscape (ds : Text) : Read CodePoint := do
  let c := numeral 8 ds
  if c > 0o377 then fail (.octalOutOfRange (92 :: ds)) (1 + ds.length)
  return c

/-- The escapes that mean the same inside a set and outside, where no shorter rule
    applies: digits in hexadecimal, names, and characters that stand for themselves. -/
def commonEscape (c : CodePoint) : Read CodePoint := do
  if c = 120 then hexEscape c 2
  else if c = 117 then hexEscape c 4
  else if c = 85 then hexEscape c 8
  else if c = 78 then namedEscape
  else if isAsciiLetter c || Text.isDigit c then fail (.badEscape [92, c]) 2
  else return c

/-- What `\` and `c` mean in a set. -/
def classEscape (c : CodePoint) : Read SetItem := do
  match controlEscape? c, shorthand? c with
  | some d, _ => return .single d
  | _, some (k, negated) => return .shorthand k negated
  | none, none =>
    if isOctalDigit c then
      return .single (← octalEscape (c :: (← takeWhileIn isOctalDigit 2)))
    else return .single (← commonEscape c)

/-- A reference to a group or a character in octal, after `\` and a digit that is not zero. -/
def numberEscape (c : CodePoint) : Read Node := do
  let second ← takeWhileIn Text.isDigit 1
  let third ←
    if isOctalDigit c && !second.isEmpty && second.all isOctalDigit then takeWhileIn isOctalDigit 1
    else pure []
  let ds := c :: second ++ third
  if !third.isEmpty then return .single (← octalEscape ds)
  let number := numeral 10 ds
  if number < (← get).groups.size then
    unless ← isComplete number do fail .openGroup (1 + ds.length)
    checkLookbehind number
    return .backreference number
  else fail (.invalidReference number) ds.length

/-- What `\` and `c` mean outside a set. -/
def escape (c : CodePoint) : Read Node := do
  match anchor? c, shorthand? c, controlEscape? c with
  | some a, _, _ => return .anchor a
  | _, some (k, negated), _ => return .set false [.shorthand k negated]
  | _, _, some d => return .single d
  | none, none, none =>
    if c = 48 then return .single (numeral 8 (← takeWhileIn isOctalDigit 2))
    else if Text.isDigit c then numberEscape c
    else return .single (← commonEscape c)

/-- The item of a set that starts with the token just taken. -/
def setItem : Text → Read SetItem
  | [92, c] => classEscape c
  | token => return .single (token.headD 0)

/-- The items of a set that starts at `start`, up to and with its closing bracket.
    `seen` holds those before, latest first. -/
def setItems (start : Nat) : Nat → List SetItem → Read (List SetItem)
  | 0, seen => return seen.reverse
  | fuel + 1, seen => do
    match ← take with
    | none => failAt .unterminatedSet start
    | some this =>
      if this = [93] ∧ seen ≠ [] then return seen.reverse
      let low ← setItem this
      if ← accept 45 then
        match ← take with
        | none => failAt .unterminatedSet start
        | some that =>
          if that = [93] then return (SetItem.single 45 :: low :: seen).reverse
          let high ← setItem that
          match low, high with
          | .single a, .single b =>
            if b < a then fail (.badRange this that) (this.length + 1 + that.length)
            else setItems start fuel (.range a b :: seen)
          | _, _ => fail (.badRange this that) (this.length + 1 + that.length)
      else setItems start fuel (low :: seen)

/-- A set, after its opening bracket. A set of one character is that character. -/
def bracketed : Read Node := do
  let start := (← place) - 1
  let negated ← accept 94
  let items ← setItems start (← left) []
  match items.eraseDups, negated with
  | [.single c], false => return .single c
  | [.single c], true => return .notSingle c
  | items, negated => return .set negated items

/-- The bounds of a repetition. -/
structure Bounds where
  least : Nat
  most : Option Nat

/-- No count may be as large as this one. -/
def countLimit : Nat := 4294967295

/-- A count in digits; nothing where there are none. -/
def count? (ds : Text) : Read (Option Nat) := do
  if ds.isEmpty then return none
  if ds.length > Integer.maxDigits then throw (.tooManyDigits ds.length)
  let n := Text.digitsValue ds
  if n ≥ countLimit then throw .countTooLarge
  return some n

/-- Bounds between braces, after the opening brace; nothing, and nothing taken, where
    what follows are no bounds. -/
def bracedBounds? : Read (Option Bounds) := do
  let before ← get
  if before.ahead = some [125] then return none
  let low ← takeWhileIn Text.isDigit (← left)
  let comma ← accept 44
  let high ← if comma then takeWhileIn Text.isDigit (← left) else pure low
  unless ← accept 125 do
    set before
    return none
  let least ← count? low
  let most ← count? high
  match most with
  | some n =>
    if n < least.getD 0 then failAt .minAboveMax before.place
  | none => pure ()
  return some ⟨least.getD 0, most⟩

end Read

/-- Whether two parts are the same and hold no parts of their own. -/
def Node.sameLeaf : Node → Node → Bool
  | .single a, .single b | .notSingle a, .notSingle b => a == b
  | .any, .any => true
  | .set m as, .set n bs => m == n && as == bs
  | .anchor a, .anchor b => a == b
  | .backreference a, .backreference b => a == b
  | _, _ => false

/-- What two or more options begin with, and the options without it. -/
def commonStart : List Node → List (List Node) → List Node × List (List Node)
  | [], others => ([], [] :: others)
  | n :: ns, others =>
    if others.all fun o => (o.head?.map n.sameLeaf).getD false then
      let (common, rest) := commonStart ns (others.map List.tail)
      (n :: common, rest)
    else ([], (n :: ns) :: others)

/-- The items of the set that an option is, if it takes one of listed characters. -/
def listedCharacters? : List Node → Option (List SetItem)
  | [.single c] => some [.single c]
  | [.set false items] => some items
  | _ => none

/-- The parts of a choice. -/
def choice : List (List Node) → List Node
  | [] => []
  | [only] => only
  | first :: others =>
    let (common, options) := commonStart first others
    match options.mapM listedCharacters? with
    | some sets => common ++ [.set false sets.flatten.eraseDups]
    | none => common ++ [.alternatives options]

/-- The parts of a group that has neither number nor flags, and any other part alone. -/
def Node.unwrapped : Node → List Node
  | .group none added removed body =>
    if added.isEmpty && removed.isEmpty then body else [.group none added removed body]
  | n => [n]

/-- What a repetition after a part repeats. -/
def Node.repeated : Node → List Node := Node.unwrapped

/-- Whether a token is white space, which a verbose pattern may hold anywhere. -/
def isSpaceToken : Text → Bool
  | [c] => (9 ≤ c && c ≤ 13) || c == 32
  | _ => false

/-- Whether a token is a single letter. -/
def isLetterToken : Text → Bool
  | [c] => Unicode.isLetter c
  | _ => false

/-- The flag that a token stands for. -/
def flagToken? : Text → Option Flags
  | [c] => Flags.ofLetter? c
  | _ => none

namespace Read

/-- Drops the rest of a line. -/
def skipLine : Nat → Read Unit
  | 0 => return
  | fuel + 1 => do
    match ← take with
    | none => return
    | some token => if token = [10] then return else skipLine fuel

/-- Drops a comment that started at `start`, up to and with its closing parenthesis. -/
def skipComment (start : Nat) : Nat → Read Unit
  | 0 => return
  | fuel + 1 => do
    match ← peek with
    | none => failAt .unterminatedComment start
    | some token =>
      let _ ← take
      if token = [41] then return else skipComment start fuel

/-- The flags that a group sets, from `token` on, and the token that ends them. -/
def addedFlags : Nat → Text → Flags → Read (Flags × Text)
  | 0, token, added => return (added, token)
  | fuel + 1, token, added => do
    let flag := (flagToken? token).getD {}
    if flag.locale then fail .localeFlag 0
    let added := added.union flag
    if flag.meets .classes && added.without (added.without .classes) != flag then
      fail .incompatibleFlags 0
    match ← take with
    | none => fail .missingAfterFlags 0
    | some next =>
      if next = [41] ∨ next = [45] ∨ next = [58] then return (added, next)
      else if (flagToken? next).isNone then
        fail (if isLetterToken next then .unknownFlag else .missingAfterFlags) next.length
      else addedFlags fuel next added

/-- The flags that a group clears, from `token` on, up to and with the colon. -/
def removedFlags : Nat → Text → Flags → Read Flags
  | 0, _, removed => return removed
  | fuel + 1, token, removed => do
    let flag := (flagToken? token).getD {}
    if flag.meets .classes then fail .classFlagOff 0
    let removed := removed.union flag
    match ← take with
    | none => fail .missingColon 0
    | some next =>
      if next = [58] then return removed
      else if (flagToken? next).isNone then
        fail (if isLetterToken next then .unknownFlag else .missingColon) next.length
      else removedFlags fuel next removed

/-- The flags of a group from `token` on, those it sets and those it clears; nothing
    where they were set for the whole pattern. -/
def flags (token : Text) : Read (Option (Flags × Flags)) := do
  let (added, ending) ←
    if token = [45] then pure (({} : Flags), token) else addedFlags (← left) token {}
  if ending = [41] then
    modify fun r => { r with flags := r.flags.union added }
    return none
  if added.template then fail .globalFlagOn 1
  let removed ←
    if ending = [45] then
      match ← take with
      | none => fail .missingFlag 0
      | some next =>
        if (flagToken? next).isNone then
          fail (if isLetterToken next then .unknownFlag else .missingFlag) next.length
        else removedFlags (← left) next {}
    else pure {}
  if removed.template then fail .globalFlagOff 1
  if added.meets removed then fail .flagOnAndOff 1
  return some (added, removed)

/-- The name of a group, which is an identifier. -/
def groupName (terminator : CodePoint) : Read Text := do
  let name ← name terminator "group name"
  unless Unicode.isIdentifier name do fail (.badGroupName name) (name.length + 1)
  return name

/-- A reference by name, after `(?P=`. -/
def namedReference : Read Node := do
  let name ← groupName 41
  match (← get).names.lookup name with
  | none => fail (.unknownGroup name) (name.length + 1)
  | some number =>
    unless ← isComplete number do fail .openGroup (name.length + 1)
    checkLookbehind number
    return .backreference number

/-- More groups than a pattern can have. -/
def groupLimit : Nat := 1073741823

/-- The group that a condition asks for, after `(?(`. -/
def condition : Read Nat := do
  let name ← name 41 "group name"
  let number ←
    if Unicode.isIdentifier name then
      match (← get).names.lookup name with
      | none => fail (.unknownGroup name) (name.length + 1)
      | some number => pure number
    else
      match Integer.read? name with
      | some (.ofNat number) =>
        if number = 0 then fail .badGroupNumber (name.length + 1)
        if number ≥ groupLimit then fail (.invalidReference number) (name.length + 1)
        modify fun r =>
          if r.references.any (·.1 == number) then r
          else { r with references := (number, r.place - name.length - 1) :: r.references }
        pure number
      | _ => fail (.badGroupName name) (name.length + 1)
  checkLookbehind number
  return number

/-- What the characters after an opening parenthesis make of a group. -/
inductive GroupKind where
  | capturing (name : Option Text)
  | plain (added removed : Flags)
  | atomic
  | look (behind negated : Bool)
  | conditional (number : Nat)
  | reference (n : Node)
  | comment
  | globalFlags

/-- The kind of a group that started at `start`, after its opening parenthesis. -/
def groupKind (start : Nat) : Read GroupKind := do
  unless ← accept 63 do return .capturing none
  match ← take with
  | none => fail .unexpectedEnd 0
  | some [80] =>
    if ← accept 60 then return .capturing (some (← groupName 62))
    else if ← accept 61 then return .reference (← namedReference)
    else
      match ← take with
      | none => fail .unexpectedEnd 0
      | some token => fail (.unknownExtension (80 :: token)) (token.length + 2)
  | some [58] => return .plain {} {}
  | some [35] =>
    skipComment start (← left)
    return .comment
  | some [61] => return .look false false
  | some [33] => return .look false true
  | some [60] =>
    match ← take with
    | none => fail .unexpectedEnd 0
    | some [61] => return .look true false
    | some [33] => return .look true true
    | some token => fail (.unknownExtension (60 :: token)) (token.length + 2)
  | some [40] => return .conditional (← condition)
  | some [62] => return .atomic
  | some token =>
    if (flagToken? token).isSome ∨ token = [45] then
      match ← flags token with
      | none => return .globalFlags
      | some (added, removed) => return .plain added removed
    else fail (.unknownExtension token) (token.length + 1)

/-- The closing parenthesis of a group that started at `start`. -/
def closing (start : Nat) : Read Unit := do
  unless ← accept 41 do failAt .unterminatedGroup start

/-- The bounds of a repetition that starts with `token`; nothing where the token is a
    brace that stands for itself. -/
def bounds? (token : Text) : Read (Option Bounds) := do
  if token = [63] then return some ⟨0, some 1⟩
  else if token = [42] then return some ⟨0, none⟩
  else if token = [43] then return some ⟨1, none⟩
  else bracedBounds?

/-- How a repetition chooses its count, which a sign after its bounds may say. -/
def greed : Read Greed := do
  if ← accept 63 then return .lazy
  if ← accept 43 then return .possessive
  return .greedy

/-- The parts before a repetition, latest first, with the last of them repeated. The
    repetition started before `start`. -/
def repetition (start : Nat) (b : Bounds) (done : List Node) : Read (List Node) := do
  match done with
  | [] | .anchor _ :: _ => failAt .nothingToRepeat (start - 1)
  | .loop .. :: _ => failAt .multipleRepeat (start - 1)
  | last :: before =>
    return .loop (← greed) b.least b.most last.repeated :: before

mutual

/-- The parts of a sequence; `done` holds those before, latest first. At the top of a
    pattern, `first` marks the first option, which alone may set flags for the whole. -/
def sequence (verbose first : Bool) : Nat → List Node → Read (List Node)
  | 0, done => return done.reverse.flatMap Node.unwrapped
  | fuel + 1, done => do
    match ← peek with
    | none | some [124] | some [41] => return done.reverse.flatMap Node.unwrapped
    | some token =>
      let _ ← take
      if verbose && isSpaceToken token then sequence verbose first fuel done
      else if verbose && token = [35] then
        skipLine (← left)
        sequence verbose first fuel done
      else
        match token with
        | [92, c] => sequence verbose first fuel ((← escape c) :: done)
        | [91] => sequence verbose first fuel ((← bracketed) :: done)
        | [46] => sequence verbose first fuel (.any :: done)
        | [94] => sequence verbose first fuel (.anchor .start :: done)
        | [36] => sequence verbose first fuel (.anchor .finish :: done)
        | [40] => group verbose first fuel ((← place) - 1) done
        | token =>
          if token = [42] ∨ token = [43] ∨ token = [63] ∨ token = [123] then
            let start ← place
            match ← bounds? token with
            | none => sequence verbose first fuel (.single 123 :: done)
            | some b => sequence verbose first fuel (← repetition start b done)
          else sequence verbose first fuel (.single (token.headD 0) :: done)

/-- A group that starts at `start`, and the parts after it. -/
def group (verbose first : Bool) : Nat → Nat → List Node → Read (List Node)
  | 0, _, done => return done.reverse.flatMap Node.unwrapped
  | fuel + 1, start, done => do
    match ← groupKind start with
    | .comment => sequence verbose first fuel done
    | .reference n => sequence verbose first fuel (n :: done)
    | .globalFlags =>
      unless first && done.isEmpty do failAt .lateFlags start
      sequence (← get).flags.verbose first fuel done
    | .look behind negated =>
      let before := (← get).lookbehind
      if behind && before.isNone then
        modify fun r => { r with lookbehind := some r.groups.size }
      let body ← options verbose true fuel false []
      if behind && before.isNone then modify fun r => { r with lookbehind := none }
      closing start
      sequence verbose first fuel (.look behind negated body :: done)
    | .conditional number =>
      let whenSet ← sequence verbose false fuel []
      let otherwise ←
        if ← accept 124 then
          let otherwise ← sequence verbose false fuel []
          if (← peek) = some [124] then fail .tooManyBranches 0
          pure otherwise
        else pure []
      closing start
      sequence verbose first fuel (.conditional number whenSet otherwise :: done)
    | .atomic =>
      let body ← options verbose true fuel false []
      closing start
      sequence verbose first fuel (.atomic body :: done)
    | .capturing name =>
      let number ← openGroup name
      let body ← options verbose true fuel false []
      closing start
      closeGroup number body
      sequence verbose first fuel (.group (some number) {} {} body :: done)
    | .plain added removed =>
      let inner := (verbose || added.verbose) && !removed.verbose
      let body ← options inner true fuel false []
      closing start
      sequence verbose first fuel (.group none added removed body :: done)

/-- The parts of a choice; `seen` holds the options before, latest first. Flags for the
    whole pattern take effect at the next option of the outermost choice. -/
def options (verbose nested : Bool) : Nat → Bool → List (List Node) → Read (List Node)
  | 0, _, seen => return choice seen.reverse
  | fuel + 1, first, seen => do
    let option ← sequence verbose first fuel []
    if ← accept 124 then
      let global := (← get).flags.verbose
      options (if nested then verbose else global) nested fuel false (option :: seen)
    else return choice (option :: seen).reverse

end

end Read

/-- A pattern that has been read. -/
structure Parsed where
  nodes : List Node
  flags : Flags
  groups : Array (Option Width)

/-- The parts of a pattern, in which the dot accepts line breaks. -/
def parse (pattern : Text) : Except PatternError Parsed := do
  let start ← Reading.start pattern { dotAll := true }
  let (nodes, r) ← (Read.options false false (3 * pattern.length + 4) true []).run start
  if r.flags.ascii && r.flags.unicode then throw .asciiAndUnicode
  if r.ahead.isSome then throw (.fault .unbalanced (some r.place))
  match r.references.reverse.find? fun p => r.groups.size ≤ p.1 with
  | some (number, place) => throw (.fault (.invalidReference number) (some place))
  | none => pure ()
  let flags := if r.flags.ascii then r.flags else { r.flags with unicode := true }
  return ⟨nodes, flags, r.groups⟩

end MockHost.Pattern
