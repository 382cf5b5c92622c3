import MockHost.Pattern.Error
import MockHost.Pattern.Syntax

/-!
# Reading a pattern

A pattern is read token by token, a token being a character or a backslash with
the character after it. One token is always read ahead, so a backslash at the end
of the pattern is refused as soon as the token before it is taken. Beside the
place the reader remembers what earlier parts of the pattern mean for later ones:
the groups that are complete, their names, and the flags set for the whole.

## Main definitions

* `Reading`: The place in the pattern and what is known so far.
* `Read`: A step of reading.
* `Read.take`, `Read.accept`, `Read.takeWhileIn`, `Read.takeUntil`: Taking tokens.
* `Read.openGroup`, `Read.closeGroup`, `Read.checkLookbehind`: Groups.
-/

namespace MockHost.Pattern

/-- The place in a pattern and what the parts before it have settled. -/
structure Reading where
  /-- The characters after the token ahead. -/
  rest : Text
  /-- The token ahead. -/
  ahead : Option Text
  /-- The number of characters before `rest`. -/
  index : Nat
  /-- The flags of the whole pattern. -/
  flags : Flags
  /-- The names of groups, latest first. -/
  names : List (Text × Nat)
  /-- The widths of the groups that are complete; group 0 is the whole. -/
  groups : Array (Option Width)
  /-- The number of groups before the outermost lookbehind that is open. -/
  lookbehind : Option Nat
  /-- The groups that conditions refer to by number and the places of the references,
      latest first. -/
  references : List (Nat × Nat)

/-- A step of reading. -/
abbrev Read := StateT Reading (Except PatternError)

/-- The place of the token ahead. -/
def Reading.place (r : Reading) : Nat := r.index - (r.ahead.getD []).length

/-- Moves to the next token. -/
def Reading.advance (r : Reading) : Except PatternError Reading :=
  match r.rest with
  | [] => .ok { r with ahead := none }
  | [92] => .error (.fault .escapeAtEnd (some r.index))
  | 92 :: c :: rest => .ok { r with rest := rest, ahead := some [92, c], index := r.index + 2 }
  | c :: rest => .ok { r with rest := rest, ahead := some [c], index := r.index + 1 }

/-- The start of a pattern. -/
def Reading.start (pattern : Text) (flags : Flags) : Except PatternError Reading :=
  Reading.advance ⟨pattern, none, 0, flags, [], #[none], none, []⟩

namespace Read

/-- Refuses the pattern at `back` characters before the token ahead. -/
def fail {α : Type} (cause : Cause) (back : Nat) : Read α := do
  throw (.fault cause (some ((← get).place - back)))

/-- Refuses the pattern at a place. -/
def failAt {α : Type} (cause : Cause) (place : Nat) : Read α :=
  throw (.fault cause (some place))

/-- The token ahead. -/
def peek : Read (Option Text) := return (← get).ahead

/-- The place of the token ahead. -/
def place : Read Nat := return (← get).place

/-- Takes the token ahead. -/
def take : Read (Option Text) := do
  let r ← get
  set (← r.advance)
  return r.ahead

/-- Takes the token ahead if it is the character `c`. -/
def accept (c : CodePoint) : Read Bool := do
  if (← peek) = some [c] then
    let _ ← take
    return true
  else return false

/-- Takes at most `n` tokens that are single characters of a class. -/
def takeWhileIn (class_ : CodePoint → Bool) : Nat → Read Text
  | 0 => return []
  | n + 1 => do
    match ← peek with
    | some [c] =>
      if class_ c then
        let _ ← take
        return c :: (← takeWhileIn class_ n)
      else return []
    | _ => return []

/-- Takes tokens up to and with `terminator`; what is before it names something and
    may not be empty. At most `fuel` tokens are left. -/
def takeUntil (terminator : CodePoint) (what : Text) : Nat → Text → Read Text
  | 0, taken => return taken
  | fuel + 1, taken => do
    match ← take with
    | none =>
      if taken.isEmpty then fail (.missing what) 0
      else fail (.unterminatedName terminator) taken.length
    | some token =>
      if token = [terminator] then
        if taken.isEmpty then fail (.missing what) 1 else return taken
      else takeUntil terminator what fuel (taken ++ token)

/-- The number of characters that are left, the token ahead among them, and one more. -/
def left : Read Nat := return (← get).rest.length + 2

/-- A name up to and with `terminator`. -/
def name (terminator : CodePoint) (what : Text) : Read Text := do
  takeUntil terminator what (← left) []

/-- Opens the next group, perhaps with a name. -/
def openGroup (name : Option Text) : Read Nat := do
  let r ← get
  let number := r.groups.size
  match name with
  | none => set { r with groups := r.groups.push none }
  | some name =>
    set { r with groups := r.groups.push none, names := (name, number) :: r.names }
    match r.names.lookup name with
    | some earlier => fail (.redefinedGroup name number earlier) (name.length + 1)
    | none => pure ()
  return number

/-- Completes a group. -/
def closeGroup (number : Nat) (body : List Node) : Read Unit :=
  modify fun r =>
    { r with groups := r.groups.setIfInBounds number (some (sequenceWidth r.groups body)) }

/-- Whether a group is complete. -/
def isComplete (number : Nat) : Read Bool := return ((← get).groups[number]?.join).isSome

/-- Refuses a reference inside a lookbehind to a group that the lookbehind defines
    or that is not complete. -/
def checkLookbehind (number : Nat) : Read Unit := do
  match (← get).lookbehind with
  | none => return
  | some before =>
    unless ← isComplete number do fail .openGroup 0
    if before ≤ number then fail .lookbehindGroup 0

end Read

end MockHost.Pattern
