import MockHost.Text.Basic

/-!
# Pattern flags

The switches of a pattern. They hold for a whole pattern or, written in a group,
for that group alone. Which class of characters a shorthand such as the word
character stands for is a switch with two positions, so setting one of `ascii` and
`unicode` clears the other.

## Main definitions

* `Flags`: The switches.
* `Flags.ofLetter?`: The switch for a letter in a pattern.
* `Flags.within`: The switches inside a group that sets some and clears others.
-/

namespace MockHost.Pattern

/-- The switches of a pattern. -/
structure Flags where
  ignoreCase : Bool := false
  multiLine : Bool := false
  dotAll : Bool := false
  verbose : Bool := false
  ascii : Bool := false
  unicode : Bool := false
  /-- Templates may not repeat anything. -/
  template : Bool := false
  /-- The class of characters of a locale, which text patterns refuse. -/
  locale : Bool := false
  deriving DecidableEq, Repr

namespace Flags

/-- The switch for a letter. -/
def ofLetter? (c : CodePoint) : Option Flags :=
  if c = 105 then some { ignoreCase := true }
  else if c = 76 then some { locale := true }
  else if c = 109 then some { multiLine := true }
  else if c = 115 then some { dotAll := true }
  else if c = 120 then some { verbose := true }
  else if c = 97 then some { ascii := true }
  else if c = 116 then some { template := true }
  else if c = 117 then some { unicode := true }
  else none

/-- The switches set in one of two. -/
def union (a b : Flags) : Flags where
  ignoreCase := a.ignoreCase || b.ignoreCase
  multiLine := a.multiLine || b.multiLine
  dotAll := a.dotAll || b.dotAll
  verbose := a.verbose || b.verbose
  ascii := a.ascii || b.ascii
  unicode := a.unicode || b.unicode
  template := a.template || b.template
  locale := a.locale || b.locale

/-- The switches set in the first and not in the second. -/
def without (a b : Flags) : Flags where
  ignoreCase := a.ignoreCase && !b.ignoreCase
  multiLine := a.multiLine && !b.multiLine
  dotAll := a.dotAll && !b.dotAll
  verbose := a.verbose && !b.verbose
  ascii := a.ascii && !b.ascii
  unicode := a.unicode && !b.unicode
  template := a.template && !b.template
  locale := a.locale && !b.locale

/-- Whether some switch is set in both. -/
def meets (a b : Flags) : Bool := a.without b != a

/-- Whether no switch is set. -/
def isEmpty (a : Flags) : Bool := a == {}

/-- The switches that choose a class of characters. -/
def classes : Flags := { ascii := true, unicode := true, locale := true }

/-- The switches inside a group that sets `added` and clears `removed`. -/
def within (outer added removed : Flags) : Flags :=
  let kept := if added.meets classes then outer.without classes else outer
  (kept.union added).without removed

end Flags

end MockHost.Pattern
