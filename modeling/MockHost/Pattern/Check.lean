import MockHost.Pattern.Grammar

/-!
# Checking a pattern

Faults that only the complete pattern shows: a lookbehind has to know how far to
look, and a template may not repeat anything.

## Main definitions

* `Node.fault?`: The first fault in a part.
* `Pattern`: A pattern ready for matching.
* `Pattern.compile`: The pattern that a text denotes.
-/

namespace MockHost

namespace Pattern

/-- The largest distance that a lookbehind can look back. -/
def farthest : Nat := 4294967295

/-- How a repetition is called in a fault. -/
def Greed.label : Greed → Text
  | .greedy => "MAX_REPEAT"
  | .lazy => "MIN_REPEAT"
  | .possessive => "POSSESSIVE_REPEAT"

/-- The fault of a lookbehind of some width. -/
def lookbehindFault? (w : Width) : Option Cause :=
  if w.least > farthest then some .farLookbehind
  else if w.least ≠ w.greatest then some .variableLookbehind
  else none

mutual

/-- The first fault in a part. -/
def Node.fault? (template : Bool) (groups : Array (Option Width)) : Node → Option Cause
  | .loop greed _ _ body =>
    if template then some (.templateRepeat greed.label) else sequenceFault? template groups body
  | .look behind _ body =>
    (if behind then lookbehindFault? (sequenceWidth groups body) else none).or
      (sequenceFault? template groups body)
  | .alternatives options => optionsFault? template groups options
  | .group _ _ _ body | .atomic body => sequenceFault? template groups body
  | .conditional _ whenSet otherwise =>
    (sequenceFault? template groups whenSet).or (sequenceFault? template groups otherwise)
  | _ => none

/-- The first fault in a sequence. -/
def sequenceFault? (template : Bool) (groups : Array (Option Width)) :
    List Node → Option Cause
  | [] => none
  | n :: ns => (n.fault? template groups).or (sequenceFault? template groups ns)

/-- The first fault in a choice. -/
def optionsFault? (template : Bool) (groups : Array (Option Width)) :
    List (List Node) → Option Cause
  | [] => none
  | o :: os => (sequenceFault? template groups o).or (optionsFault? template groups os)

end

end Pattern

/-- A pattern ready for matching. -/
structure Pattern where
  nodes : List Pattern.Node
  flags : Pattern.Flags
  /-- The widths of the groups, by number. -/
  groups : Array (Option Pattern.Width)

/-- The pattern that a text denotes. -/
def Pattern.compile (t : Text) : Except Pattern.PatternError Pattern := do
  let p ← Pattern.parse t
  match Pattern.sequenceFault? p.flags.template p.groups p.nodes with
  | some cause => throw (.fault cause none)
  | none => return ⟨p.nodes, p.flags, p.groups⟩

end MockHost
