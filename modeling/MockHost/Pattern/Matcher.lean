import MockHost.Pattern.Check

/-!
# Matching

A pattern is matched by trying its parts in order and going back to the last
choice when the rest of the pattern fails. What the rest is comes as a function,
so a part is matched by calling that function at each place where the part may
end, best place first.

The groups set so far are marks: the starts and ends of groups by number, and a
count of those that are in use. Going back resets the count. The marks below the
count are reset only inside a repetition; elsewhere a group that was set by an
attempt that failed later keeps its marks, and a condition may still see them. For
this reason an attempt that fails gives back its marks too.

## Main definitions

* `Marks`, `Place`, `Outcome`: The groups set, where matching stands, how it ended.
* `greedy`, `sparing`, `possessive`: Repetitions of arbitrary parts.
* `greedyRun`, `sparingRun`: Repetitions of one character.
* `Node.matchThen`, `matchSequence`, `matchOptions`: Parts, sequences and choices.
* `Pattern.accepts`: Whether a pattern matches a whole text.
-/

namespace MockHost

namespace Pattern

/-- The starts and ends of groups. Group `n` has its start at `2 * n - 2` and its end
    at the next index; marks from `used` on are not set. -/
structure Marks where
  places : Array (Option Nat)
  used : Nat
  deriving Inhabited

/-- Sets a mark. Those between the marks in use and this one are cleared. -/
def Marks.set (m : Marks) (i place : Nat) : Marks :=
  if i < m.used then { m with places := m.places.setIfInBounds i (some place) }
  else
    let cleared := (List.range' m.used (i - m.used)).foldl
      (fun (ps : Array (Option Nat)) j => ps.setIfInBounds j none) m.places
    ⟨cleared.setIfInBounds i (some place), i + 1⟩

/-- The start and end of a group, if both are set and in order. -/
def Marks.span? (m : Marks) (number : Nat) : Option (Nat × Nat) :=
  let i := 2 * number - 2
  if i + 1 < m.used then
    match m.places[i]?.join, m.places[i + 1]?.join with
    | some a, some b => if a ≤ b then some (a, b) else none
    | _, _ => none
  else none

/-- Where matching stands: the characters taken and the groups set. -/
structure Place where
  index : Nat
  marks : Marks
  deriving Inhabited

/-- How an attempt ended, and where. -/
structure Outcome where
  matched : Bool
  place : Place
  deriving Inhabited

/-- The rest of a match. -/
abbrev Rest := Place → Outcome

/-- A failed attempt. -/
def failed (p : Place) : Outcome := ⟨false, p⟩

/-- A successful attempt, for parts matched on their own. -/
def done : Rest := fun p => ⟨true, p⟩

/-- The place from which the next choice is tried after an attempt failed. Inside a
    repetition the marks are those before the attempt. -/
def Place.backTo (before : Place) (inLoop : Bool) (after : Outcome) : Place :=
  if inLoop then before
  else ⟨before.index, ⟨after.place.marks.places, before.marks.used⟩⟩

/-- The greatest count of a repetition is not reached. -/
def below (count : Nat) (most : Option Nat) : Bool :=
  match most with
  | some n => count < n
  | none => true

/-- As many repetitions as possible, then fewer. Beyond the least count a repetition
    that takes nothing ends the loop. `count` repetitions have been made, and the
    last one beyond the least count started at `last`. -/
def greedy (body : Rest → Rest) (least : Nat) (most : Option Nat) (rest : Rest) :
    Nat → Nat → Option Nat → Rest
  | 0, _, _, p => rest p
  | fuel + 1, count, last, p =>
    if count < least then body (greedy body least most rest fuel (count + 1) last) p
    else if below count most && last != some p.index then
      let attempt := body (greedy body least most rest fuel (count + 1) (some p.index)) p
      if attempt.matched then attempt else rest (p.backTo true attempt)
    else rest p

/-- As few repetitions as possible, then more. -/
def sparing (inLoop : Bool) (body : Rest → Rest) (least : Nat) (most : Option Nat)
    (rest : Rest) : Nat → Nat → Option Nat → Rest
  | 0, _, _, p => rest p
  | fuel + 1, count, last, p =>
    if count < least then body (sparing inLoop body least most rest fuel (count + 1) last) p
    else
      let attempt := rest p
      if attempt.matched then attempt
      else
        let p := p.backTo inLoop attempt
        if below count most && last != some p.index then
          body (sparing inLoop body least most rest fuel (count + 1) (some p.index)) p
        else failed p

/-- As many repetitions as possible, each taken for good. -/
def possessive (body : Rest → Rest) (least : Nat) (most : Option Nat) (rest : Rest) :
    Nat → Nat → Option Nat → Rest
  | 0, _, _, p => rest p
  | fuel + 1, count, last, p =>
    if count < least then
      let attempt := body done p
      if attempt.matched then
        possessive body least most rest fuel (count + 1) last attempt.place
      else attempt
    else if below count most && last != some p.index then
      let attempt := body done p
      if attempt.matched then
        possessive body least most rest fuel (count + 1) (some p.index) attempt.place
      else rest (p.backTo true attempt)
    else rest p

/-- The number of characters in a row that are accepted from `i` on, at most `n`. -/
def runLength (input : Array CodePoint) (accepts : CodePoint → Bool) : Nat → Nat → Nat
  | 0, _ => 0
  | n + 1, i =>
    match input[i]? with
    | some c => if accepts c then runLength input accepts n (i + 1) + 1 else 0
    | none => 0

/-- The rest of the pattern after `least` characters and `extra` more, then after one
    fewer, and so on. -/
def greedyRun (inLoop : Bool) (least : Nat) (rest : Rest) (p : Place) : Nat → Place → Outcome
  | 0, q =>
    let attempt := rest { q with index := p.index + least }
    if attempt.matched then attempt else failed (p.backTo inLoop attempt)
  | extra + 1, q =>
    let attempt := rest { q with index := p.index + least + extra + 1 }
    if attempt.matched then attempt
    else greedyRun inLoop least rest p extra (p.backTo inLoop attempt)

/-- The rest of the pattern after `taken` characters, then after one more, and so on. -/
def sparingRun (inLoop : Bool) (rest : Rest) (p : Place) : Nat → Nat → Place → Outcome
  | 0, taken, q =>
    let attempt := rest { q with index := p.index + taken }
    if attempt.matched then attempt else failed (p.backTo inLoop attempt)
  | extra + 1, taken, q =>
    let attempt := rest { q with index := p.index + taken }
    if attempt.matched then attempt
    else sparingRun inLoop rest p extra (taken + 1) (p.backTo inLoop attempt)

/-- A repetition of one character: a run of accepted characters, and the rest. -/
def matchRun (input : Array CodePoint) (inLoop : Bool) (greed : Greed)
    (least : Nat) (most : Option Nat) (accepts : CodePoint → Bool) (rest : Rest) : Rest :=
  fun p =>
    let room := input.size - p.index
    let length := runLength input accepts (min room (most.getD room)) p.index
    if length < least then failed p
    else
      match greed with
      | .greedy => greedyRun inLoop least rest p (length - least) p
      | .lazy => sparingRun inLoop rest p (length - least) least p
      | .possessive => rest { p with index := p.index + length }

/-- Whether a word character stands at an index. -/
def isWordAt (input : Array CodePoint) (flags : Flags) (i : Nat) : Bool :=
  (input[i]?.map (Shorthand.word.accepts flags.unicode)).getD false

/-- Whether an index lies between a word character and none. -/
def isBoundary (input : Array CodePoint) (flags : Flags) (i : Nat) : Bool :=
  (i != 0 && isWordAt input flags (i - 1)) != isWordAt input flags i

/-- Whether an index is such a place. No place in an empty text is one that words define. -/
def Anchor.holds (a : Anchor) (input : Array CodePoint) (flags : Flags) (i : Nat) : Bool :=
  match a with
  | .start => i == 0 || (flags.multiLine && input[i - 1]? == some 10)
  | .finish =>
    i == input.size || (input[i]? == some 10 && (flags.multiLine || i + 1 == input.size))
  | .textStart => i == 0
  | .textEnd => i == input.size
  | .wordBoundary => input.size != 0 && isBoundary input flags i
  | .noWordBoundary => input.size != 0 && !isBoundary input flags i

/-- Whether the characters from `i` on are, folded, those of a span; the index after them. -/
def repeatsSpan (input : Array CodePoint) (f : Folding) : Nat → Nat → Nat → Option Nat
  | 0, _, i => some i
  | n + 1, a, i =>
    match input[a]?, input[i]? with
    | some c, some d => if f.fold c = f.fold d then repeatsSpan input f n (a + 1) (i + 1) else none
    | _, _ => none

mutual

/-- Matches a part, and the rest after it. `inLoop` holds inside a repetition of
    parts, `groups` are the widths of the groups. -/
def Node.matchThen (input : Array CodePoint) (groups : Array (Option Width)) (flags : Flags)
    (inLoop : Bool) : Node → Rest → Rest
  | .single c, rest, p => matchOne input flags (.single c) rest p
  | .notSingle c, rest, p => matchOne input flags (.notSingle c) rest p
  | .any, rest, p => matchOne input flags .any rest p
  | .set negated items, rest, p => matchOne input flags (.set negated items) rest p
  | .anchor a, rest, p => if a.holds input flags p.index then rest p else failed p
  | .alternatives options, rest, p => matchOptions input groups flags inLoop options rest p p
  | .group number added removed body, rest, p =>
    let inner := flags.within added removed
    match number with
    | none => matchSequence input groups inner inLoop body rest p
    | some n =>
      matchSequence input groups inner inLoop body
        (fun q => rest { q with marks := q.marks.set (2 * n - 1) q.index })
        { p with marks := p.marks.set (2 * n - 2) p.index }
  | .atomic body, rest, p =>
    let attempt := matchSequence input groups flags inLoop body done p
    if attempt.matched then rest attempt.place else attempt
  | .loop greed least most body, rest, p =>
    match simple? flags body with
    | some accepts => matchRun input inLoop greed least most accepts rest p
    | none =>
      let part := matchSequence input groups flags true body
      let fuel := least + (input.size - p.index) + 2
      match greed with
      | .greedy => greedy part least most rest fuel 0 none p
      | .lazy => sparing inLoop part least most rest fuel 0 none p
      | .possessive => possessive part least most rest fuel 0 none p
  | .look behind negated body, rest, p =>
    let back := if behind then (sequenceWidth groups body).least else 0
    if p.index < back then (if negated then rest p else failed p)
    else
      let attempt := matchSequence input groups flags inLoop body done { p with index := p.index - back }
      match negated, attempt.matched with
      | false, true => rest { attempt.place with index := p.index }
      | false, false => attempt
      | true, true => failed attempt.place
      | true, false => rest (p.backTo inLoop attempt)
  | .backreference n, rest, p =>
    match p.marks.span? n with
    | none => failed p
    | some (a, b) =>
      match repeatsSpan input flags.folding (b - a) a p.index with
      | some i => rest { p with index := i }
      | none => failed p
  | .conditional n whenSet otherwise, rest, p =>
    match p.marks.span? n with
    | some _ => matchSequence input groups flags inLoop whenSet rest p
    | none => matchSequence input groups flags inLoop otherwise rest p

/-- Matches parts one after another, and the rest after them. -/
def matchSequence (input : Array CodePoint) (groups : Array (Option Width)) (flags : Flags)
    (inLoop : Bool) : List Node → Rest → Rest
  | [], rest, p => rest p
  | n :: ns, rest, p =>
    n.matchThen input groups flags inLoop (matchSequence input groups flags inLoop ns rest) p

/-- Matches the first option that does, and the rest after it. All options start at
    `before`; `p` has the marks that earlier options left. -/
def matchOptions (input : Array CodePoint) (groups : Array (Option Width)) (flags : Flags)
    (inLoop : Bool) : List (List Node) → Rest → Place → Rest
  | [], _, _, p => failed p
  | o :: os, rest, before, p =>
    let attempt := matchSequence input groups flags inLoop o rest p
    if attempt.matched then attempt
    else matchOptions input groups flags inLoop os rest before (before.backTo inLoop attempt)

/-- Matches one character that a part accepts, and the rest after it. -/
def matchOne (input : Array CodePoint) (flags : Flags) (n : Node) (rest : Rest) : Rest := fun p =>
  match input[p.index]?, n.accepts? flags with
  | some c, some accepts => if accepts c then rest { p with index := p.index + 1 } else failed p
  | _, _ => failed p

end

/-- Whether the pattern matches the whole of a text. A text shorter than the least
    width of the pattern is not tried. -/
def accepts (p : Pattern) (t : Text) : Bool :=
  let input := t.toArray
  if input.size < (sequenceWidth p.groups p.nodes).least then false
  else
    let start : Place := ⟨0, ⟨Array.replicate (2 * p.groups.size) none, 0⟩⟩
    (matchSequence input p.groups p.flags false p.nodes
      (fun q => if q.index = input.size then done q else failed q) start).matched

end Pattern

end MockHost
