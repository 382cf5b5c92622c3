import MockHost.Pattern.Flags
import MockHost.Unicode.Alphanumeric
import MockHost.Unicode.Case
import MockHost.Unicode.Decimal

/-!
# Patterns

The parts a pattern is made of, the number of characters each can take, and for
the parts that take one character, which characters they accept.

Case is ignored by comparing lower cases, and a letter also accepts the other
letters that share its upper case. Beyond the basic plane a single character in a
set is compared as it is written with the lower case of the text, and a range
accepts a character whose upper case lies in it.

## Main definitions

* `Node`: A part of a pattern.
* `Width`, `Node.width`: The least and greatest number of characters a part takes.
* `Node.accepts?`: The characters that a part for one character accepts.
* `isSimple`: Whether a sequence is a single part for one character.
-/

namespace MockHost.Pattern

/-- A place in the text. -/
inductive Anchor where
  /-- The start of the text or, with many lines, of a line. -/
  | start
  /-- The end of the text or the line break that ends it or, with many lines, the end of a line. -/
  | finish
  | textStart
  | textEnd
  | wordBoundary
  | noWordBoundary
  deriving DecidableEq, Repr

/-- A shorthand class of characters. -/
inductive Shorthand where
  | digit
  | blank
  | word
  deriving DecidableEq, Repr

/-- An item of a set of characters. -/
inductive SetItem where
  | single (c : CodePoint)
  | range (low high : CodePoint)
  | shorthand (k : Shorthand) (negated : Bool)
  deriving DecidableEq, Repr

/-- How a repetition chooses its count: as many as possible, as few as possible, or
    as many as possible without ever giving any back. -/
inductive Greed where
  | greedy
  | lazy
  | possessive
  deriving DecidableEq, Repr

/-- A part of a pattern. -/
inductive Node where
  | single (c : CodePoint)
  | notSingle (c : CodePoint)
  | any
  | set (negated : Bool) (items : List SetItem)
  | anchor (a : Anchor)
  | alternatives (options : List (List Node))
  | group (number : Option Nat) (added removed : Flags) (body : List Node)
  | atomic (body : List Node)
  | loop (greed : Greed) (least : Nat) (most : Option Nat) (body : List Node)
  | look (behind negated : Bool) (body : List Node)
  | backreference (number : Nat)
  | conditional (number : Nat) (whenSet : List Node) (otherwise : List Node)
  deriving Inhabited

/-! ### Widths -/

/-- The least and greatest number of characters that a part takes. -/
structure Width where
  least : Nat
  greatest : Nat
  deriving DecidableEq, Repr

/-- No width is counted beyond this one. -/
def Width.cap : Nat := Nat.pow 2 64

/-- The width of nothing. -/
def Width.zero : Width := ⟨0, 0⟩

/-- The width of one character. -/
def Width.one : Width := ⟨1, 1⟩

/-- A width with both bounds cut off at the cap. -/
def Width.capped (w : Width) : Width := ⟨min w.least cap, min w.greatest cap⟩

/-- The width of one part after another. -/
def Width.add (a b : Width) : Width := ⟨a.least + b.least, a.greatest + b.greatest⟩

/-- The width of either part. -/
def Width.either (a b : Width) : Width := ⟨min a.least b.least, max a.greatest b.greatest⟩

/-- The width of a part repeated. -/
def Width.times (w : Width) (least : Nat) (most : Option Nat) : Width :=
  ⟨w.least * least,
    match most with
    | some n => w.greatest * n
    | none => if w.greatest = 0 then 0 else cap⟩

mutual

/-- The width of a part, given the widths of the groups that are complete. -/
def Node.width (groups : Array (Option Width)) : Node → Width
  | .single _ | .notSingle _ | .any | .set .. => .one
  | .anchor _ | .look .. => .zero
  | .alternatives options => optionsWidth groups options
  | .group _ _ _ body | .atomic body => sequenceWidth groups body
  | .loop _ least most body => (sequenceWidth groups body).times least most
  | .backreference n => (groups[n]?.join).getD .zero
  | .conditional _ whenSet otherwise =>
    (sequenceWidth groups whenSet).either (sequenceWidth groups otherwise)

/-- The width of parts one after another. -/
def sequenceWidth (groups : Array (Option Width)) : List Node → Width
  | [] => .zero
  | n :: ns => ((n.width groups).add (sequenceWidth groups ns)).capped

/-- The width of a choice. -/
def optionsWidth (groups : Array (Option Width)) : List (List Node) → Width
  | [] => ⟨Width.cap, 0⟩
  | o :: os => (sequenceWidth groups o).either (optionsWidth groups os)

end

/-! ### Characters -/

/-- How letters are compared. -/
inductive Folding where
  | exact
  | ascii
  | unicode
  deriving DecidableEq

/-- How letters are compared under these flags. -/
def Flags.folding (f : Flags) : Folding :=
  if !f.ignoreCase then .exact else if f.unicode then .unicode else .ascii

/-- A character as it is compared. -/
def Folding.fold : Folding → CodePoint → CodePoint
  | .exact, c => c
  | .ascii, c => Text.lowerAscii c
  | .unicode, c => Unicode.toLower c

/-- Whether a character is in a shorthand class, of ASCII or of every script. -/
def Shorthand.accepts (k : Shorthand) (unicode : Bool) (c : CodePoint) : Bool :=
  match k, unicode with
  | .digit, true => Unicode.isDecimal c
  | .digit, false => Text.isDigit c
  | .blank, true => Unicode.isBlank c
  | .blank, false => (9 ≤ c && c ≤ 13) || c == 32
  | .word, true => Unicode.isWord c
  | .word, false => c < 128 && Unicode.isWord c

/-- Whether the character `c`, folded, is the letter `literal`. -/
def Folding.isLetter (f : Folding) (literal c : CodePoint) : Bool :=
  match f with
  | .exact => c == literal
  | .ascii => f.fold literal == c
  | .unicode => f.fold literal == c || (Unicode.caseMates (f.fold literal)).contains c

/-- Whether the character `c`, folded, is the folded form of one in a range. -/
def Folding.inRange (f : Folding) (low high c : CodePoint) : Bool :=
  let holds (d : CodePoint) : Bool := low ≤ d && d ≤ high
  match f with
  | .exact => holds c
  | .ascii =>
    holds c || (97 ≤ c && c ≤ 122 && holds (c - 32)) || (high > 0xFFFF && holds (Unicode.toUpper c))
  | .unicode =>
    (c :: Unicode.caseMates c).any fun m =>
      (m :: Unicode.raisedForms m).any fun d => holds d && (m == c || d ≤ 0xFFFF)

/-- Whether a folded character is one that an item of a set stands for. -/
def SetItem.accepts (f : Folding) (unicode : Bool) (c : CodePoint) : SetItem → Bool
  | .single d => if f.fold d > 0xFFFF then c == d else f.isLetter d c
  | .range low high => f.inRange low high c
  | .shorthand k negated => k.accepts unicode c != negated

/-- The characters that a part for one character accepts, and nothing for other parts. -/
def Node.accepts? (flags : Flags) : Node → Option (CodePoint → Bool)
  | .single d => some fun c => flags.folding.isLetter d (flags.folding.fold c)
  | .notSingle d => some fun c => !flags.folding.isLetter d (flags.folding.fold c)
  | .any => some fun c => flags.dotAll || c != 10
  | .set negated items => some fun c =>
    items.any (SetItem.accepts flags.folding flags.unicode (flags.folding.fold c)) != negated
  | _ => none

mutual

/-- The characters that a sequence accepts if it is a single part for one character,
    perhaps in groups that only change flags. -/
def simple? (flags : Flags) : List Node → Option (CodePoint → Bool)
  | [n] => simpleNode? flags n
  | _ => none

/-- The characters that a part accepts if it stands for one character. -/
def simpleNode? (flags : Flags) : Node → Option (CodePoint → Bool)
  | .group none added removed body => simple? (flags.within added removed) body
  | n => n.accepts? flags

end

end MockHost.Pattern
