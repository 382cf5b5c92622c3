import MockHost.Error.System
import MockHost.Text.Utf8

/-!
# Paths

A path is a text whose parts are separated by slashes; one that does not start with a slash
starts from the working directory. The system is given its bytes. A byte that is no part of a
character stands in the text as one of the surrogates that are kept for this; a text with any
other surrogate has no bytes, and one with a character zero is not a path either, as the system
takes this for its end.

## Main definitions

* `Path.normal`, `Path.parent`, `Path.join`: Paths as texts.
* `Path.above`: The directories that a path runs through.
* `Path.resolve`: The place that a path leads to.
* `Path.Fault`, `Path.fault?`: Why a text is not a path.
* `Path.size`: The bytes of a path.
-/

namespace MockHost

namespace Path

/-- Whether a path starts from the root. -/
def isAbsolute (p : Text) : Bool := p.head? == some 47

/-- The parts of a path. A single dot stands for nothing. -/
def parts (p : Text) : List Text :=
  (p.splitOn 47).filter fun part => !part.isEmpty && part != Text.ofString "."

/-- The slashes that a path starts with: two of them are kept, any other number counts as
    one. -/
def root (p : Text) : Text :=
  let slashes := p.takeWhile (· == 47)
  if slashes.length = 2 then slashes else slashes.take 1

/-- A path with these parts. -/
def ofParts (root : Text) (parts : List Text) : Text :=
  if root.isEmpty && parts.isEmpty then "." else root ++ Text.join "/" parts

/-- A path without empty parts and dots. -/
def normal (p : Text) : Text := ofParts (root p) (parts p)

/-- The path of the directory in which something lies. -/
def parent (p : Text) : Text := ofParts (root p) (parts p).dropLast

/-- The paths of the directories that a path runs through, from the one in which it ends up to
    the one from which it starts. -/
def above (p : Text) : List Text :=
  (List.range (parts p).length).reverse.map fun n => ofParts (root p) ((parts p).take n)

/-- The path of something inside a directory. -/
def join (directory name : Text) : Text :=
  if isAbsolute name then normal name
  else ofParts (root directory) (parts directory ++ parts name)

/-- The place that a path starts from. -/
def start (workingDirectory : List Text) (p : Text) : List Text :=
  if isAbsolute p then [] else workingDirectory

/-- The names that are looked for on the way: the parts, or a dot for the place itself. -/
def names (p : Text) : List Text :=
  if (root p).isEmpty && (parts p).isEmpty then [Text.ofString "."] else parts p

/-- Where a name leads from a place: to what has it there, up again or nowhere else. -/
def step (place : List Text) (name : Text) : List Text :=
  if name = Text.ofString ".." then place.dropLast
  else if name = Text.ofString "." then place
  else place ++ [name]

/-- The place that a path leads to, if everything on the way is there. -/
def resolve (workingDirectory : List Text) (p : Text) : List Text :=
  (names p).foldl step (start workingDirectory p)

/-- The path from the root to the place that a path leads to. -/
def absolute (workingDirectory : List Text) (p : Text) : Text :=
  ofParts (if isAbsolute p then root p else "/") (resolve workingDirectory p)

/-! ### Paths as the system is given them -/

/-- Whether a character stands for a byte that is no part of a character. -/
def isLoneByte (c : CodePoint) : Bool := 0xDC80 ≤ c && c ≤ 0xDCFF

/-- Whether a character has no bytes. -/
def isByteless (c : CodePoint) : Bool := c.isSurrogate && !isLoneByte c

/-- The number of bytes of a path, or of a name. -/
def size (p : Text) : Nat :=
  p.foldr (fun c n => n + if isLoneByte c then 1 else (Utf8.encodePoint c).length) 0

/-- The most bytes that a name may have. -/
def longestName : Nat := 255

/-- The most bytes that a path may have. -/
def longest : Nat := 4095

/-- Why a text is not a path. -/
inductive Fault where
  | encoding (e : EncodeError)
  /-- There is a character zero. -/
  | zero
  deriving DecidableEq, Repr

/-- Why a text is not a path, if it is none. The run of surrogates is shown from the first one that
    has no bytes. -/
def fault? (p : Text) : Option Fault :=
  match p.findIdx? isByteless with
  | some i => some (.encoding ⟨i, (p.drop i).takeWhile CodePoint.isSurrogate⟩)
  | none => if p.contains 0 then some .zero else none

/-- The text of a fault. -/
def Fault.message : Fault → Text
  | .encoding e => e.message
  | .zero => "embedded null byte"

/-- The name of the class of a fault. -/
def Fault.label : Fault → Text
  | .encoding _ => "UnicodeEncodeError"
  | .zero => "ValueError"

end Path

end MockHost
