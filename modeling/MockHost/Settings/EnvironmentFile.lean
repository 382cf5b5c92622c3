import MockHost.Table

/-!
# Environment files

An environment file binds names to texts, one binding a line. A name may stand in
single quotes and after the word `export`. What it is bound to stands after an equals
sign: as it is, up to the end of the line or to a comment, or between quotes, where it
may go on over several lines and hold escapes. A name without an equals sign is bound
to nothing. A line that does not read is left out.

A text may refer to other names. A name that the file binds further up counts before
one of the environment.

## Main definitions

* `EnvironmentFile.lines`: The bindings of a file as they are written.
* `EnvironmentFile.expand`: A text with its references replaced.
* `EnvironmentFile.bindings`: The bindings of a file.
-/

namespace MockHost

/-- What names are bound to: a text, or nothing. -/
abbrev Bindings := Table (Option Text)

namespace EnvironmentFile

/-- A text in which every line ends with a line feed. -/
def unifiedLines : Text → Text
  | 13 :: 10 :: rest => 10 :: unifiedLines rest
  | 13 :: rest => 10 :: unifiedLines rest
  | c :: rest => c :: unifiedLines rest
  | [] => []

/-- White space inside a line. -/
def isGap (c : CodePoint) : Bool := Unicode.isBlank c && c != 10

/-- The text after the end of the line. -/
def nextLine (t : Text) : Text := (t.dropWhile (· != 10)).drop 1

/-- The text after the word `export`, where white space follows that. -/
def afterExport (t : Text) : Text :=
  let word := Text.ofString "export"
  let rest := t.drop word.length
  if word.isPrefixOf t && rest.head?.any isGap then rest.dropWhile isGap else t

/-- The name at the start of a text, and the text after it. A comment has no name. -/
def name? (t : Text) : Option (Option Text × Text) :=
  match t with
  | 35 :: _ => some (none, t)
  | 39 :: rest =>
    let name := rest.takeWhile (· != 39)
    match rest.drop name.length with
    | _ :: rest => if name.isEmpty then none else some (some name, rest)
    | [] => none
  | _ =>
    let name := t.takeWhile fun c => c != 61 && c != 35 && !Unicode.isBlank c
    if name.isEmpty then none else some (some name, t.drop name.length)

/-- A text up to the quote that closes it, and the text after the quote. That is the
    first quote without a backslash before it, and the last quote where there is none. -/
def closedBy (quote : CodePoint) : Text → Option (Text × Text)
  | [] => none
  | 92 :: c :: rest =>
    if c = quote then
      match closedBy quote rest with
      | some (t, after) => some (92 :: c :: t, after)
      | none => some ([92], rest)
    else (closedBy quote (c :: rest)).map fun (t, after) => (92 :: t, after)
  | c :: rest =>
    if c = quote then some ([], rest)
    else (closedBy quote rest).map fun (t, after) => (c :: t, after)

/-- The code point that an escape between single quotes stands for. -/
def singleEscape? (c : CodePoint) : Option CodePoint := if c = 92 ∨ c = 39 then some c else none

/-- The code point that an escape between double quotes stands for. -/
def doubleEscape? (c : CodePoint) : Option CodePoint :=
  if c = 92 ∨ c = 39 ∨ c = 34 then some c
  else if c = 97 then some 7
  else if c = 98 then some 8
  else if c = 102 then some 12
  else if c = 110 then some 10
  else if c = 114 then some 13
  else if c = 116 then some 9
  else if c = 118 then some 11
  else none

/-- A text with its escapes replaced; any other backslash stays. -/
def unescaped (escape? : CodePoint → Option CodePoint) : Text → Text
  | 92 :: c :: rest =>
    match escape? c with
    | some point => point :: unescaped escape? rest
    | none => 92 :: unescaped escape? (c :: rest)
  | c :: rest => c :: unescaped escape? rest
  | [] => []

/-- A text up to the first number sign with white space before it. -/
def withoutComment : Text → Text
  | c :: 35 :: rest => if Unicode.isBlank c then [] else c :: withoutComment (35 :: rest)
  | c :: rest => c :: withoutComment rest
  | [] => []

/-- What stands after an equals sign, and the text after it. -/
def value? (t : Text) : Option (Text × Text) :=
  match t with
  | 39 :: rest => (closedBy 39 rest).map fun (v, after) => (unescaped singleEscape? v, after)
  | 34 :: rest => (closedBy 34 rest).map fun (v, after) => (unescaped doubleEscape? v, after)
  | _ =>
    let line := t.takeWhile (· != 10)
    some ((withoutComment line).stripEnd, t.drop line.length)

/-- The text after the end of a line, on which only a comment may still stand. -/
def ended? (t : Text) : Option Text :=
  match t.dropWhile isGap with
  | [] => some []
  | c :: rest => if c = 35 then some (nextLine rest) else if c = 10 then some rest else none

/-- A binding and the text after its line; no binding where the line goes on. -/
def finished (binding : Option (Text × Option Text)) (t : Text) :
    Option (Text × Option Text) × Text :=
  match ended? t with
  | some rest => (binding, rest)
  | none => (none, nextLine t)

/-- The binding at the start of a text, if there is one, and the text after its line. -/
def line (t : Text) : Option (Text × Option Text) × Text :=
  match name? t with
  | none => (none, nextLine t)
  | some (name, rest) =>
    match rest.dropWhile isGap with
    | 61 :: rest =>
      let start := rest.dropWhile isGap
      match value? start with
      | none => (none, nextLine start)
      | some (value, rest) => finished (name.map (·, some value)) rest
    | rest => finished (name.map (·, none)) rest

/-- The bindings of a text, read in at most `fuel` lines. -/
def linesWithin : Nat → Text → List (Text × Option Text)
  | 0, _ => []
  | fuel + 1, t =>
    match t.dropWhile Unicode.isBlank with
    | [] => []
    | start =>
      let (binding, rest) := line (afterExport start)
      binding.toList ++ linesWithin fuel rest

/-- The bindings of a file as they are written. Every line read takes at least one code
    point, so that there are no more lines than code points. -/
def lines (t : Text) : List (Text × Option Text) :=
  let t := unifiedLines t
  linesWithin t.length t

/-- A reference to a name. -/
structure Reference where
  name : Text
  /-- What stands for a name that is bound nowhere. -/
  default : Text
  /-- The number of code points of the reference. -/
  length : Nat

/-- The reference at the start of a text. -/
def reference? (t : Text) : Option Reference :=
  match t with
  | 36 :: 123 :: rest =>
    let name := rest.takeWhile fun c => c != 125 && c != 58
    match rest.drop name.length with
    | 125 :: _ => some ⟨name, [], name.length + 3⟩
    | 58 :: 45 :: rest =>
      let default := rest.takeWhile (· != 125)
      if default.length < rest.length then
        some ⟨name, default, name.length + default.length + 5⟩
      else none
    | _ => none
  | _ => none

/-- What a reference stands for. A name that is bound to nothing stands for no text. -/
def Reference.resolve (r : Reference) (bound : Bindings) : Text :=
  match bound.lookup r.name with
  | some value => value.getD []
  | none => r.default

/-- A text with its references replaced, after as many code points as `skip` says. -/
def expandAfter (bound : Bindings) : Nat → Text → Text
  | _, [] => []
  | skip + 1, _ :: rest => expandAfter bound skip rest
  | 0, c :: rest =>
    match reference? (c :: rest) with
    | some r => r.resolve bound ++ expandAfter bound (r.length - 1) rest
    | none => c :: expandAfter bound 0 rest

/-- A text with its references replaced. -/
def expand (bound : Bindings) (t : Text) : Text := expandAfter bound 0 t

/-- The bindings of a file in an environment. -/
def bindings (environment : List (Text × Text)) (t : Text) : Bindings :=
  (lines t).foldl (fun bound (name, value) =>
    let known := bound ++ environment.map fun e => (e.1, some e.2)
    Table.put name (value.map (expand known)) bound) []

end EnvironmentFile

end MockHost
