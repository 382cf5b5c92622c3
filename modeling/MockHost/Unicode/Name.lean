import MockHost.Text.Basic
import MockHost.Unicode.Names.Alphabets
import MockHost.Unicode.Names.Historic
import MockHost.Unicode.Names.Pictographs
import MockHost.Unicode.Names.Syllables
import MockHost.Unicode.Names.Symbols

/-!
# Character names

Characters may be written by name in a pattern or a payload. The names are those of
Unicode 14, with the other names that it lists for some characters; a sequence of
characters cannot be named. A name is read without regard to the case of its letters,
except where it is made up by a rule from the parts of a syllable or from the number
of an ideograph.

Most names stand in tables. A table is a list of runs of code points in a row. The
entries of a run are separated by semicolons, one for each code point, and what is
white space before an entry only breaks the line. An entry begins with a digit, which
says how many words of the name before it shares, and the other words follow. An empty
entry stands for a code point without a name.

## Main definitions

* `entries`: The entries of a run.
* `NumberedNames`: Names that end in a number.
* `syllable?`, `ideograph?`: The names that are made up by a rule.
* `namedPoint?`: The code point with a name.
-/

namespace MockHost.Unicode

/-! ### Tables -/

/-- The entries of a run. -/
def entries (run : String) : List Text :=
  ((Text.ofString run).splitOn 59).map fun e => e.dropWhile fun c => c == 10 || c == 32

/-- The words of a name, from its entry and from the words of the name before it. -/
def wordsOf (before : List Text) : Text → List Text
  | [] => []
  | shared :: rest => before.take (shared - 48) ++ rest.splitOn 32

/-- The code point with a name among the entries from a code point on; `before` are the
    words of the name before them. -/
def entryOf? (name : List Text) : Nat → List Text → List Text → Option Nat
  | _, _, [] => none
  | c, before, [] :: rest => entryOf? name (c + 1) before rest
  | c, before, entry :: rest =>
    let words := wordsOf before entry
    if words = name then some c else entryOf? name (c + 1) words rest

/-- The code point with a name in a table. -/
def tabled? (table : List (Nat × String)) (name : Text) : Option Nat :=
  table.findSome? fun run => entryOf? (name.splitOn 32) run.1 [] (entries run.2)

/-- The other names of characters that have more than one, and the names of controls. -/
def aliasNames : List (Nat × String) := [
  (0x0000, "0NULL;0START OF HEADING;2TEXT;0END OF TEXT;2TRANSMISSION;0ENQUIRY;0ACKNOWLEDGE;0ALERT;
    0BACKSPACE;0CHARACTER TABULATION;0LINE FEED;1TABULATION;0FORM FEED;0CARRIAGE RETURN;0SHIFT OUT;
    1IN;0DATA LINK ESCAPE;0DEVICE CONTROL ONE;2TWO;2THREE;2FOUR;0NEGATIVE ACKNOWLEDGE;
    0SYNCHRONOUS IDLE;0END OF TRANSMISSION BLOCK;0CANCEL;0END OF MEDIUM;0SUBSTITUTE;0ESCAPE;
    0INFORMATION SEPARATOR FOUR;2THREE;2TWO;2ONE;0SP"),
  (0x007F, "0DELETE;0PADDING CHARACTER;0HIGH OCTET PRESET;0BREAK PERMITTED HERE;0NO BREAK HERE;
    0INDEX;0NEXT LINE;0START OF SELECTED AREA;0END OF SELECTED AREA;0CHARACTER TABULATION SET;
    2WITH JUSTIFICATION;0LINE TABULATION SET;0PARTIAL LINE FORWARD;2BACKWARD;0REVERSE LINE FEED;
    0SINGLE SHIFT TWO;2THREE;0DEVICE CONTROL STRING;0PRIVATE USE ONE;2TWO;0SET TRANSMIT STATE;
    0CANCEL CHARACTER;0MESSAGE WAITING;0START OF GUARDED AREA;0END OF GUARDED AREA;0START OF STRING;
    0SINGLE GRAPHIC CHARACTER INTRODUCER;1CHARACTER INTRODUCER;0CONTROL SEQUENCE INTRODUCER;
    0STRING TERMINATOR;0OPERATING SYSTEM COMMAND;0PRIVACY MESSAGE;0APPLICATION PROGRAM COMMAND;
    0NBSP"),
  (0x00AD, "0SHY"),
  (0x01A2, "0LATIN CAPITAL LETTER GHA;1SMALL LETTER GHA"),
  (0x034F, "0CGJ"),
  (0x061C, "0ALM"),
  (0x0709, "0SYRIAC SUBLINEAR COLON SKEWED LEFT"),
  (0x0CDE, "0KANNADA LETTER LLLA"),
  (0x0E9D, "0LAO LETTER FO FON;;3FAY"),
  (0x0EA3, "0LAO LETTER RO;;2LO"),
  (0x0FD0, "0TIBETAN MARK BKA- SHOG GI MGO RGYAN"),
  (0x11EC, "0HANGUL JONGSEONG YESIEUNG-KIYEOK;2YESIEUNG-SSANGKIYEOK;2SSANGYESIEUNG;
    2YESIEUNG-KHIEUKH"),
  (0x180B, "0FVS1;0FVS2;0FVS3;0MVS;0FVS4"),
  (0x200B, "0ZWSP;0ZWNJ;0ZWJ;0LRM;0RLM"),
  (0x202A, "0LRE;0RLE;0PDF;0LRO;0RLO;0NNBSP"),
  (0x205F, "0MMSP;0WJ"),
  (0x2066, "0LRI;0RLI;0FSI;0PDI"),
  (0x2118, "0WEIERSTRASS ELLIPTIC FUNCTION"),
  (0x2448, "0MICR ON US SYMBOL;1DASH SYMBOL"),
  (0x2B7A, "0LEFTWARDS TRIANGLE-HEADED ARROW WITH DOUBLE VERTICAL STROKE;;
    0RIGHTWARDS TRIANGLE-HEADED ARROW WITH DOUBLE VERTICAL STROKE"),
  (0xA015, "0YI SYLLABLE ITERATION MARK"),
  (0xAA6E, "0MYANMAR LETTER KHAMTI LLA"),
  (0xFE18, "0PRESENTATION FORM FOR VERTICAL RIGHT WHITE LENTICULAR BRACKET"),
  (0xFEFF, "0BYTE ORDER MARK"),
  (0x122D4, "0CUNEIFORM SIGN NU11 TENU;3OVER NU11 BUR OVER BUR"),
  (0x16E56, "0MEDEFAIDRIN CAPITAL LETTER H;3NG"),
  (0x16E76, "0MEDEFAIDRIN SMALL LETTER H;3NG"),
  (0x1B001, "0HENTAIGANA LETTER E-1"),
  (0x1D0C5, "0BYZANTINE MUSICAL SYMBOL FTHORA SKLIRON CHROMA VASIS"),
  (0x0000, "0NUL;0SOH;0STX;0ETX;0EOT;0ENQ;0ACK;0BEL;0BS;0HORIZONTAL TABULATION;0NEW LINE;
    0VERTICAL TABULATION;0FF;0CR;0LOCKING-SHIFT ONE;1ZERO;0DLE;0DC1;0DC2;0DC3;0DC4;0NAK;0SYN;0ETB;
    0CAN;0EOM;0SUB;0ESC;0FILE SEPARATOR;0GROUP SEPARATOR;0RECORD SEPARATOR;0UNIT SEPARATOR"),
  (0x007F, "0DEL;0PAD;0HOP;0BPH;0NBH;0IND;0NEL;0SSA;0ESA;0HORIZONTAL TABULATION SET;
    2WITH JUSTIFICATION;0VERTICAL TABULATION SET;0PARTIAL LINE DOWN;2UP;0REVERSE INDEX;
    0SINGLE-SHIFT-2;0SINGLE-SHIFT-3;0DCS;0PRIVATE USE-1;1USE-2;0STS;0CCH;0MW;
    0START OF PROTECTED AREA;0END OF PROTECTED AREA;0SOS;0SGC;0SCI;0CSI;0ST;0OSC;0PM;0APC"),
  (0xFEFF, "0BOM"),
  (0x0009, "0HT;0END OF LINE;0VT;;;0SO;0SI"),
  (0x001C, "0FS;0GS;0RS;0US"),
  (0x0088, "0HTS;0HTJ;0VTS;0PLD;0PLU;0RI;0SS2;0SS3;;0PU1;0PU2"),
  (0x0096, "0SPA;0EPA"),
  (0xFEFF, "0ZWNBSP"),
  (0x0009, "0TAB;0LF"),
  (0x000A, "0NL"),
  (0x000A, "0EOL")]

/-! ### Names that end in a number -/

/-- The names of code points in a row that have the same stem and are numbered. -/
structure NumberedNames where
  stem : String
  first : Nat
  count : Nat
  base : Nat
  /-- The least number of digits. -/
  width : Nat
  /-- The number of the first code point. -/
  start : Nat

/-- The name of one of them. -/
def NumberedNames.name (n : NumberedNames) (i : Nat) : Text :=
  let digits := (Nat.toDigits n.base (n.start + i)).map Char.toNat
  Text.ofString n.stem ++ Text.padLeft n.width 48 (digits.map Text.upperAscii)

/-- The one with a name. -/
def NumberedNames.point? (n : NumberedNames) (name : Text) : Option Nat :=
  ((List.range n.count).find? fun i => n.name i = name).map (n.first + ·)

/-- The numbered names. -/
def numberedNames : List NumberedNames := [
  ⟨"CJK COMPATIBILITY IDEOGRAPH-", 0xF900, 366, 16, 4, 0xF900⟩,
  ⟨"CJK COMPATIBILITY IDEOGRAPH-", 0xFA70, 106, 16, 4, 0xFA70⟩,
  ⟨"CJK COMPATIBILITY IDEOGRAPH-", 0x2F800, 542, 16, 4, 0x2F800⟩,
  ⟨"KHITAN SMALL SCRIPT CHARACTER-", 0x18B00, 470, 16, 4, 0x18B00⟩,
  ⟨"NUSHU CHARACTER-", 0x1B170, 396, 16, 4, 0x1B170⟩,
  ⟨"TANGUT COMPONENT-", 0x18800, 768, 10, 3, 1⟩,
  ⟨"VARIATION SELECTOR-", 0xFE00, 16, 10, 1, 1⟩,
  ⟨"VARIATION SELECTOR-", 0xE0100, 240, 10, 1, 17⟩,
  ⟨"VS", 0xFE00, 16, 10, 1, 1⟩,
  ⟨"VS", 0xE0100, 240, 10, 1, 17⟩]

/-! ### Names that are made up by a rule -/

/-- How the consonants at the start of a syllable are spelled. -/
def leadingSpellings : List String :=
  ["G", "GG", "N", "D", "DD", "R", "M", "B", "BB", "S", "SS", "", "J", "JJ", "C", "K", "T", "P", "H"]

/-- How the vowels of a syllable are spelled. -/
def vowelSpellings : List String :=
  ["A", "AE", "YA", "YAE", "EO", "E", "YEO", "YE", "O", "WA", "WAE", "OE", "YO", "U", "WEO", "WE",
    "WI", "YU", "EU", "YI", "I"]

/-- How the consonants at the end of a syllable are spelled. -/
def trailingSpellings : List String :=
  ["", "G", "GG", "GS", "N", "NJ", "NH", "D", "L", "LG", "LM", "LB", "LS", "LT", "LP", "LH", "M", "B",
    "BS", "S", "SS", "NG", "J", "C", "K", "T", "P", "H"]

/-- The longest of some spellings that a text starts with: its place among them and what
    follows it. -/
def longest? (spellings : List String) (t : Text) : Option (Nat × Text) :=
  let fitting := spellings.zipIdx.filter fun s => (Text.ofString s.1).isPrefixOf t
  (fitting.foldl (fun best s =>
    match best with
    | some b => if b.1.length < s.1.length then some s else best
    | none => some s) none).map fun s => (s.2, t.drop s.1.length)

/-- The syllable that is spelled by a text. -/
def syllable? (t : Text) : Option Nat := do
  let (leading, t) ← longest? leadingSpellings t
  let (vowel, t) ← longest? vowelSpellings t
  let (trailing, t) ← longest? trailingSpellings t
  if t.isEmpty then some (0xAC00 + (leading * 21 + vowel) * 28 + trailing) else none

/-- The ideographs that are named by their number. -/
def ideographs : List (Nat × Nat) :=
  [(0x3400, 0x4DBF), (0x4E00, 0x9FFF), (0x20000, 0x2A6DF), (0x2A700, 0x2B738), (0x2B740, 0x2B81D),
    (0x2B820, 0x2CEA1), (0x2CEB0, 0x2EBE0), (0x30000, 0x3134A)]

/-- The ideograph with a number of four or five digits. -/
def ideograph? (t : Text) : Option Nat :=
  let isDigit (c : Nat) : Bool := Text.isDigit c || (65 ≤ c && c ≤ 70)
  let number := t.foldl (fun n c => 16 * n + (Text.hexDigit? c).getD 0) 0
  if (t.length = 4 ∨ t.length = 5) ∧ t.all isDigit then
    if ideographs.any fun r => r.1 ≤ number && number ≤ r.2 then some number else none
  else none

/-! ### Any name -/

/-- What follows a stem in a name. -/
def afterStem? (stem : String) (name : Text) : Option Text :=
  let stem := Text.ofString stem
  if stem.isPrefixOf name then some (name.drop stem.length) else none

/-- The code point with this name. -/
def namedPoint? (name : Text) : Option Nat :=
  match afterStem? "HANGUL SYLLABLE " name, afterStem? "CJK UNIFIED IDEOGRAPH-" name with
  | some t, _ => syllable? t
  | none, some t => ideograph? t
  | none, none =>
    let name := name.map Text.upperAscii
    (numberedNames.findSome? (·.point? name)).or <|
      [alphabetNames, symbolNames, syllableNames, historicNames, pictographNames, aliasNames].findSome?
        (tabled? · name)

end MockHost.Unicode
