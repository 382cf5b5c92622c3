/-!
# White space

The code points that count as white space: those of the bidirectional classes
for blanks and separators and of the category of space separators, in Unicode 14.
There are so few that the definition spells them out.

Two properties are in use. They differ in the four information separators of
ASCII, which count as blanks by their bidirectional class and do not have the
property of white space.

## Main definitions

* `isBlank`: Whether a code point is white space or an information separator.
* `isWhiteSpace`: Whether a code point has the property of white space.
-/

namespace MockHost.Unicode

/-- Whether `c` is white space or an information separator, in any script. -/
def isBlank (c : Nat) : Bool :=
  (9 ≤ c && c ≤ 13) || (28 ≤ c && c ≤ 32) || c == 133 || c == 160 || c == 5760
    || (8192 ≤ c && c ≤ 8202) || c == 8232 || c == 8233 || c == 8239 || c == 8287 || c == 12288

/-- Whether `c` has the property of white space. -/
def isWhiteSpace (c : Nat) : Bool := isBlank c && !(28 ≤ c && c ≤ 31)

end MockHost.Unicode
