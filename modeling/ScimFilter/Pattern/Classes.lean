import ScimFilter.Pattern.CharSet
import ScimFilter.Text.WordChar
/-!
The named character classes of the pattern language: the three escapes `\d`, `\s` and `\w`, in
their Unicode and their ASCII meaning, and the fourteen bracket classes such as `[:alpha:]`, which
are ASCII only. The Unicode `\d` is general category Nd, in version 16.0 of the Unicode
Character Database, in every script.
-/

namespace ScimFilter.Text

/-- Ranges of the decimal digits (general category Nd). -/
def decimalDigits : RangeTable := #[
  (0x30, 0x39), (0x660, 0x669), (0x6F0, 0x6F9), (0x7C0, 0x7C9), (0x966, 0x96F), (0x9E6, 0x9EF),
  (0xA66, 0xA6F), (0xAE6, 0xAEF), (0xB66, 0xB6F), (0xBE6, 0xBEF), (0xC66, 0xC6F), (0xCE6, 0xCEF),
  (0xD66, 0xD6F), (0xDE6, 0xDEF), (0xE50, 0xE59), (0xED0, 0xED9), (0xF20, 0xF29), (0x1040, 0x1049),
  (0x1090, 0x1099), (0x17E0, 0x17E9), (0x1810, 0x1819), (0x1946, 0x194F), (0x19D0, 0x19D9),
  (0x1A80, 0x1A89), (0x1A90, 0x1A99), (0x1B50, 0x1B59), (0x1BB0, 0x1BB9), (0x1C40, 0x1C49),
  (0x1C50, 0x1C59), (0xA620, 0xA629), (0xA8D0, 0xA8D9), (0xA900, 0xA909), (0xA9D0, 0xA9D9),
  (0xA9F0, 0xA9F9), (0xAA50, 0xAA59), (0xABF0, 0xABF9), (0xFF10, 0xFF19), (0x104A0, 0x104A9),
  (0x10D30, 0x10D39), (0x10D40, 0x10D49), (0x11066, 0x1106F), (0x110F0, 0x110F9),
  (0x11136, 0x1113F), (0x111D0, 0x111D9), (0x112F0, 0x112F9), (0x11450, 0x11459),
  (0x114D0, 0x114D9), (0x11650, 0x11659), (0x116C0, 0x116C9), (0x116D0, 0x116E3),
  (0x11730, 0x11739), (0x118E0, 0x118E9), (0x11950, 0x11959), (0x11BF0, 0x11BF9),
  (0x11C50, 0x11C59), (0x11D50, 0x11D59), (0x11DA0, 0x11DA9), (0x11F50, 0x11F59),
  (0x16130, 0x16139), (0x16A60, 0x16A69), (0x16AC0, 0x16AC9), (0x16B50, 0x16B59),
  (0x16D70, 0x16D79), (0x1CCF0, 0x1CCF9), (0x1D7CE, 0x1D7FF), (0x1E140, 0x1E149),
  (0x1E2F0, 0x1E2F9), (0x1E4F0, 0x1E4F9), (0x1E5F1, 0x1E5FA), (0x1E950, 0x1E959), (0x1FBF0, 0x1FBF9)]

end ScimFilter.Text

namespace ScimFilter.Pattern

/-- The class letter of a `\d`, `\s` or `\w` escape. -/
inductive Shorthand where
  | digit
  | space
  | word
  deriving DecidableEq, Repr

namespace Shorthand

/-- The class of an escape letter, lower or upper case. -/
def ofLetter? : Char → Option Shorthand
  | 'd' | 'D' => some digit
  | 's' | 'S' => some space
  | 'w' | 'W' => some word
  | _ => none

/-- The Unicode meaning: decimal digits, `White_Space`, and word characters. -/
def unicodeSet : Shorthand → CharSet
  | digit => Text.decimalDigits
  | space => #[(0x09, 0x0D), (0x20, 0x20), (0x85, 0x85), (0xA0, 0xA0), (0x1680, 0x1680),
      (0x2000, 0x200A), (0x2028, 0x2029), (0x202F, 0x202F), (0x205F, 0x205F), (0x3000, 0x3000)]
  | word => Text.wordChars

/-- The ASCII meaning: `[0-9]`, `[\t\n\v\f\r ]` and `[0-9A-Za-z_]`. -/
def asciiSet : Shorthand → CharSet
  | digit => #[(0x30, 0x39)]
  | space => #[(0x09, 0x0D), (0x20, 0x20)]
  | word => #[(0x30, 0x39), (0x41, 0x5A), (0x5F, 0x5F), (0x61, 0x7A)]

end Shorthand

/-- The ASCII bracket class of a name, as in `[:alpha:]`. -/
def asciiClass? : String → Option CharSet
  | "alnum" => some #[(0x30, 0x39), (0x41, 0x5A), (0x61, 0x7A)]
  | "alpha" => some #[(0x41, 0x5A), (0x61, 0x7A)]
  | "ascii" => some #[(0x00, 0x7F)]
  | "blank" => some #[(0x09, 0x09), (0x20, 0x20)]
  | "cntrl" => some #[(0x00, 0x1F), (0x7F, 0x7F)]
  | "digit" => some #[(0x30, 0x39)]
  | "graph" => some #[(0x21, 0x7E)]
  | "lower" => some #[(0x61, 0x7A)]
  | "print" => some #[(0x20, 0x7E)]
  | "punct" => some #[(0x21, 0x2F), (0x3A, 0x40), (0x5B, 0x60), (0x7B, 0x7E)]
  | "space" => some #[(0x09, 0x0D), (0x20, 0x20)]
  | "upper" => some #[(0x41, 0x5A)]
  | "word" => some #[(0x30, 0x39), (0x41, 0x5A), (0x5F, 0x5F), (0x61, 0x7A)]
  | "xdigit" => some #[(0x30, 0x39), (0x41, 0x46), (0x61, 0x66)]
  | _ => none

/-- Whether a character is a word character, in the Unicode or the ASCII meaning. -/
def isWordIn (ascii : Bool) (c : Char) : Bool :=
  if ascii then Shorthand.asciiSet .word |>.contains c.toNat else Text.isWordChar c

end ScimFilter.Pattern
