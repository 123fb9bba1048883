import ScimFilter.Text.Property.Case
import ScimFilter.Text.Property.Identifier
import ScimFilter.Text.Property.Grapheme
import ScimFilter.Text.Property.Emoji
import ScimFilter.Text.Property.Symbol
/-!
The binary properties of the Unicode Character Database, version 16.0, by name: each with its
loose names (lower case, without blanks, `_` or `-`) and its set of code points.
-/

namespace ScimFilter.Text.Property

/-- Every binary property: its full name, its loose names, and its ranges. -/
def table : List (String × List String × RangeTable) := [
  ("ASCII_Hex_Digit", ["asciihexdigit", "ahex"], asciiHexDigit),
  ("Alphabetic", ["alphabetic", "alpha"], alphabetic),
  ("Bidi_Control", ["bidicontrol", "bidic"], bidiControl),
  ("Bidi_Mirrored", ["bidimirrored", "bidim"], bidiMirrored),
  ("Case_Ignorable", ["caseignorable", "ci"], caseIgnorable),
  ("Cased", ["cased"], cased),
  ("Changes_When_Casefolded", ["changeswhencasefolded", "cwcf"], changesWhenCasefolded),
  ("Changes_When_Casemapped", ["changeswhencasemapped", "cwcm"], changesWhenCasemapped),
  ("Changes_When_Lowercased", ["changeswhenlowercased", "cwl"], changesWhenLowercased),
  ("Changes_When_Titlecased", ["changeswhentitlecased", "cwt"], changesWhenTitlecased),
  ("Changes_When_Uppercased", ["changeswhenuppercased", "cwu"], changesWhenUppercased),
  ("Dash", ["dash"], dash),
  ("Default_Ignorable_Code_Point", ["defaultignorablecodepoint", "di"], defaultIgnorableCodePoint),
  ("Deprecated", ["deprecated", "dep"], deprecated),
  ("Diacritic", ["diacritic", "dia"], diacritic),
  ("Emoji", ["emoji"], emoji),
  ("Emoji_Component", ["emojicomponent", "ecomp"], emojiComponent),
  ("Emoji_Modifier", ["emojimodifier", "emod"], emojiModifier),
  ("Emoji_Modifier_Base", ["emojimodifierbase", "ebase"], emojiModifierBase),
  ("Emoji_Presentation", ["emojipresentation", "epres"], emojiPresentation),
  ("Extended_Pictographic", ["extendedpictographic", "extpict"], extendedPictographic),
  ("Extender", ["extender", "ext"], extender),
  ("Grapheme_Base", ["graphemebase", "grbase"], graphemeBase),
  ("Grapheme_Extend", ["graphemeextend", "grext"], graphemeExtend),
  ("Grapheme_Link", ["graphemelink", "grlink"], graphemeLink),
  ("Hex_Digit", ["hexdigit", "hex"], hexDigit),
  ("Hyphen", ["hyphen"], hyphen),
  ("IDS_Binary_Operator", ["idsbinaryoperator", "idsb"], idsBinaryOperator),
  ("IDS_Trinary_Operator", ["idstrinaryoperator", "idst"], idsTrinaryOperator),
  ("IDS_Unary_Operator", ["idsunaryoperator", "idsu"], idsUnaryOperator),
  ("ID_Compat_Math_Continue", ["idcompatmathcontinue"], idCompatMathContinue),
  ("ID_Compat_Math_Start", ["idcompatmathstart"], idCompatMathStart),
  ("ID_Continue", ["idcontinue", "idc"], idContinue),
  ("ID_Start", ["idstart", "ids"], idStart),
  ("Ideographic", ["ideographic", "ideo"], ideographic),
  ("Join_Control", ["joincontrol", "joinc"], joinControl),
  ("Logical_Order_Exception", ["logicalorderexception", "loe"], logicalOrderException),
  ("Lowercase", ["lowercase", "lower"], lowercase),
  ("Math", ["math"], math),
  ("Modifier_Combining_Mark", ["modifiercombiningmark", "mcm"], modifierCombiningMark),
  ("Noncharacter_Code_Point", ["noncharactercodepoint", "nchar"], noncharacterCodePoint),
  ("Other_Alphabetic", ["otheralphabetic", "oalpha"], otherAlphabetic),
  ("Other_Default_Ignorable_Code_Point", ["otherdefaultignorablecodepoint", "odi"], otherDefaultIgnorableCodePoint),
  ("Other_Grapheme_Extend", ["othergraphemeextend", "ogrext"], otherGraphemeExtend),
  ("Other_ID_Continue", ["otheridcontinue", "oidc"], otherIdContinue),
  ("Other_ID_Start", ["otheridstart", "oids"], otherIdStart),
  ("Other_Lowercase", ["otherlowercase", "olower"], otherLowercase),
  ("Other_Math", ["othermath", "omath"], otherMath),
  ("Other_Uppercase", ["otheruppercase", "oupper"], otherUppercase),
  ("Pattern_Syntax", ["patternsyntax", "patsyn"], patternSyntax),
  ("Pattern_White_Space", ["patternwhitespace", "patws"], patternWhiteSpace),
  ("Prepended_Concatenation_Mark", ["prependedconcatenationmark", "pcm"], prependedConcatenationMark),
  ("Quotation_Mark", ["quotationmark", "qmark"], quotationMark),
  ("Radical", ["radical"], radical),
  ("Regional_Indicator", ["regionalindicator", "ri"], regionalIndicator),
  ("Sentence_Terminal", ["sentenceterminal", "sterm"], sentenceTerminal),
  ("Soft_Dotted", ["softdotted", "sd"], softDotted),
  ("Terminal_Punctuation", ["terminalpunctuation", "term"], terminalPunctuation),
  ("Unified_Ideograph", ["unifiedideograph", "uideo"], unifiedIdeograph),
  ("Uppercase", ["uppercase", "upper"], uppercase),
  ("Variation_Selector", ["variationselector", "vs"], variationSelector),
  ("White_Space", ["whitespace", "wspace", "space"], whiteSpace),
  ("XID_Continue", ["xidcontinue", "xidc"], xidContinue),
  ("XID_Start", ["xidstart", "xids"], xidStart)]

def byLooseName? (name : String) : Option RangeTable :=
  (table.find? fun entry => entry.2.1.contains name).map fun entry => entry.2.2

end ScimFilter.Text.Property
