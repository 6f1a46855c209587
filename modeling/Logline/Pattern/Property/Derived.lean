import Logline.Pattern.Property.Rule

/-! # Derived properties

Properties whose rules the character data states: letter case, identifiers, and characters that
are ignored by default. The classes of digits, blanks and word characters are among them.
-/

namespace Logline.Pattern.Rule

def lowercase : Rule := categories ["Ll"] + property "otherlowercase"

def uppercase : Rule := categories ["Lu"] + property "otheruppercase"

def alphabetic : Rule :=
  lowercase + uppercase + categories ["Lt", "Lm", "Lo", "Nl"] + property "otheralphabetic"

def whiteSpace : Rule := property "whitespace"

def graphemeExtend : Rule := categories ["Mn", "Me"] + property "othergraphemeextend"

/-- Characters between which words are not broken, the apostrophe among them. -/
def caseIgnorable : Rule :=
  categories ["Mn", "Me", "Cf", "Lm", "Sk"] + listed "midletter" + listed "midnumlet" + point 0x27

def numberSigns : Rule := property "prependedconcatenationmark"

def defaultIgnorable : Rule :=
  property "otherdefaultignorablecodepoint" + categories ["Cf"] + property "variationselector" -
    whiteSpace - points [(0xfff9, 0xfffb), (0x13430, 0x13440)] - numberSigns

/-- Characters that the grammar of patterns keeps for itself. -/
def patternReserved : Rule := property "patternsyntax" + property "patternwhitespace"

def idStart : Rule := categories ["L", "Nl"] + property "otheridstart" - patternReserved

def idContinue : Rule :=
  idStart + categories ["Mn", "Mc", "Nd", "Pc"] + property "otheridcontinue" - patternReserved

def digit : Rule := categories ["Nd"]

def word : Rule := alphabetic + categories ["M", "Nd", "Pc"] + points [(0x200c, 0x200d)]

def unassigned : Rule :=
  points [(0, 0xd7ff), (0xe000, 0x10ffff)] - categories ["L", "M", "N", "P", "S", "Z", "C"]

def surrogates : Rule := points [(0xd800, 0xdfff)]

def derived : List (String × Rule) := [
  ("alphabetic", alphabetic), ("caseignorable", caseIgnorable),
  ("cased", lowercase + uppercase + categories ["Lt"]),
  ("changeswhencasemapped", property "changeswhenlowercased" +
    property "changeswhenuppercased" + property "changeswhentitlecased"),
  ("defaultignorablecodepoint", defaultIgnorable),
  ("graphemebase", categories ["L", "M", "N", "P", "S", "Zs"] - graphemeExtend),
  ("graphemeextend", graphemeExtend), ("idcontinue", idContinue), ("idstart", idStart),
  ("lowercase", lowercase), ("math", categories ["Sm"] + property "othermath"),
  ("uppercase", uppercase), ("xidcontinue", idContinue - listed "xidcontinueless"),
  ("xidstart", idStart - listed "xidstartless")]

end Logline.Pattern.Rule

namespace Logline.Pattern.CharSet

def digit : CharSet := Rule.digit.set

def space : CharSet := Rule.whiteSpace.set

def word : CharSet := Rule.word.set

end Logline.Pattern.CharSet
