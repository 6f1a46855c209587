import Logline.Pattern.Property.Derived

/-! # Boundary classes

The classes of characters that decide where a text may be divided into what is seen as one
character, into words and into sentences. Each class has a long and a short name.
-/

namespace Logline.Pattern

structure BoundaryClass where
  long : String
  short : String
  rule : Rule

namespace BoundaryClass

open Rule

def carriageReturn : Rule := point 0xd

def lineFeed : Rule := point 0xa

def joiner : Rule := point 0x200d

def regional : BoundaryClass := ⟨"regionalindicator", "ri", property "regionalindicator"⟩

def attached : Rule := graphemeExtend + property "emojimodifier"

def spacingAttached : Rule := graphemeExtend + categories ["Mc"]

/-- The first code points of the syllables of two parts; those of three parts follow each. -/
def openSyllables : List (Nat × Nat) :=
  (List.range 399).map fun k => (0xac00 + 28 * k, 0xac00 + 28 * k)

def closedSyllables : List (Nat × Nat) :=
  (List.range 399).map fun k => (0xac00 + 28 * k + 1, 0xac00 + 28 * k + 27)

def prepended : Rule := numberSigns + listed "prepend"

def grapheme : List BoundaryClass := [
  ⟨"control", "cn",
    (categories ["Zl", "Zp", "Cc", "Cf"] - points [(0x200c, 0x200d)] - carriageReturn - lineFeed -
      numberSigns - attached) + .both defaultIgnorable unassigned⟩,
  ⟨"cr", "cr", carriageReturn⟩, ⟨"extend", "ex", attached⟩,
  ⟨"l", "l", points [(0x1100, 0x115f), (0xa960, 0xa97c)]⟩, ⟨"lf", "lf", lineFeed⟩,
  ⟨"lv", "lv", points openSyllables⟩, ⟨"lvt", "lvt", points closedSyllables⟩,
  ⟨"prepend", "pp", prepended⟩, regional,
  ⟨"spacingmark", "sm",
    categories ["Mc"] + points [(0xe33, 0xe33), (0xeb3, 0xeb3)] - attached -
      listed "spacingless" - prepended⟩,
  ⟨"t", "t", points [(0x11a8, 0x11ff), (0xd7cb, 0xd7fb)]⟩, ⟨"v", "v", listed "vowel"⟩,
  ⟨"zwj", "zwj", joiner⟩]

/-- Letters of the scripts whose words are written with blanks between them are told from these. -/
def katakana : Rule := script "kana" + listed "katakanalike"

def hebrewLetters : Rule := .both (script "hebr") (categories ["Lo"])

def wordAttached : Rule := spacingAttached + property "emojimodifier" - joiner

def arabicNumberSigns : Rule := listed "arabicnumbersign"

def word : List BoundaryClass := [
  ⟨"aletter", "le",
    (alphabetic - property "ideographic" - katakana - listed "complexcontext" - script "hira" -
      wordAttached - hebrewLetters) + listed "letterlike"⟩,
  ⟨"cr", "cr", carriageReturn⟩, ⟨"doublequote", "dq", point 0x22⟩,
  ⟨"extend", "extend", wordAttached⟩,
  ⟨"extendnumlet", "ex", categories ["Pc"] + point 0x202f⟩,
  ⟨"format", "fo",
    categories ["Cf"] - wordAttached - points [(0x200b, 0x200d)] - numberSigns⟩,
  ⟨"hebrewletter", "hl", hebrewLetters⟩, ⟨"katakana", "ka", katakana - wordAttached⟩,
  ⟨"lf", "lf", lineFeed⟩, ⟨"midletter", "ml", listed "midletter"⟩,
  ⟨"midnum", "mn", listed "midnum"⟩, ⟨"midnumlet", "mb", listed "midnumlet"⟩,
  ⟨"newline", "nl", points [(0xb, 0xc), (0x85, 0x85), (0x2028, 0x2029)]⟩,
  ⟨"numeric", "nu", digit + listed "numeric" + arabicNumberSigns - point 0x66c⟩, regional,
  ⟨"singlequote", "sq", point 0x27⟩,
  ⟨"wsegspace", "wsegspace",
    points [(0x20, 0x20), (0x1680, 0x1680), (0x2000, 0x2006), (0x2008, 0x200a), (0x205f, 0x205f),
      (0x3000, 0x3000)]⟩,
  ⟨"zwj", "zwj", joiner⟩]

def sentenceAttached : Rule := spacingAttached + joiner

/-- Lower and upper case in sentences; Georgian letters that come in one case only are neither. -/
def sentenceLower : Rule :=
  lowercase - graphemeExtend - points [(0x10d0, 0x10fa), (0x10fd, 0x10ff)]

def sentenceUpper : Rule :=
  categories ["Lt"] + uppercase - points [(0x1c90, 0x1cba), (0x1cbd, 0x1cbf)]

def separators : Rule := points [(0x85, 0x85), (0x2028, 0x2029)]

/-- Full stops that may also end an abbreviation. -/
def fullStops : Rule :=
  points [(0x2e, 0x2e), (0x2024, 0x2024), (0xfe52, 0xfe52), (0xff0e, 0xff0e)]

def sentenceEnds : Rule := property "sentenceterminal" - fullStops

def sentence : List BoundaryClass := [
  ⟨"aterm", "at", fullStops⟩,
  ⟨"close", "cl",
    categories ["Ps", "Pe", "Pi", "Pf"] + listed "quotation" - point 0x5f3 - fullStops -
      sentenceEnds⟩,
  ⟨"cr", "cr", carriageReturn⟩, ⟨"extend", "ex", sentenceAttached⟩,
  ⟨"format", "fo",
    categories ["Cf"] - points [(0x200c, 0x200d)] - numberSigns - sentenceAttached⟩,
  ⟨"lf", "lf", lineFeed⟩, ⟨"lower", "lo", sentenceLower⟩,
  ⟨"numeric", "nu", digit + listed "numeric" + arabicNumberSigns⟩,
  ⟨"oletter", "le",
    alphabetic + points [(0x5f3, 0x5f3), (0x70f, 0x70f)] - sentenceLower - sentenceUpper -
      sentenceAttached⟩,
  ⟨"scontinue", "sc", listed "sentencecontinue"⟩, ⟨"sep", "se", separators⟩,
  ⟨"sp", "sp", whiteSpace - carriageReturn - lineFeed - separators⟩,
  ⟨"sterm", "st", sentenceEnds⟩,
  ⟨"upper", "up", sentenceUpper⟩]

end BoundaryClass

end Logline.Pattern
