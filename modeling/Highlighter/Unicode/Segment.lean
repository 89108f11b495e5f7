import Highlighter.Unicode.BinaryProperty
import Highlighter.Unicode.Table.Script
import Highlighter.Unicode.Table.Segment

/-!
Classes of characters by what they do where a text is divided into graphemes, words or sentences, by name. Those that
the standard derives from other properties are derived here.
-/

namespace Highlighter.Unicode

open CharClass (ofTables)

def lineFeed : CharClass := .single '\n'

def carriageReturn : CharClass := .single '\r'

def zeroWidthJoiner : CharClass := .single '\u200d'

namespace GraphemeBreak

def extend : CharClass := ofTables [Table.graphemeExtend, Table.emojiModifier]

def precomposed : CharClass := .table [(0xAC00, 0xD7A3)]

/-- Syllables of Hangul without a consonant at their end: one in twenty-eight. -/
def openSyllable : CharClass := .table ((List.range 399).map fun index => (0xAC00 + 28 * index, 0xAC00 + 28 * index))

def control : CharClass :=
  .diff
    (.union (ofTables [Table.control, Table.format, Table.lineSeparator, Table.paragraphSeparator])
      (.inter (.table Table.unassigned) (.table Table.defaultIgnorableCodePoint)))
    (.unions [lineFeed, carriageReturn, zeroWidthJoiner, extend, .table Table.prependedConcatenationMark])

def spacingMark : CharClass :=
  .union (.table Table.attachedLetter)
    (.diff (.table Table.spacingMark) (ofTables [Table.graphemeExtend, Table.detachedMark]))

def classes : List NamedClass := [
  ⟨["control", "cn"], control⟩,
  ⟨["cr"], carriageReturn⟩,
  ⟨["extend", "ex"], extend⟩,
  ⟨["l"], .table Table.leadingJamo⟩,
  ⟨["lf"], lineFeed⟩,
  ⟨["lv"], openSyllable⟩,
  ⟨["lvt"], .diff precomposed openSyllable⟩,
  ⟨["prepend", "pp"], ofTables [Table.prependedConcatenationMark, Table.prefixedConsonant]⟩,
  ⟨["regionalindicator", "ri"], .table Table.regionalIndicator⟩,
  ⟨["spacingmark", "sm"], spacingMark⟩,
  ⟨["t"], .table Table.trailingJamo⟩,
  ⟨["v"], .table Table.vowelJamo⟩,
  ⟨["zwj"], zeroWidthJoiner⟩]

end GraphemeBreak

namespace WordBreak

def extend : CharClass := ofTables [Table.graphemeExtend, Table.spacingMark, Table.emojiModifier]

def hebrewLetter : CharClass := .inter (.table Table.hebrew) (.table Table.otherLetter)

def katakana : CharClass := ofTables [Table.katakana, Table.katakanaMark]

def letter : CharClass :=
  .diff (ofTables [Table.alphabetic, Table.wordMark])
    (.unions [extend, hebrewLetter, katakana, ofTables [Table.ideographic, Table.hiragana, Table.runningLetter]])

def format : CharClass :=
  .diff (.table Table.format)
    (.unions [ofTables [Table.graphemeExtend, Table.prependedConcatenationMark], .table [(0x200B, 0x200D)]])

def classes : List NamedClass := [
  ⟨["aletter", "le"], letter⟩,
  ⟨["cr"], carriageReturn⟩,
  ⟨["doublequote", "dq"], .single '"'⟩,
  ⟨["extend"], extend⟩,
  ⟨["extendnumlet", "ex"], ofTables [Table.connectorPunctuation, [(0x202F, 0x202F)]]⟩,
  ⟨["format", "fo"], format⟩,
  ⟨["hebrewletter", "hl"], hebrewLetter⟩,
  ⟨["katakana", "ka"], katakana⟩,
  ⟨["lf"], lineFeed⟩,
  ⟨["midletter", "ml"], .table Table.midLetter⟩,
  ⟨["midnum", "mn"], .table Table.midNum⟩,
  ⟨["midnumlet", "mb"], .table Table.midNumLet⟩,
  ⟨["newline", "nl"], .table [(0x0B, 0x0C), (0x85, 0x85), (0x2028, 0x2029)]⟩,
  ⟨["numeric", "nu"], ofTables [Table.decimalNumber, Table.numberMark, [(0x66B, 0x66B)]]⟩,
  ⟨["regionalindicator", "ri"], .table Table.regionalIndicator⟩,
  ⟨["singlequote", "sq"], .single '\x27'⟩,
  ⟨["wsegspace"], .diff (.table Table.spaceSeparator) (.table [(0xA0, 0xA0), (0x2007, 0x2007), (0x202F, 0x202F)])⟩,
  ⟨["zwj"], zeroWidthJoiner⟩]

end WordBreak

namespace SentenceBreak

def extend : CharClass :=
  .union zeroWidthJoiner (ofTables [Table.graphemeExtend, Table.spacingMark])

def separator : CharClass := .table [(0x85, 0x85), (0x2028, 0x2029)]

def lower : CharClass := .diff BinaryProperty.lowercase (.union extend (.table Table.georgianLetter))

def upper : CharClass :=
  .diff (.union BinaryProperty.uppercase (.table Table.titlecaseLetter)) (.table Table.georgianLetter)

def otherLetter : CharClass :=
  .diff (ofTables [Table.alphabetic, [(0x5F3, 0x5F3)]]) (.unions [extend, lower, upper])

def format : CharClass :=
  .diff (.table Table.format)
    (.unions [ofTables [Table.graphemeExtend, Table.numberMark], .table [(0x200C, 0x200D)]])

def close : CharClass :=
  ofTables [Table.openPunctuation, Table.closePunctuation, Table.initialPunctuation, Table.finalPunctuation,
    Table.neutralQuotation]

def classes : List NamedClass := [
  ⟨["aterm", "at"], .table Table.ambiguousTerminal⟩,
  ⟨["cr"], carriageReturn⟩,
  ⟨["close", "cl"], close⟩,
  ⟨["extend", "ex"], extend⟩,
  ⟨["format", "fo"], format⟩,
  ⟨["lf"], lineFeed⟩,
  ⟨["lower", "lo"], lower⟩,
  ⟨["numeric", "nu"], ofTables [Table.decimalNumber, Table.numberMark, [(0x66B, 0x66C)]]⟩,
  ⟨["oletter", "le"], otherLetter⟩,
  ⟨["scontinue", "sc"], .table Table.sentenceContinuation⟩,
  ⟨["sterm", "st"], .diff (.table Table.sentenceTerminal) (.table Table.ambiguousTerminal)⟩,
  ⟨["sep", "se"], separator⟩,
  ⟨["sp"], .diff .space (.unions [separator, lineFeed, carriageReturn])⟩,
  ⟨["upper", "up"], upper⟩]

end SentenceBreak

end Highlighter.Unicode
