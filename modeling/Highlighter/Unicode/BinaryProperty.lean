import Highlighter.Unicode.GeneralCategory
import Highlighter.Unicode.Table.CaseChange

/-! Binary properties of characters, by name. Those that the standard derives from others are derived here. -/

namespace Highlighter.Unicode.BinaryProperty

def lowercase : CharClass := .ofTables [Table.lowercaseLetter, Table.otherLowercase]

def uppercase : CharClass := .ofTables [Table.uppercaseLetter, Table.otherUppercase]

def cased : CharClass := .union lowercase (.union uppercase (.table Table.titlecaseLetter))

def caseIgnorable : CharClass :=
  .ofTables [Table.nonspacingMark, Table.enclosingMark, Table.format, Table.modifierLetter,
    Table.modifierSymbol, Table.midWord]

def changesWhenCasemapped : CharClass :=
  .ofTables [Table.changesWhenLowercased, Table.changesWhenUppercased, Table.changesWhenTitlecased]

def patternReserved : CharClass := .ofTables [Table.patternSyntax, Table.patternWhiteSpace]

def idStart : CharClass :=
  .diff (.union GeneralCategory.letter (.ofTables [Table.letterNumber, Table.otherIdStart])) patternReserved

def idContinue : CharClass :=
  .union idStart
    (.diff (.ofTables [Table.nonspacingMark, Table.spacingMark, Table.decimalNumber,
      Table.connectorPunctuation, Table.otherIdContinue]) patternReserved)

def graphemeBase : CharClass :=
  .compl (.union GeneralCategory.other
    (.ofTables [Table.lineSeparator, Table.paragraphSeparator, Table.graphemeExtend]))

def classes : List NamedClass := [
  ⟨["asciihexdigit", "ahex"], .table Table.asciiHexDigit⟩,
  ⟨["alphabetic", "alpha"], .table Table.alphabetic⟩,
  ⟨["bidicontrol", "bidic"], .table Table.bidiControl⟩,
  ⟨["bidimirrored", "bidim"], .table Table.bidiMirrored⟩,
  ⟨["caseignorable", "ci"], caseIgnorable⟩,
  ⟨["cased"], cased⟩,
  ⟨["changeswhencasefolded", "cwcf"], .table Table.changesWhenCasefolded⟩,
  ⟨["changeswhencasemapped", "cwcm"], changesWhenCasemapped⟩,
  ⟨["changeswhenlowercased", "cwl"], .table Table.changesWhenLowercased⟩,
  ⟨["changeswhentitlecased", "cwt"], .table Table.changesWhenTitlecased⟩,
  ⟨["changeswhenuppercased", "cwu"], .table Table.changesWhenUppercased⟩,
  ⟨["dash"], .table Table.dash⟩,
  ⟨["defaultignorablecodepoint", "di"], .table Table.defaultIgnorableCodePoint⟩,
  ⟨["deprecated", "dep"], .table Table.deprecated⟩,
  ⟨["diacritic", "dia"], .table Table.diacritic⟩,
  ⟨["emoji"], .table Table.emoji⟩,
  ⟨["emojicomponent", "ecomp"], .table Table.emojiComponent⟩,
  ⟨["emojimodifier", "emod"], .table Table.emojiModifier⟩,
  ⟨["emojimodifierbase", "ebase"], .table Table.emojiModifierBase⟩,
  ⟨["emojipresentation", "epres"], .table Table.emojiPresentation⟩,
  ⟨["extendedpictographic", "extpict"], .table Table.extendedPictographic⟩,
  ⟨["extender", "ext"], .table Table.extender⟩,
  ⟨["graphemebase", "grbase"], graphemeBase⟩,
  ⟨["graphemeextend", "grext"], .table Table.graphemeExtend⟩,
  ⟨["graphemelink", "grlink"], .table Table.graphemeLink⟩,
  ⟨["hexdigit", "hex"], .table Table.hexDigit⟩,
  ⟨["hyphen"], .table Table.hyphen⟩,
  ⟨["idsbinaryoperator", "idsb"], .table Table.idsBinaryOperator⟩,
  ⟨["idstrinaryoperator", "idst"], .table Table.idsTrinaryOperator⟩,
  ⟨["idsunaryoperator", "idsu"], .table Table.idsUnaryOperator⟩,
  ⟨["idcompatmathcontinue"], .table Table.idCompatMathContinue⟩,
  ⟨["idcompatmathstart"], .table Table.idCompatMathStart⟩,
  ⟨["idcontinue", "idc"], idContinue⟩,
  ⟨["idstart", "ids"], idStart⟩,
  ⟨["ideographic", "ideo"], .table Table.ideographic⟩,
  ⟨["joincontrol", "joinc"], .table Table.joinControl⟩,
  ⟨["logicalorderexception", "loe"], .table Table.logicalOrderException⟩,
  ⟨["lowercase", "lower"], lowercase⟩,
  ⟨["math"], .ofTables [Table.mathSymbol, Table.otherMath]⟩,
  ⟨["modifiercombiningmark", "mcm"], .table Table.modifierCombiningMark⟩,
  ⟨["noncharactercodepoint", "nchar"], .table Table.noncharacterCodePoint⟩,
  ⟨["otheralphabetic", "oalpha"], .table Table.otherAlphabetic⟩,
  ⟨["otherdefaultignorablecodepoint", "odi"], .table Table.otherDefaultIgnorable⟩,
  ⟨["othergraphemeextend", "ogrext"], .table Table.otherGraphemeExtend⟩,
  ⟨["otheridcontinue", "oidc"], .table Table.otherIdContinue⟩,
  ⟨["otheridstart", "oids"], .table Table.otherIdStart⟩,
  ⟨["otherlowercase", "olower"], .table Table.otherLowercase⟩,
  ⟨["othermath", "omath"], .table Table.otherMath⟩,
  ⟨["otheruppercase", "oupper"], .table Table.otherUppercase⟩,
  ⟨["patternsyntax", "patsyn"], .table Table.patternSyntax⟩,
  ⟨["patternwhitespace", "patws"], .table Table.patternWhiteSpace⟩,
  ⟨["prependedconcatenationmark", "pcm"], .table Table.prependedConcatenationMark⟩,
  ⟨["quotationmark", "qmark"], .table Table.quotationMark⟩,
  ⟨["radical"], .table Table.radical⟩,
  ⟨["regionalindicator", "ri"], .table Table.regionalIndicator⟩,
  ⟨["sentenceterminal", "sterm"], .table Table.sentenceTerminal⟩,
  ⟨["softdotted", "sd"], .table Table.softDotted⟩,
  ⟨["terminalpunctuation", "term"], .table Table.terminalPunctuation⟩,
  ⟨["unifiedideograph", "uideo"], .table Table.unifiedIdeograph⟩,
  ⟨["uppercase", "upper"], uppercase⟩,
  ⟨["variationselector", "vs"], .table Table.variationSelector⟩,
  ⟨["whitespace", "wspace", "space"], .space⟩,
  ⟨["xidcontinue", "xidc"], .diff idContinue (.table Table.unstableContinue)⟩,
  ⟨["xidstart", "xids"], .diff idStart (.table Table.unstableStart)⟩]

end Highlighter.Unicode.BinaryProperty
