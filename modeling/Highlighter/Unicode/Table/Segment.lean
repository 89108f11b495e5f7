import Highlighter.Unicode.CodeRanges

/-! Characters that stand out where texts are divided into graphemes, words and sentences. -/

namespace Highlighter.Unicode.Table

/-- Consonants that are written with the one behind them. -/
def prefixedConsonant : CodeRanges := .ofLines ["D4E 111C2-111C3 113D1 1193F 11941 11A84-11A89 11D46 11F02"]

/-- Spacing marks that do not belong to the grapheme in front of them. -/
def detachedMark : CodeRanges := .ofLines [
  "102B-102C 1038 1062-1064 1067-106D 1083 1087-108C 108F 109A-109C 1A61 1A63-1A64 AA7B AA7D 11720-11721"]

/-- Letters that belong to the grapheme in front of them. -/
def attachedLetter : CodeRanges := .ofLines ["E33 EB3"]

def leadingJamo : CodeRanges := .ofLines ["1100-115F A960-A97C"]

/-- Vowels of Hangul, and vowel signs of Kirat Rai that join in the same way. -/
def vowelJamo : CodeRanges := .ofLines ["1160-11A7 D7B0-D7C6 16D63 16D67-16D6A"]

def trailingJamo : CodeRanges := .ofLines ["11A8-11FF D7CB-D7FB"]

/-- Marks that are written in words of Katakana. -/
def katakanaMark : CodeRanges := .ofLines ["3031-3035 309B-309C 30A0 30FC FF70"]

/-- What stands in words as a letter does and is none. -/
def wordMark : CodeRanges := .ofLines [
  "B8 2C2-2C5 2D2-2D7 2DE-2DF 2E5-2EB 2ED 2EF-2FF 55A-55C 55E 58A 5F3 70F A708-A716 A720-A721 A789-A78A AB5B"]

/-- Letters of scripts in which a dictionary is needed to tell words apart. -/
def runningLetter : CodeRanges := .ofLines [
  "E01-E30 E32-E33 E40-E46 E81-E82 E84 E86-E8A E8C-EA3 EA5 EA7-EB0 EB2-EB3 EBD EC0-EC4 EC6 EDC-EDF",
  "1000-102A 103F 1050-1055 105A-105D 1061 1065-1066 106E-1070 1075-1081 108E 1780-17B3 17D7 17DC",
  "1950-196D 1970-1974 1980-19AB 19B0-19C9 1A20-1A54 1AA7 A9E0-A9E4 A9E6-A9EF A9FA-A9FE AA60-AA76",
  "AA7A AA7E-AAAF AAB1 AAB5-AAB6 AAB9-AABD AAC0 AAC2 AADB-AADD 11700-1171A 11740-11746"]

/-- Signs that belong to the number behind them, and a digit without a place value. -/
def numberMark : CodeRanges := .ofLines ["600-605 6DD 890-891 8E2 19DA 110BD 110CD"]

/-- Punctuation between letters or digits. -/
def midNumLet : CodeRanges := .ofLines ["2E 2018-2019 2024 FE52 FF07 FF0E"]

/-- Punctuation between letters. -/
def midLetter : CodeRanges := .ofLines ["3A B7 387 55F 5F4 2027 FE13 FE55 FF1A"]

/-- Punctuation between digits. -/
def midNum : CodeRanges := .ofLines ["2C 3B 37E 589 60C-60D 66C 7F8 2044 FE50 FE54 FF0C FF1B"]

/-- Letters of Georgian without case: those that are not used as capitals are. -/
def georgianLetter : CodeRanges := .ofLines ["10D0-10FA 10FD-10FF 1C90-1CBA 1CBD-1CBF"]

/-- Points that may end a sentence or not. -/
def ambiguousTerminal : CodeRanges := .ofLines ["2E 2024 FE52 FF0E"]

/-- Punctuation behind which a sentence goes on. -/
def sentenceContinuation : CodeRanges := .ofLines [
  "2C-2D 3A-3B 37E 55D 60C-60D 7F8 1802 1808 2013-2014 3001 FE10-FE11 FE13-FE14 FE31-FE32 FE50-FE51",
  "FE54-FE55 FE58 FE63 FF0C-FF0D FF1A-FF1B FF64"]

/-- Quotation marks that are not told apart into opening and closing ones. -/
def neutralQuotation : CodeRanges := .ofLines ["22 27 275B-2760 2E00-2E01 2E06-2E08 2E0B 1F676-1F678"]

end Highlighter.Unicode.Table
