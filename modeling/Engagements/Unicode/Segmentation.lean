import Engagements.Unicode.Property
import Engagements.Unicode.Script

/-!
The classes of characters by which texts are divided into clusters, words and sentences.
-/
namespace Engagements.Unicode.Segmentation

def lineFeed : CharSet := .read "A"

def carriageReturn : CharSet := .read "D"

def joiner : CharSet := .read "200D"

/-- Format characters that belong to the number or word after them. -/
def numberMark : CharSet := .read "600-605 6DD 890-891 8E2 110BD 110CD 19DA"

/-- All characters of some sets that are in none of the others. -/
def without (sets others : List CharSet) : CharSet :=
  CharSet.difference (CharSet.unionOf sets) (CharSet.unionOf others)

/-! ## Clusters -/

def clusterExtend : CharSet := CharSet.union Property.graphemeExtend Property.emojiModifier

def clusterPrepend : CharSet :=
  CharSet.union Property.prependedConcatenationMark
    (.read "D4E 111C2-111C3 113D1 1193F 11941 11A3A 11A84-11A89 11D46 11F02")

def clusterControl : CharSet :=
  without
    [Category.setOf [.lineSeparator, .paragraphSeparator, .control, .format],
     CharSet.intersection Category.unassignedSet Property.defaultIgnorableCodePoint]
    [lineFeed, carriageReturn, joiner, Property.prependedConcatenationMark, clusterExtend]

/-- Spacing marks, but for some that do not join the cluster before them. -/
def clusterSpacingMark : CharSet :=
  without [Category.spacingMarkSet, .read "E33 EB3"]
    [clusterExtend,
     .read "102B-102C 1038 1062-1064 1067-106D 1083 1087-108C 108F 109A-109C 1A61 1A63-1A64 AA7B
       AA7D 11720-11721"]

def syllables : CharSet := .read "AC00-D7A3"

/-- Syllables of two sounds: every twenty-eighth one. -/
def openSyllables : CharSet := .read "AC00-D788/1C"

def cluster? : String → Option CharSet
  | "cr" => some carriageReturn
  | "lf" => some lineFeed
  | "cn" | "control" => some clusterControl
  | "ex" | "extend" => some clusterExtend
  | "zwj" => some joiner
  | "ri" | "regionalindicator" => some Property.regionalIndicator
  | "pp" | "prepend" => some clusterPrepend
  | "sm" | "spacingmark" => some clusterSpacingMark
  | "l" => some (.read "1100-115F A960-A97C")
  | "v" => some (.read "1160-11A7 D7B0-D7C6 16D63 16D67-16D6A")
  | "t" => some (.read "11A8-11FF D7CB-D7FB")
  | "lv" => some openSyllables
  | "lvt" => some (CharSet.difference syllables openSyllables)
  | _ => none

/-! ## Words -/

def wordExtend : CharSet :=
  without [Property.graphemeExtend, Category.spacingMarkSet, Property.emojiModifier] [joiner]

def wordFormat : CharSet :=
  without [Category.formatSet]
    [.read "200B-200D", wordExtend, Property.prependedConcatenationMark]

def wordKatakana : CharSet :=
  CharSet.union Script.katakanaScript.own (.read "3031-3035 309B-309C 30A0 30FC FF70")

def hebrewLetter : CharSet :=
  CharSet.intersection Script.hebrewScript.own Category.otherLetterSet

/-- Digits, the decimal separator of Arabic, and marks that belong to a number. -/
def number : CharSet := CharSet.unionOf [Category.decimalNumberSet, .read "66B", numberMark]

/-- Letters of scripts whose words cannot be told apart by their characters. -/
def contextual : CharSet := .read
  "E01-E3A E40-E4E E81-E82 E84 E86-E8A E8C-EA3 EA5 EA7-EBD EC0-EC4 EC6 EC8-ECE EDC-EDF
  1000-103F 1050-108F 109A-109F 1780-17D3 17D7 17DC-17DD 1950-196D 1970-1974 1980-19AB
  19B0-19C9 19DA 19DE-19DF 1A20-1A5E 1A60-1A7C 1AA0-1AAD A9E0-A9EF A9FA-A9FE AA60-AAC2
  AADB-AADF 11700-1171A 1171D-1172B 1173A-1173B 1173F-11746"

/-- Letters of words, and modifiers that stand like letters. -/
def wordLetter : CharSet :=
  without
    [Property.alphabetic,
     .read "B8 2C2-2C5 2D2-2D7 2DE-2DF 2E5-2EB 2ED 2EF-2FF 55A-55C 55E 58A 5F3 70F A708-A716
       A720-A721 A789-A78A AB5B"]
    [Property.ideographic, wordKatakana, contextual, Script.hiraganaScript.own, wordExtend,
     hebrewLetter, number]

def word? : String → Option CharSet
  | "cr" => some carriageReturn
  | "lf" => some lineFeed
  | "nl" | "newline" => some (.read "B-C 85 2028-2029")
  | "zwj" => some joiner
  | "ri" | "regionalindicator" => some Property.regionalIndicator
  | "extend" => some wordExtend
  | "fo" | "format" => some wordFormat
  | "ka" | "katakana" => some wordKatakana
  | "hl" | "hebrewletter" => some hebrewLetter
  | "le" | "aletter" => some wordLetter
  | "nu" | "numeric" => some number
  | "sq" | "singlequote" => some (.read "27")
  | "dq" | "doublequote" => some (.read "22")
  | "ml" | "midletter" => some (.read "3A B7 387 55F 5F4 2027 FE13 FE55 FF1A")
  | "mb" | "midnumlet" => some (.read "2E 2018-2019 2024 FE52 FF07 FF0E")
  | "mn" | "midnum" =>
    some (.read "2C 3B 37E 589 60C-60D 66C 7F8 2044 FE10 FE14 FE50 FE54 FF0C FF1B")
  | "ex" | "extendnumlet" =>
    some (CharSet.union Category.connectorPunctuationSet (.read "202F"))
  | "wsegspace" => some (CharSet.difference Category.spaceSeparatorSet (.read "A0 2007 202F"))
  | _ => none

/-! ## Sentences -/

def sentenceBreaks : CharSet := .read "85 2028-2029"

def sentenceExtend : CharSet :=
  CharSet.unionOf [Property.graphemeExtend, Category.spacingMarkSet, joiner]

def sentenceLower : CharSet :=
  without [Property.lowercase] [Property.graphemeExtend, .read "10D0-10FA 10FD-10FF"]

def sentenceUpper : CharSet :=
  without [Property.uppercase, Category.titlecaseLetterSet] [.read "1C90-1CBA 1CBD-1CBF"]

/-- Full stops, which need not end a sentence. -/
def stop : CharSet := .read "2E 2024 FE52 FF0E"

def sentenceEnd : CharSet := CharSet.difference Property.sentenceTerminal stop

def sentenceClose : CharSet :=
  without
    [Category.setOf
       [.openPunctuation, .closePunctuation, .initialPunctuation, .finalPunctuation],
     .read "22 27 275B-2760 2E00-2E01 2E06-2E08 2E0B 1F676-1F678"]
    [.read "5F3", stop, sentenceEnd]

def sentence? : String → Option CharSet
  | "cr" => some carriageReturn
  | "lf" => some lineFeed
  | "se" | "sep" => some sentenceBreaks
  | "ex" | "extend" => some sentenceExtend
  | "fo" | "format" =>
    some (without [Category.formatSet] [joiner, sentenceExtend, numberMark])
  | "sp" => some (without [Property.whiteSpace] [sentenceBreaks, lineFeed, carriageReturn])
  | "lo" | "lower" => some sentenceLower
  | "up" | "upper" => some sentenceUpper
  | "le" | "oletter" =>
    some (without [Property.alphabetic, .read "5F3"]
      [sentenceLower, sentenceUpper, sentenceExtend])
  | "nu" | "numeric" => some (CharSet.union number (.read "66C"))
  | "at" | "aterm" => some stop
  | "st" | "sterm" => some sentenceEnd
  | "cl" | "close" => some sentenceClose
  | "sc" | "scontinue" =>
    some (.read "2C-2D 3A-3B 37E 55D 60C-60D 7F8 1802 1808 2013-2014 3001 FE10-FE11 FE13-FE14
      FE31-FE32 FE50-FE51 FE54-FE55 FE58 FE63 FF0C-FF0D FF1A-FF1B FF64")
  | _ => none

end Engagements.Unicode.Segmentation
