import Engagements.Unicode.Age
import Engagements.Unicode.Property
import Engagements.Unicode.Script
import Engagements.Unicode.Segmentation

/-!
The names by which patterns ask for a set of characters: properties, categories, scripts, and
properties with a value.
-/
namespace Engagements.Unicode

namespace Property

/-- The yes-or-no properties, by names without case, blanks, `-` and `_`. -/
def binary? : String → Option CharSet
  | "ahex" | "asciihexdigit" => some asciiHexDigit
  | "alpha" | "alphabetic" => some alphabetic
  | "bidic" | "bidicontrol" => some bidiControl
  | "bidim" | "bidimirrored" => some bidiMirrored
  | "ci" | "caseignorable" => some caseIgnorable
  | "cased" => some cased
  | "cwcf" | "changeswhencasefolded" => some changesWhenCasefolded
  | "cwcm" | "changeswhencasemapped" => some changesWhenCasemapped
  | "cwl" | "changeswhenlowercased" => some changesWhenLowercased
  | "cwt" | "changeswhentitlecased" => some changesWhenTitlecased
  | "cwu" | "changeswhenuppercased" => some changesWhenUppercased
  | "dash" => some dash
  | "di" | "defaultignorablecodepoint" => some defaultIgnorableCodePoint
  | "dep" | "deprecated" => some deprecated
  | "dia" | "diacritic" => some diacritic
  | "emoji" => some emoji
  | "ecomp" | "emojicomponent" => some emojiComponent
  | "emod" | "emojimodifier" => some emojiModifier
  | "ebase" | "emojimodifierbase" => some emojiModifierBase
  | "epres" | "emojipresentation" => some emojiPresentation
  | "extpict" | "extendedpictographic" => some extendedPictographic
  | "ext" | "extender" => some extender
  | "grbase" | "graphemebase" => some graphemeBase
  | "grext" | "graphemeextend" => some graphemeExtend
  | "grlink" | "graphemelink" => some graphemeLink
  | "hex" | "hexdigit" => some hexDigit
  | "hyphen" => some hyphen
  | "idsb" | "idsbinaryoperator" => some idsBinaryOperator
  | "idst" | "idstrinaryoperator" => some idsTrinaryOperator
  | "idsu" | "idsunaryoperator" => some idsUnaryOperator
  | "idcompatmathcontinue" => some idCompatMathContinue
  | "idcompatmathstart" => some idCompatMathStart
  | "idc" | "idcontinue" => some idContinue
  | "ids" | "idstart" => some idStart
  | "ideo" | "ideographic" => some ideographic
  | "joinc" | "joincontrol" => some joinControl
  | "loe" | "logicalorderexception" => some logicalOrderException
  | "lower" | "lowercase" => some lowercase
  | "math" => some math
  | "mcm" | "modifiercombiningmark" => some modifierCombiningMark
  | "nchar" | "noncharactercodepoint" => some noncharacterCodePoint
  | "oalpha" | "otheralphabetic" => some otherAlphabetic
  | "odi" | "otherdefaultignorablecodepoint" => some otherDefaultIgnorableCodePoint
  | "ogrext" | "othergraphemeextend" => some otherGraphemeExtend
  | "oidc" | "otheridcontinue" => some otherIdContinue
  | "oids" | "otheridstart" => some otherIdStart
  | "olower" | "otherlowercase" => some otherLowercase
  | "omath" | "othermath" => some otherMath
  | "oupper" | "otheruppercase" => some otherUppercase
  | "patsyn" | "patternsyntax" => some patternSyntax
  | "patws" | "patternwhitespace" => some patternWhiteSpace
  | "pcm" | "prependedconcatenationmark" => some prependedConcatenationMark
  | "qmark" | "quotationmark" => some quotationMark
  | "radical" => some radical
  | "ri" | "regionalindicator" => some regionalIndicator
  | "sterm" | "sentenceterminal" => some sentenceTerminal
  | "sd" | "softdotted" => some softDotted
  | "term" | "terminalpunctuation" => some terminalPunctuation
  | "uideo" | "unifiedideograph" => some unifiedIdeograph
  | "upper" | "uppercase" => some uppercase
  | "vs" | "variationselector" => some variationSelector
  | "wspace" | "space" | "whitespace" => some whiteSpace
  | "xidc" | "xidcontinue" => some xidContinue
  | "xids" | "xidstart" => some xidStart
  | _ => none

/-- Categories, and the three sets of characters that are named like one. -/
def category? : String → Option CharSet
  | "any" => some CharSet.all
  | "assigned" => some (CharSet.complement Category.unassignedSet)
  | "ascii" => some CharSet.ascii
  | name => (Category.named? name).map Category.setOf

def script? (name : String) : Option CharSet := (Script.named? name).map Script.own

/-- A lone name is a property, else a category, else a script; three short names that could be
both a property and a category are categories. -/
def named? (name : String) : Option CharSet :=
  let property := if ["cf", "sc", "lc"].contains name then none else binary? name
  property <|> category? name <|> script? name

/-- A name with a value. -/
def valued? (name value : String) : Option CharSet :=
  match name with
  | "gc" | "generalcategory" => category? value
  | "sc" | "script" => script? value
  | "scx" | "scriptextensions" => (Script.named? value).map Script.users
  | "age" => Edition.assigned? value
  | "gcb" | "graphemeclusterbreak" => Segmentation.cluster? value
  | "wb" | "wordbreak" => Segmentation.word? value
  | "sb" | "sentencebreak" => Segmentation.sentence? value
  | _ => none

/-- Drops a leading `is`, and case, blanks, `-` and `_` everywhere. -/
def plainName (name : List Char) : String :=
  let dropped (c : Char) : Bool := c == ' ' || c == '-' || c == '_'
  let kept (cs : List Char) : List Char :=
    (cs.filter fun c => !dropped c && c.toNat < 128).map Char.toLower
  match name with
  | first :: second :: rest =>
    if first.toLower == 'i' && second.toLower == 's' && kept rest != ['c'] then
      String.ofList (kept rest)
    else String.ofList (kept name)
  | _ => String.ofList (kept name)

end Property

end Engagements.Unicode
