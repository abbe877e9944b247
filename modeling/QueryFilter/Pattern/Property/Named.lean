import QueryFilter.Pattern.Property.Age
import QueryFilter.Pattern.Property.Segmentation

/-!
# Properties by name

A pattern asks for a property of Unicode 16.0 by one name, that of a binary property, a general
category or a script, or by the name of a property and of one of its values.  Names are compared
without regard to case, blanks, hyphens and underscores: `looseName` brings them into one form.
-/

namespace QueryFilter.Pattern.Property

/-- The name of a property in lower case without blanks, hyphens, underscores and what is not
ASCII, and without a leading `is`, unless that leaves a lone `c`. -/
def looseName (name : Text) : Text :=
  let kept := fun t : Text =>
    Text.foldAscii (t.filter fun c => c != ' ' && c != '_' && c != '-' && c.toNat ≤ 0x7F)
  match name with
  | i :: s :: rest =>
    if Text.foldAscii [i, s] = ['i', 's'] then
      if kept rest = ['c'] then "isc".toList else kept rest
    else kept name
  | _ => kept name

/-- The characters with the binary property that goes by a name. -/
def binaryNamed? (name : Text) : Option CharSet :=
  match String.ofList name with
  | "ahex" | "asciihexdigit" => some asciiHexDigit
  | "alpha" | "alphabetic" => some alphabetic
  | "bidic" | "bidicontrol" => some bidiControl
  | "bidim" | "bidimirrored" => some bidiMirrored
  | "cased" => some cased
  | "ci" | "caseignorable" => some caseIgnorable
  | "cwcf" | "changeswhencasefolded" => some changesWhenCasefolded
  | "cwcm" | "changeswhencasemapped" => some changesWhenCasemapped
  | "cwl" | "changeswhenlowercased" => some changesWhenLowercased
  | "cwt" | "changeswhentitlecased" => some changesWhenTitlecased
  | "cwu" | "changeswhenuppercased" => some changesWhenUppercased
  | "dash" => some dash
  | "dep" | "deprecated" => some deprecated
  | "di" | "defaultignorablecodepoint" => some defaultIgnorable
  | "dia" | "diacritic" => some diacritic
  | "emoji" => some emoji
  | "ecomp" | "emojicomponent" => some emojiComponent
  | "emod" | "emojimodifier" => some emojiModifier
  | "ebase" | "emojimodifierbase" => some emojiModifierBase
  | "epres" | "emojipresentation" => some emojiPresentation
  | "extpict" | "extendedpictographic" => some extendedPictographic
  | "ext" | "extender" => some extender
  | "grbase" | "graphemebase" => some graphemeBase
  | "grext" | "graphemeextend" => some graphemeExtend
  | "grlink" | "graphemelink" => some graphemeLink
  | "hex" | "hexdigit" => some hexDigit
  | "hyphen" => some hyphen
  | "idcompatmathcontinue" => some idCompatMathContinue
  | "idcompatmathstart" => some idCompatMathStart
  | "idc" | "idcontinue" => some idContinue
  | "ids" | "idstart" => some idStart
  | "idsb" | "idsbinaryoperator" => some idsBinaryOperator
  | "idst" | "idstrinaryoperator" => some idsTrinaryOperator
  | "idsu" | "idsunaryoperator" => some idsUnaryOperator
  | "ideo" | "ideographic" => some ideographic
  | "joinc" | "joincontrol" => some joinControl
  | "loe" | "logicalorderexception" => some logicalOrderException
  | "lower" | "lowercase" => some lowercase
  | "math" => some math
  | "mcm" | "modifiercombiningmark" => some modifierCombiningMark
  | "nchar" | "noncharactercodepoint" => some noncharacterCodePoint
  | "oalpha" | "otheralphabetic" => some otherAlphabetic
  | "odi" | "otherdefaultignorablecodepoint" => some otherDefaultIgnorable
  | "ogrext" | "othergraphemeextend" => some otherGraphemeExtend
  | "oidc" | "otheridcontinue" => some otherIdContinue
  | "oids" | "otheridstart" => some otherIdStart
  | "olower" | "otherlowercase" => some otherLowercase
  | "omath" | "othermath" => some otherMath
  | "oupper" | "otheruppercase" => some otherUppercase
  | "patsyn" | "patternsyntax" => some patternSyntax
  | "patws" | "patternwhitespace" => some patternWhiteSpace
  | "pcm" | "prependedconcatenationmark" => some prependedConcatenationMark
  | "qmark" | "quotationmark" => some quotationMark
  | "radical" => some radical
  | "ri" | "regionalindicator" => some regionalIndicator
  | "sterm" | "sentenceterminal" => some sentenceTerminal
  | "sd" | "softdotted" => some softDotted
  | "term" | "terminalpunctuation" => some terminalPunctuation
  | "uideo" | "unifiedideograph" => some unifiedIdeograph
  | "upper" | "uppercase" => some uppercase
  | "vs" | "variationselector" => some variationSelector
  | "wspace" | "whitespace" | "space" => some whiteSpace
  | "xidc" | "xidcontinue" => some xidContinue
  | "xids" | "xidstart" => some xidStart
  | _ => none

/-- The characters of the script that goes by a name. -/
def scriptSet? (name : Text) : Option CharSet := (scriptNamed? name).map script

/-- The characters with the property that is asked for by one name: a binary property, a general
category or a script. -/
def named? (name : Text) : Option CharSet :=
  let n := looseName name
  binaryNamed? n <|> categoryNamed? n <|> scriptSet? n

/-- The characters for which the property of one name has the value of another. -/
def valued? (name value : Text) : Option CharSet :=
  let v := looseName value
  match String.ofList (looseName name) with
  | "gc" | "generalcategory" => categoryNamed? v
  | "sc" | "script" => scriptSet? v
  | "scx" | "scriptextensions" => (scriptNamed? v).map scriptExtension
  | "age" => ageNamed? v
  | "gcb" | "graphemeclusterbreak" => graphemeBreakNamed? v
  | "wb" | "wordbreak" => wordBreakNamed? v
  | "sb" | "sentencebreak" => sentenceBreakNamed? v
  | _ => none

end QueryFilter.Pattern.Property
