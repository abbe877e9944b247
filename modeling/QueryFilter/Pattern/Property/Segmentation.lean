import QueryFilter.Pattern.Property.Derived
import QueryFilter.Pattern.Property.Script

/-!
# Boundaries in text

The properties of Unicode 16.0 by which a text is divided into characters as a reader sees them,
words and sentences.  Each of the three gives a character one value, and
`graphemeBreakNamed?`, `wordBreakNamed?` and `sentenceBreakNamed?` give the characters with the
value that goes by a name.  The value for all other characters cannot be asked for.
-/

namespace QueryFilter.Pattern.Property

open Unicode

/-! ### Characters as a reader sees them -/

/-- The carriage return, the line feed and the joiner of zero width. -/
def returnFeedJoiner : CharSet := hexSet ["A D 200D"]

/-- The characters that extend the one before them. -/
def graphemeBreakExtend : CharSet := graphemeExtend.union emojiModifier

/-- The letters written before the consonant that follows them, and the signs that enclose what
follows them. -/
def graphemeBreakPrepend : CharSet :=
  (hexSet ["D4E 111C2-111C3 113D1 1193F 11941 11A3A 11A84-11A89 11D46 11F02"]).union
    prependedConcatenationMark

/-- The characters that stand apart from both neighbours. -/
def graphemeBreakControl : CharSet :=
  CharSet.diff
    ((withCategory ["Zl", "Zp", "Cc", "Cf"]).union ((category "Cn").inter defaultIgnorable))
    (CharSet.unions [returnFeedJoiner, graphemeBreakExtend, graphemeBreakPrepend])

/-- The spacing marks that do not belong to the character before them. -/
def separateMark : CharSet :=
  hexSet ["102B-102C 1038 1062-1064 1067-106D 1083 1087-108C 108F 109A-109C 1A61 1A63-1A64",
    "AA7B AA7D 11720-11721"]

/-- The spacing marks that belong to the character before them. -/
def graphemeBreakSpacingMark : CharSet :=
  CharSet.union
    ((category "Mc").diff
      (CharSet.unions [separateMark, graphemeBreakExtend, graphemeBreakPrepend]))
    (hexSet ["E33 EB3"])

/-- The syllables of Hangul. -/
def hangulSyllable : CharSet := hexSet ["AC00-D7A3"]

/-- The syllables of Hangul without a final consonant: every twenty-eighth one. -/
def openSyllable : CharSet :=
  CharSet.ofRanges ((List.range 399).map fun i =>
    ⟨Char.ofNat (0xAC00 + 28 * i), Char.ofNat (0xAC00 + 28 * i)⟩)

/-- The characters with the value of `Grapheme_Cluster_Break` that goes by a name. -/
def graphemeBreakNamed? (name : Text) : Option CharSet :=
  match String.ofList name with
  | "cr" => some (CharSet.single '\r')
  | "lf" => some (CharSet.single '\n')
  | "cn" | "control" => some graphemeBreakControl
  | "ex" | "extend" => some graphemeBreakExtend
  | "zwj" => some (hexSet ["200D"])
  | "pp" | "prepend" => some graphemeBreakPrepend
  | "ri" | "regionalindicator" => some regionalIndicator
  | "sm" | "spacingmark" => some graphemeBreakSpacingMark
  | "l" => some (hexSet ["1100-115F A960-A97C"])
  | "v" => some (hexSet ["1160-11A7 D7B0-D7C6 16D63 16D67-16D6A"])
  | "t" => some (hexSet ["11A8-11FF D7CB-D7FB"])
  | "lv" => some openSyllable
  | "lvt" => some (hangulSyllable.diff openSyllable)
  | _ => none

/-! ### Words -/

/-- The characters that attach to the one before them within a word or a sentence. -/
def attached : CharSet := graphemeExtend.union (category "Mc")

/-- The characters that extend the one before them within a word. -/
def wordBreakExtend : CharSet := (attached.union emojiModifier).diff (hexSet ["200D"])

/-- The signs that enclose the number after them. -/
def numberSign : CharSet := hexSet ["600-605 6DD 890-891 8E2 110BD 110CD"]

/-- The digits of numbers. -/
def wordBreakNumeric : CharSet := CharSet.unions [digit, numberSign, hexSet ["66B"]]

/-- The invisible characters that do not divide words. -/
def wordBreakFormat : CharSet :=
  ((category "Cf").diff (CharSet.union attached numberSign)).diff (hexSet ["70F 200B-200D"])

/-- The characters of Katakana words. -/
def wordBreakKatakana : CharSet :=
  ((script "Kana".toList).union (hexSet ["3031-3035 309B-309C 30A0 30FC FF70"])).diff attached

/-- The letters of Hebrew. -/
def hebrewLetter : CharSet := (script "Hebr".toList).inter (category "Lo")

/-- The scripts that are written without blanks between words. -/
def unspacedScripts : List String :=
  ["Ahom", "Hira", "Khmr", "Lana", "Laoo", "Mymr", "Tale", "Talu", "Tavt", "Thai"]

/-- The letters of words of other scripts. -/
def wordBreakLetter : CharSet :=
  CharSet.diff
    (alphabetic.union (hexSet ["B8 2C2-2C5 2D2-2D7 2DE-2DF 2E5-2EB 2ED 2EF-2FF 55A-55C 55E 58A",
      "5F3 70F A708-A716 A720-A721 A789-A78A AB5B"]))
    (CharSet.unions ([ideographic, wordBreakExtend, wordBreakNumeric, wordBreakKatakana,
      hebrewLetter] ++ unspacedScripts.map fun code => script code.toList))

/-- The characters with the value of `Word_Break` that goes by a name. -/
def wordBreakNamed? (name : Text) : Option CharSet :=
  match String.ofList name with
  | "cr" => some (CharSet.single '\r')
  | "lf" => some (CharSet.single '\n')
  | "nl" | "newline" => some (hexSet ["B-C 85 2028-2029"])
  | "extend" => some wordBreakExtend
  | "zwj" => some (hexSet ["200D"])
  | "ri" | "regionalindicator" => some regionalIndicator
  | "fo" | "format" => some wordBreakFormat
  | "ka" | "katakana" => some wordBreakKatakana
  | "hl" | "hebrewletter" => some hebrewLetter
  | "le" | "aletter" => some wordBreakLetter
  | "sq" | "singlequote" => some (CharSet.single '\'')
  | "dq" | "doublequote" => some (CharSet.single '"')
  | "mb" | "midnumlet" => some midNumLet
  | "ml" | "midletter" => some midLetter
  | "mn" | "midnum" =>
    some (hexSet ["2C 3B 37E 589 60C-60D 66C 7F8 2044 FE10 FE14 FE50 FE54 FF0C FF1B"])
  | "nu" | "numeric" => some wordBreakNumeric
  | "ex" | "extendnumlet" => some ((category "Pc").union (hexSet ["202F"]))
  | "wsegspace" => some ((category "Zs").diff (hexSet ["A0 2007 202F"]))
  | _ => none

/-! ### Sentences -/

/-- The characters that extend the one before them within a sentence. -/
def sentenceBreakExtend : CharSet := attached.union (hexSet ["200D"])

/-- The digits of numbers, with the separator of thousands. -/
def sentenceBreakNumeric : CharSet := wordBreakNumeric.union (hexSet ["66C"])

/-- The invisible characters that do not divide sentences. -/
def sentenceBreakFormat : CharSet :=
  (category "Cf").diff (CharSet.union sentenceBreakExtend numberSign)

/-- The letters of Georgian, whose capitals begin no sentence. -/
def georgianLetter : CharSet := hexSet ["10D0-10FA 10FD-10FF 1C90-1CBA 1CBD-1CBF"]

/-- The small letters. -/
def sentenceBreakLower : CharSet :=
  lowercase.diff (sentenceBreakExtend.union georgianLetter)

/-- The capital letters. -/
def sentenceBreakUpper : CharSet := (uppercase.union (category "Lt")).diff georgianLetter

/-- The letters without case. -/
def sentenceBreakLetter : CharSet :=
  (alphabetic.union (hexSet ["5F3"])).diff
    (CharSet.unions [sentenceBreakExtend, sentenceBreakLower, sentenceBreakUpper])

/-- The full stops, which may also end an abbreviation. -/
def fullStop : CharSet := hexSet ["2E 2024 FE52 FF0E"]

/-- The blanks between sentences. -/
def sentenceBreakSpace : CharSet := whiteSpace.diff (hexSet ["A D 85 2028-2029"])

/-- The characters with the value of `Sentence_Break` that goes by a name. -/
def sentenceBreakNamed? (name : Text) : Option CharSet :=
  match String.ofList name with
  | "cr" => some (CharSet.single '\r')
  | "lf" => some (CharSet.single '\n')
  | "se" | "sep" => some (hexSet ["85 2028-2029"])
  | "ex" | "extend" => some sentenceBreakExtend
  | "fo" | "format" => some sentenceBreakFormat
  | "sp" => some sentenceBreakSpace
  | "lo" | "lower" => some sentenceBreakLower
  | "up" | "upper" => some sentenceBreakUpper
  | "le" | "oletter" => some sentenceBreakLetter
  | "nu" | "numeric" => some sentenceBreakNumeric
  | "at" | "aterm" => some fullStop
  | "sc" | "scontinue" =>
    some (hexSet ["2C-2D 3A-3B 37E 55D 60C-60D 7F8 1802 1808 2013-2014 3001 FE10-FE11 FE13-FE14",
      "FE31-FE32 FE50-FE51 FE54-FE55 FE58 FE63 FF0C-FF0D FF1A-FF1B FF64"])
  | "st" | "sterm" => some (sentenceTerminal.diff fullStop)
  | "cl" | "close" =>
    some ((withCategory ["Ps", "Pe", "Pi", "Pf"]).union
      (hexSet ["22 27 275B-2760 2E00-2E01 2E06-2E08 2E0B 1F676-1F678"]))
  | _ => none

end QueryFilter.Pattern.Property
