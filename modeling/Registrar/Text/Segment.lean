import Registrar.Text.Property
import Registrar.Text.Script
/-!
# Segments

The classes of characters that decide where graphemes, words and sentences end.
-/
namespace Registrar.Text

/-! ## Graphemes -/

def joiner : CharSet := .ofTable ["200D"]

/-- The characters that continue a grapheme. -/
def segmentExtend : CharSet := graphemeExtend.union (properties ["emod"])

def segmentControl : CharSet :=
  ((categories ["cc", "cf", "zl", "zp"]).union (assigned.complement.inter (properties ["di"]))).diff
    (((CharSet.ofTable ["A D 200C-200D"]).union (properties ["pcm"])).union segmentExtend)

/-- The spacing marks of scripts that do not write them together with what precedes them. -/
def separateMarks : CharSet :=
  .ofTable ["102B-102C 1038 1062-1064 1067-106D 1083 1087-108C 108F 109A-109C 1A61 1A63-1A64 AA7B",
    "AA7D 11720-11721"]

def spacingMarks : CharSet :=
  ((categories ["mc"]).diff (segmentExtend.union separateMarks)).union (.ofTable ["E33 EB3"])

/-- The Hangul syllables without a final consonant: every twenty-eighth. -/
def openSyllables : CharSet :=
  .ofRanges ((List.range 399).map fun i => (0xAC00 + 28 * i, 0xAC00 + 28 * i))

def graphemeBreak? (name : String) : Option CharSet :=
  match name with
  | "cr" => some (.single '\r')
  | "lf" => some (.single '\n')
  | "cn" | "control" => some segmentControl
  | "ex" | "extend" => some segmentExtend
  | "ri" | "regionalindicator" => some (properties ["ri"])
  | "zwj" => some joiner
  | "pp" | "prepend" =>
    some (.ofTable ["600-605 6DD 70F 890-891 8E2 D4E 110BD 110CD 111C2-111C3 113D1 1193F 11941",
      "11A3A 11A84-11A89 11D46 11F02"])
  | "sm" | "spacingmark" => some spacingMarks
  | "l" => some (.ofTable ["1100-115F A960-A97C"])
  | "v" => some (.ofTable ["1160-11A7 D7B0-D7C6 16D63 16D67-16D6A"])
  | "t" => some (.ofTable ["11A8-11FF D7CB-D7FB"])
  | "lv" => some openSyllables
  | "lvt" => some ((CharSet.ofTable ["AC00-D7A3"]).diff openSyllables)
  | _ => none

/-! ## Words -/

/-- The characters that continue a word without being part of it. -/
def wordExtend : CharSet := segmentExtend.union (categories ["mn", "mc", "me"])

def hebrewLetters : CharSet :=
  .ofTable ["5D0-5EA 5EF-5F2 FB1D FB1F-FB28 FB2A-FB36 FB38-FB3C FB3E FB40-FB41 FB43-FB44 FB46-FB4F"]

def katakana : CharSet :=
  .ofTable ["3031-3035 309B-309C 30A0-30FA 30FC-30FF 31F0-31FF 32D0-32FE 3300-3357 FF66-FF9D",
    "1AFF0-1AFF3 1AFF5-1AFFB 1AFFD-1AFFE 1B000 1B120-1B122 1B155 1B164-1B167"]

/-- The scripts that write no space between words. -/
def unspacedScripts : List String :=
  ["thai", "lao", "myanmar", "khmer", "taile", "newtailue", "taitham", "taiviet", "ahom"]

/-- The letters of scripts that write words apart, and the signs that count as letters. -/
def wordLetters : CharSet :=
  (alphabetic.union
      (.ofTable ["2C2-2C5 2D2-2D7 2DE-2DF 2E5-2EB 2ED 2EF-2FF 55A-55C 55E 58A 5F3 A708-A716",
        "A720-A721 A789-A78A AB5B"])).diff
    (.unions [properties ["ideo"], katakana, hebrewLetters, wordExtend,
      scriptTable.collect ("hiragana" :: unspacedScripts)])

def wordBreak? (name : String) : Option CharSet :=
  match name with
  | "cr" => some (.single '\r')
  | "lf" => some (.single '\n')
  | "nl" | "newline" => some (.ofTable ["B-C 85 2028-2029"])
  | "dq" | "doublequote" => some (.single '"')
  | "sq" | "singlequote" => some (.ofTable ["27"])
  | "hl" | "hebrewletter" => some hebrewLetters
  | "extend" => some wordExtend
  | "ri" | "regionalindicator" => some (properties ["ri"])
  | "fo" | "format" => some ((categories ["cf"]).diff (.ofTable ["200B-200D E0020-E007F"]))
  | "ka" | "katakana" => some katakana
  | "le" | "aletter" => some wordLetters
  | "ml" | "midletter" => some (.ofTable ["3A B7 387 55F 5F4 2027 FE13 FE55 FF1A"])
  | "mn" | "midnum" =>
    some (.ofTable ["2C 3B 37E 589 60C-60D 66C 7F8 2044 FE10 FE14 FE50 FE54 FF0C FF1B"])
  | "mb" | "midnumlet" => some (.ofTable ["2E 2018-2019 2024 FE52 FF07 FF0E"])
  | "nu" | "numeric" => some ((categories ["nd"]).union (.ofTable ["66B"]))
  | "ex" | "extendnumlet" => some (.ofTable ["5F 202F 203F-2040 2054 FE33-FE34 FE4D-FE4F FF3F"])
  | "zwj" => some joiner
  | "wsegspace" => some (.ofTable ["20 1680 2000-2006 2008-200A 205F 3000"])
  | _ => none

/-! ## Sentences -/

def sentenceExtend : CharSet := wordExtend.union joiner

/-- The letters of the one script whose case does not mark the start of a sentence. -/
def sentenceCaseless : CharSet := .ofTable ["10D0-10FA 10FD-10FF 1C90-1CBA 1CBD-1CBF"]

def sentenceLower : CharSet := lowercase.diff (sentenceExtend.union sentenceCaseless)

def sentenceUpper : CharSet :=
  (uppercase.union (categories ["lt"])).diff (sentenceExtend.union sentenceCaseless)

def fullStops : CharSet := .ofTable ["2E 2024 FE52 FF0E"]

def sentenceBreak? (name : String) : Option CharSet :=
  match name with
  | "cr" => some (.single '\r')
  | "lf" => some (.single '\n')
  | "ex" | "extend" => some sentenceExtend
  | "se" | "sep" => some (.ofTable ["85 2028-2029"])
  | "fo" | "format" => some ((categories ["cf"]).diff (.ofTable ["200C-200D E0020-E007F"]))
  | "sp" => some (.ofTable ["9 B-C 20 A0 1680 2000-200A 202F 205F 3000"])
  | "lo" | "lower" => some sentenceLower
  | "up" | "upper" => some sentenceUpper
  | "le" | "oletter" =>
    some ((alphabetic.union (.ofTable ["5F3"])).diff
      (.unions [sentenceLower, sentenceUpper, sentenceExtend]))
  | "nu" | "numeric" => some ((categories ["nd"]).union (.ofTable ["66B-66C"]))
  | "at" | "aterm" => some fullStops
  | "sc" | "scontinue" =>
    some (.ofTable ["2C-2D 3A 55D 60C-60D 7F8 1802 1808 2013-2014 3001 FE10-FE11 FE13 FE31-FE32",
      "FE50-FE51 FE55 FE58 FE63 FF0C-FF0D FF1A FF64"])
  | "st" | "sterm" => some ((properties ["sterm"]).diff fullStops)
  | "cl" | "close" =>
    some (.ofTable ["22 27-29 5B 5D 7B 7D AB BB F3A-F3D 169B-169C 2018-201F 2039-203A 2045-2046",
      "207D-207E 208D-208E 2308-230B 2329-232A 275B-2760 2768-2775 27C5-27C6 27E6-27EF 2983-2998",
      "29D8-29DB 29FC-29FD 2E00-2E0D 2E1C-2E1D 2E20-2E29 2E42 2E55-2E5C 3008-3011 3014-301B",
      "301D-301F FD3E-FD3F FE17-FE18 FE35-FE44 FE47-FE48 FE59-FE5E FF08-FF09 FF3B FF3D FF5B FF5D",
      "FF5F-FF60 FF62-FF63 1F676-1F678"])
  | _ => none

end Registrar.Text
