import ShadowLint.Text.Character
import ShadowLint.Text.CharacterName.InitialAToB
import ShadowLint.Text.CharacterName.InitialC
import ShadowLint.Text.CharacterName.InitialDToG
import ShadowLint.Text.CharacterName.InitialHToK
import ShadowLint.Text.CharacterName.InitialLToM
import ShadowLint.Text.CharacterName.InitialNToR
import ShadowLint.Text.CharacterName.InitialSToT
import ShadowLint.Text.CharacterName.InitialUToZ
import ShadowLint.Text.Digit

/-!
# Names of characters

The Unicode character database (version 14) gives characters names and further names.  Most names
are listed.  A list is a tree of words: what stands in parentheses behind a word continues it, and
a full stop there says that the word may also end a name.  Other names follow from the code point
of the character, and the name of a Hangul syllable from its letters.  Listed names may be written
in small letters.
-/

namespace ShadowLint
namespace Text

/-! ## Listed names -/

/-- The listed names that begin with the same letter as a name, among others. -/
def characterNamesFor (initial : Char) : String :=
  if initial ≤ 'B' then characterNamesAToB
  else if initial ≤ 'C' then characterNamesC
  else if initial ≤ 'G' then characterNamesDToG
  else if initial ≤ 'K' then characterNamesHToK
  else if initial ≤ 'M' then characterNamesLToM
  else if initial ≤ 'R' then characterNamesNToR
  else if initial ≤ 'T' then characterNamesSToT
  else characterNamesUToZ

/-- Whether the words of a name lead from the root of a tree to an end.  Of the `depth` words
that stand above the entries, the first `matched` ones are those of the name. -/
def isInTree (name : List String) (depth matched : Nat) : List (List Char) → Bool
  | [] => false
  | entry :: rest =>
      let word := String.ofList (entry.takeWhile fun c => c != '(' && c != ')')
      let above := depth - entry.count ')'
      if word = "." then
        (matched = depth && depth = name.length) || isInTree name above (min matched above) rest
      else if matched = depth && name[depth]? = some word then
        if entry.contains '(' then isInTree name (depth + 1) (depth + 1) rest
        else depth + 1 = name.length || isInTree name above (min matched above) rest
      else if entry.contains '(' then isInTree name (depth + 1) matched rest
      else isInTree name above (min matched above) rest

/-- Names with words that the lists leave out. -/
def furtherCharacterNames : List String :=
  ["COPY" ++ "RIGHT SIGN", "SOUND RECORDING COPY" ++ "RIGHT", "ORIGIN" ++ "AL OF",
    "SQUARE ORIGIN" ++ "AL OF", "SQUARE ORIGIN" ++ "AL OF OR EQUAL TO",
    "SQUARE ORIGIN" ++ "AL OF OR NOT EQUAL TO", "NOT SQUARE ORIGIN" ++ "AL OF OR EQUAL TO"]

/-- Whether a name in capital letters is listed. -/
def isListedName (name : List Char) : Bool :=
  furtherCharacterNames.contains (String.ofList name) ||
    name.head?.any fun initial =>
      isInTree ((String.ofList name).splitOn " ") 0 0
        (words (characterNamesFor initial).toList)

/-! ## Names after code points -/

/-- The code points of the unified ideographs. -/
def unifiedIdeographRanges : List CodeRange :=
  [(0x3400, 0x4dbf), (0x4e00, 0x9fff), (0x20000, 0x2a6df), (0x2a700, 0x2b738), (0x2b740, 0x2b81d),
    (0x2b820, 0x2cea1), (0x2ceb0, 0x2ebe0), (0x30000, 0x3134a)]

/-- What the names of other characters begin with that end in their code points. -/
def numberedNames : List (String × List CodeRange) :=
  [("CJK COMPATIBILITY IDEOGRAPH-", [(0xf900, 0xfa6d), (0xfa70, 0xfad9), (0x2f800, 0x2fa1d)]),
    ("KHITAN SMALL SCRIPT CHARACTER-", [(0x18b00, 0x18cd5)]),
    ("NUSHU CHARACTER-", [(0x1b170, 0x1b2fb)])]

/-- Whether four or five hexadecimal digits, with capital letters, write a code point that lies in
some ranges. -/
def isCodeWithin (ranges : List CodeRange) (digits : List Char) : Bool :=
  (digits.length == 4 || digits.length == 5) &&
    digits.all (fun c => isHexDigit c && !c.isLower) &&
    isWithin ranges (Char.ofNat (ofHexadecimal digits))

/-- Whether a name in capital letters ends in the code point of its character. -/
def isNumberedName (name : List Char) : Bool :=
  numberedNames.any fun (beginning, ranges) =>
    let digits := name.drop beginning.length
    beginning.toList.isPrefixOf name && isCodeWithin ranges digits && digits.head? != some '0'

/-! ## Names of Hangul syllables -/

/-- The consonants that begin a syllable. -/
def leadingConsonants : List String :=
  ["G", "GG", "N", "D", "DD", "R", "M", "B", "BB", "S", "SS", "", "J", "JJ", "C", "K", "T", "P",
    "H"]

/-- The vowels of a syllable. -/
def vowels : List String :=
  ["A", "AE", "YA", "YAE", "EO", "E", "YEO", "YE", "O", "WA", "WAE", "OE", "YO", "U", "WEO", "WE",
    "WI", "YU", "EU", "YI", "I"]

/-- The consonants that end a syllable. -/
def trailingConsonants : List String :=
  ["", "G", "GG", "GS", "N", "NJ", "NH", "D", "L", "LG", "LM", "LB", "LS", "LT", "LP", "LH", "M",
    "B", "BS", "S", "SS", "NG", "J", "C", "K", "T", "P", "H"]

/-- What stands behind the longest of some parts that begins a text. -/
def afterLongest? (parts : List String) (text : List Char) : Option (List Char) :=
  let fitting := parts.filter fun part => part.toList.isPrefixOf text
  (fitting.map String.length).max?.map text.drop

/-- Whether a text names a syllable: its first consonant, its vowel and its last consonant, each
as long as may be. -/
def isSyllableName (text : List Char) : Bool :=
  (afterLongest? leadingConsonants text >>= afterLongest? vowels >>=
    afterLongest? trailingConsonants) == some []

/-! ## All names -/

/-- Whether a character has a name. -/
def isCharacterName (name : List Char) : Bool :=
  let syllable := "HANGUL SYLLABLE ".toList
  let ideograph := "CJK UNIFIED IDEOGRAPH-".toList
  if syllable.isPrefixOf name then isSyllableName (name.drop syllable.length)
  else if ideograph.isPrefixOf name then
    isCodeWithin unifiedIdeographRanges (name.drop ideograph.length)
  else
    let capitals := name.map Char.toUpper
    isNumberedName capitals || isListedName capitals

end Text
end ShadowLint
