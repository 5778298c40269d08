import PlaybookLint.Text.CharacterName.AlphabeticScripts
import PlaybookLint.Text.CharacterName.AsianAndAfricanScripts
import PlaybookLint.Text.CharacterName.Symbols
import PlaybookLint.Text.CharacterName.EastAsianScripts
import PlaybookLint.Text.CharacterName.AncientScripts
import PlaybookLint.Text.CharacterName.Hieroglyphs
import PlaybookLint.Text.CharacterName.Notations
import PlaybookLint.Text.CharacterName.Pictographs
import PlaybookLint.Text.CharacterName.Aliases

/-!
Names of characters, as they may stand in place of a character. Most names are found in tables and
are read in any case. Unified ideographs are named by their numbers and Hangul syllables by their
parts, both in capitals only.
-/

namespace PlaybookLint.Text

namespace CharacterName

/-- The tables of names, in the order of the characters. -/
def tables : List String :=
  [alphabeticScripts, asianAndAfricanScripts, symbols, eastAsianScripts, ancientScripts,
   hieroglyphs, notations, pictographs]

/-- The value of a hexadecimal digit whose letter is a capital. -/
def capitalHexValue? (c : Char) : Option Nat :=
  if c.isDigit then some (c.toNat - '0'.toNat)
  else if 'A' ≤ c && c ≤ 'F' then some (c.toNat - 'A'.toNat + 10)
  else none

/-- The number that hexadecimal digits write. -/
def hexNumber? (digits : List Char) : Option Nat :=
  digits.foldlM (fun total c => (capitalHexValue? c).map (16 * total + ·)) 0

/-- The characters up to a divider, and those after it. -/
def cut (divider : Char) (text : List Char) : List Char × List Char :=
  match text.span (· != divider) with
  | (head, rest) => (head, rest.drop 1)

/-- The number that a row begins with, and its entries. -/
def rowOf (line : List Char) : Nat × List Char :=
  let (number, entries) := cut ' ' line
  ((hexNumber? number).getD 0, entries)

/-- What follows the first text in the second, which begins with it. -/
def afterPrefix? : List Char → List Char → Option (List Char)
  | [], rest => some rest
  | c :: cs, d :: ds => if c == d then afterPrefix? cs ds else none
  | _ :: _, [] => none

/-- The place of a name among the entries of a row. `earlier` are the words of the name before, and
`code` is the number of the character that the next entry names. -/
def placeIn (wanted : List String) : List String → Nat → List String → Option Nat
  | _, _, [] => none
  | earlier, code, entry :: rest =>
    let shared := match entry.toList with
      | d :: _ => d.toNat - '0'.toNat
      | [] => 0
    let words := earlier.take shared ++ (entry.drop 1).toString.splitOn " "
    if words == wanted then some code else placeIn wanted words (code + 1) rest

/-- The number of the character that a row of a table names so. -/
def findInRow (wanted : List String) (line : String) : Option Nat :=
  let (first, entries) := rowOf line.toList
  placeIn wanted [] first ((String.ofList entries).splitOn ";")

/-- The number of the character that a row of further names names so. -/
def findAlias (wanted : String) (line : String) : Option Nat :=
  let (code, entries) := rowOf line.toList
  if ((String.ofList entries).splitOn ";").contains wanted then some code else none

/-! ### Names by rule -/

/-- The ideographs that are named by their numbers, in capitals and with four or five digits. -/
def unifiedRanges : List (Nat × Nat) :=
  [(0x3400, 0x4dbf), (0x4e00, 0x9fff), (0x20000, 0x2a6df), (0x2a700, 0x2b738), (0x2b740, 0x2b81d),
   (0x2b820, 0x2cea1), (0x2ceb0, 0x2ebe0), (0x30000, 0x3134a)]

def unifiedPhrase : String := "CJK UNIFIED IDEOGRAPH-"

/-- The unified ideograph of a name. -/
def unified? (name : String) : Option Nat := do
  let digits ← afterPrefix? unifiedPhrase.toList name.toList
  if digits.length == 4 || digits.length == 5 then
    (hexNumber? digits).filter fun n =>
      unifiedRanges.any fun (first, last) => first ≤ n && n ≤ last
  else none

/-- The ideographs kept for compatibility, each named by its number in as many digits as it has. -/
def compatibilityRanges : List (Nat × Nat × Nat) :=
  [(4, 0xf900, 0xfa6d), (4, 0xfa70, 0xfad9), (5, 0x2f800, 0x2fa1d)]

def compatibilityPhrase : String := "CJK COMPATIBILITY IDEOGRAPH-"

/-- The compatibility ideograph of a name in capitals. -/
def compatibility? (name : String) : Option Nat := do
  let digits ← afterPrefix? compatibilityPhrase.toList name.toList
  (hexNumber? digits).filter fun n =>
    compatibilityRanges.any fun (count, first, last) =>
      digits.length == count && first ≤ n && n ≤ last

/-- The sounds that a syllable begins with, has at its heart and ends with. -/
def firstSounds : List String :=
  ["G", "GG", "N", "D", "DD", "R", "M", "B", "BB", "S", "SS", "", "J", "JJ", "C", "K", "T", "P", "H"]

def middleSounds : List String :=
  ["A", "AE", "YA", "YAE", "EO", "E", "YEO", "YE", "O", "WA", "WAE", "OE", "YO", "U", "WEO", "WE",
   "WI", "YU", "EU", "YI", "I"]

def lastSounds : List String :=
  ["", "G", "GG", "GS", "N", "NJ", "NH", "D", "L", "LG", "LM", "LB", "LS", "LT", "LP", "LH", "M",
   "B", "BS", "S", "SS", "NG", "J", "C", "K", "T", "P", "H"]

/-- The longest of the sounds that a text begins with: its number, and the rest of the text. -/
def longestSound (sounds : List String) (text : List Char) : Option (Nat × List Char) :=
  let found := sounds.zipIdx.filterMap fun (sound, i) =>
    (afterPrefix? sound.toList text).map fun rest => (i, rest)
  found.foldl (fun best one =>
    match best with
    | none => some one
    | some (_, rest) => if one.2.length < rest.length then some one else best) none

def syllablePhrase : String := "HANGUL SYLLABLE "

/-- The Hangul syllable of a name: 588 syllables begin with one sound, and 28 go on with one. -/
def syllable? (name : String) : Option Nat := do
  let sounds ← afterPrefix? syllablePhrase.toList name.toList
  let (first, sounds) ← longestSound firstSounds sounds
  let (middle, sounds) ← longestSound middleSounds sounds
  let (last, rest) ← longestSound lastSounds sounds
  if rest.isEmpty then some (0xac00 + 588 * first + 28 * middle + last) else none

end CharacterName

open CharacterName in
/-- The number of the character of a name. -/
def characterNamed? (name : List Char) : Option Nat :=
  let given := String.ofList name
  let capitals := String.ofList (name.map Char.toUpper)
  let wanted := capitals.splitOn " "
  syllable? given <|> unified? given <|> compatibility? capitals
    <|> ((aliases.splitOn "\n").findSome? (findAlias capitals))
    <|> (tables.findSome? fun table => (table.splitOn "\n").findSome? (findInRow wanted))

end PlaybookLint.Text
