import StyleUsage.Text.CharacterName.African
import StyleUsage.Text.CharacterName.American
import StyleUsage.Text.CharacterName.Ancient
import StyleUsage.Text.CharacterName.Caucasian
import StyleUsage.Text.CharacterName.Control
import StyleUsage.Text.CharacterName.Cuneiform
import StyleUsage.Text.CharacterName.EastAsian
import StyleUsage.Text.CharacterName.Emblem
import StyleUsage.Text.CharacterName.Greek
import StyleUsage.Text.CharacterName.GreekExtension
import StyleUsage.Text.CharacterName.Indic
import StyleUsage.Text.CharacterName.Latin
import StyleUsage.Text.CharacterName.LatinExtension
import StyleUsage.Text.CharacterName.Notation
import StyleUsage.Text.CharacterName.Ornament
import StyleUsage.Text.CharacterName.Pictograph
import StyleUsage.Text.CharacterName.Punctuation
import StyleUsage.Text.CharacterName.Semitic
import StyleUsage.Text.CharacterName.SoutheastAsian
import StyleUsage.Text.CharacterName.Symbol
import StyleUsage.Text.Ranges

/-! # Names of characters

Unicode 14 gives a name to each character. Most names are listed; those of ideographs, of Hangul
syllables and of some other signs follow a rule. -/

namespace StyleUsage.Text

/-- The code points of the unified ideographs, as ascending closed ranges. -/
def ideographRanges : List (Nat × Nat) :=
  [(0x3400, 0x4DBF), (0x4E00, 0x9FFF), (0x20000, 0x2A6DF), (0x2A700, 0x2B738),
   (0x2B740, 0x2B81D), (0x2B820, 0x2CEA1), (0x2CEB0, 0x2EBE0), (0x30000, 0x3134A)]

/-- The value of a digit of base sixteen; letters are capital. -/
def capitalHexValue? (c : Char) : Option Nat :=
  if c.isDigit then some (c.toNat - 48)
  else if 'A' ≤ c ∧ c ≤ 'F' then some (c.toNat - 55)
  else none

/-- The character in some ranges that four or five digits of its code point name. -/
def numbered? (ranges : List (Nat × Nat)) (digits : List Char) : Option Nat := do
  guard (digits.length = 4 ∨ digits.length = 5)
  let code ← digits.foldlM (fun n d => (capitalHexValue? d).map (n * 16 + ·)) 0
  guard (inRanges code ranges)
  return code

/-- Names that end with the code point: what comes before it, and the code points. -/
def numberedNames : List (String × List (Nat × Nat)) :=
  [("CJK COMPATIBILITY IDEOGRAPH-", [(0xF900, 0xFA6D), (0xFA70, 0xFAD9), (0x2F800, 0x2FA1D)]),
   ("KHITAN SMALL SCRIPT CHARACTER-", [(0x18B00, 0x18CD5)]),
   ("NUSHU CHARACTER-", [(0x1B170, 0x1B2FB)])]

/-- The names of the sounds that start a syllable of Hangul, in order. -/
def leadingSounds : List String :=
  ["G", "GG", "N", "D", "DD", "R", "M", "B", "BB", "S", "SS", "", "J", "JJ", "C", "K", "T", "P",
   "H"]

def vowelSounds : List String :=
  ["A", "AE", "YA", "YAE", "EO", "E", "YEO", "YE", "O", "WA", "WAE", "OE", "YO", "U", "WEO", "WE",
   "WI", "YU", "EU", "YI", "I"]

def trailingSounds : List String :=
  ["", "G", "GG", "GS", "N", "NJ", "NH", "D", "L", "LG", "LM", "LB", "LS", "LT", "LP", "LH", "M",
   "B", "BS", "S", "SS", "NG", "J", "C", "K", "T", "P", "H"]

/-- The syllable of Hangul that its sounds name. Syllables are in order of their sounds. -/
def syllable? (sounds : String) : Option Nat :=
  (leadingSounds.flatMap fun leading => vowelSounds.flatMap fun vowel =>
    trailingSounds.map fun trailing => leading ++ vowel ++ trailing).findIdx? (· = sounds)
    |>.map (0xAC00 + ·)

/-- The names that are listed, and aliases. -/
def nameRuns : List NameRun :=
  latinNames ++ punctuationNames ++ symbolNames ++ greekNames ++ controlNames ++ pictographNames ++
    latinExtensionNames ++ greekExtensionNames ++ caucasianNames ++ semiticNames ++ indicNames ++
    southeastAsianNames ++ eastAsianNames ++ africanNames ++ americanNames ++ ancientNames ++
    cuneiformNames ++ notationNames ++ ornamentNames ++ emblemNames

/-- The text after a lead. -/
def afterLead? (lead : String) (s : List Char) : Option (List Char) :=
  if lead.toList.isPrefixOf s then some (s.drop lead.length) else none

/-- The code point of the character with a name. Letter case does not count in listed names. -/
def characterNamed? (name : List Char) : Option Nat :=
  match afterLead? "HANGUL SYLLABLE " name, afterLead? "CJK UNIFIED IDEOGRAPH-" name with
  | some sounds, _ => syllable? (String.ofList sounds)
  | none, some digits => numbered? ideographRanges digits
  | none, none =>
      let name := name.map Char.toUpper
      match numberedNames.findSome? fun (lead, ranges) =>
          (afterLead? lead name).bind fun digits =>
            if digits.head? = some '0' then none else numbered? ranges digits with
      | some code => some code
      | none => nameRuns.findSome? (·.code? (piecesAt ' ' name))

example : characterNamed? "CJK UNIFIED IDEOGRAPH-4E00".toList = some 0x4E00 ∧
    characterNamed? "Nushu Character-1b170".toList = some 0x1B170 ∧
    characterNamed? "CJK UNIFIED IDEOGRAPH-0041".toList = none := by decide +kernel

end StyleUsage.Text
