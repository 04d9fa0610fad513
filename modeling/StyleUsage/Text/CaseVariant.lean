import StyleUsage.Text.Lowercase

/-! # Letter case of single characters

Two characters are variants of each other if they differ in letter case only: their lowercase
forms are the same, or have the same uppercase form. Characters are given by their code points. -/

namespace StyleUsage.Text

/-- The lowercase form of one character; where that is a text, its first character. -/
def lowerCode (n : Nat) : Nat :=
  if n = 0x130 then 0x69 else (caseRuns.findSome? (·.lower? n)).getD n

/-- The character of a run that has a lowercase form, if the run holds one. -/
def CaseRun.upper? (run : CaseRun) (n : Nat) : Option Nat :=
  let upper := run.first + (n - run.lower)
  if run.lower ≤ n ∧ run.lower? upper = some n then some upper else none

/-- Ranges of characters whose uppercase forms are texts, or have another lowercase form: the first
and the last of them, and the uppercase form of the first, or the character that it starts with. -/
def upperExceptions : List (Nat × Nat × Nat) :=
  [(0xB5, 0xB5, 0x39C), (0xDF, 0xDF, 0x53), (0x131, 0x131, 0x49), (0x149, 0x149, 0x2BC),
   (0x17F, 0x17F, 0x53), (0x1C5, 0x1C5, 0x1C4), (0x1C8, 0x1C8, 0x1C7), (0x1CB, 0x1CB, 0x1CA),
   (0x1F0, 0x1F0, 0x4A), (0x1F2, 0x1F2, 0x1F1), (0x345, 0x345, 0x399), (0x390, 0x390, 0x399),
   (0x3B0, 0x3B0, 0x3A5), (0x3C2, 0x3C2, 0x3A3), (0x3D0, 0x3D0, 0x392), (0x3D1, 0x3D1, 0x398),
   (0x3D5, 0x3D5, 0x3A6), (0x3D6, 0x3D6, 0x3A0), (0x3F0, 0x3F0, 0x39A), (0x3F1, 0x3F1, 0x3A1),
   (0x3F5, 0x3F5, 0x395), (0x587, 0x587, 0x535), (0x1C80, 0x1C80, 0x412), (0x1C81, 0x1C81, 0x414),
   (0x1C82, 0x1C82, 0x41E), (0x1C83, 0x1C84, 0x421), (0x1C85, 0x1C85, 0x422),
   (0x1C86, 0x1C86, 0x42A), (0x1C87, 0x1C87, 0x462), (0x1C88, 0x1C88, 0xA64A),
   (0x1E96, 0x1E96, 0x48), (0x1E97, 0x1E97, 0x54), (0x1E98, 0x1E98, 0x57), (0x1E99, 0x1E99, 0x59),
   (0x1E9A, 0x1E9A, 0x41), (0x1E9B, 0x1E9B, 0x1E60), (0x1F50, 0x1F50, 0x3A5),
   (0x1F52, 0x1F52, 0x3A5), (0x1F54, 0x1F54, 0x3A5), (0x1F56, 0x1F56, 0x3A5),
   (0x1F80, 0x1F87, 0x1F08), (0x1F88, 0x1F8F, 0x1F08), (0x1F90, 0x1F97, 0x1F28),
   (0x1F98, 0x1F9F, 0x1F28), (0x1FA0, 0x1FA7, 0x1F68), (0x1FA8, 0x1FAF, 0x1F68),
   (0x1FB2, 0x1FB2, 0x1FBA), (0x1FB3, 0x1FB3, 0x391), (0x1FB4, 0x1FB4, 0x386),
   (0x1FB6, 0x1FB6, 0x391), (0x1FB7, 0x1FB7, 0x391), (0x1FBC, 0x1FBC, 0x391),
   (0x1FBE, 0x1FBE, 0x399), (0x1FC2, 0x1FC2, 0x1FCA), (0x1FC3, 0x1FC3, 0x397),
   (0x1FC4, 0x1FC4, 0x389), (0x1FC6, 0x1FC6, 0x397), (0x1FC7, 0x1FC7, 0x397),
   (0x1FCC, 0x1FCC, 0x397), (0x1FD2, 0x1FD2, 0x399), (0x1FD3, 0x1FD3, 0x399),
   (0x1FD6, 0x1FD6, 0x399), (0x1FD7, 0x1FD7, 0x399), (0x1FE2, 0x1FE2, 0x3A5),
   (0x1FE3, 0x1FE3, 0x3A5), (0x1FE4, 0x1FE4, 0x3A1), (0x1FE6, 0x1FE6, 0x3A5),
   (0x1FE7, 0x1FE7, 0x3A5), (0x1FF2, 0x1FF2, 0x1FFA), (0x1FF3, 0x1FF3, 0x3A9),
   (0x1FF4, 0x1FF4, 0x38F), (0x1FF6, 0x1FF6, 0x3A9), (0x1FF7, 0x1FF7, 0x3A9),
   (0x1FFC, 0x1FFC, 0x3A9), (0xFB00, 0xFB00, 0x46), (0xFB01, 0xFB01, 0x46),
   (0xFB02, 0xFB02, 0x46), (0xFB03, 0xFB03, 0x46), (0xFB04, 0xFB04, 0x46), (0xFB05, 0xFB05, 0x53),
   (0xFB06, 0xFB06, 0x53), (0xFB13, 0xFB13, 0x544), (0xFB14, 0xFB14, 0x544),
   (0xFB15, 0xFB15, 0x544), (0xFB16, 0xFB16, 0x54E), (0xFB17, 0xFB17, 0x544)]

/-- The uppercase form of one character; where that is a text, its first character. -/
def upperCode (n : Nat) : Nat :=
  match upperExceptions.find? fun (first, last, _) => first ≤ n && n ≤ last with
  | some (first, _, upper) => upper + (n - first)
  | none => (caseRuns.findSome? (·.upper? n)).getD n

/-- The characters with a lowercase form. -/
def upperCodes (n : Nat) : List Nat :=
  (if lowerCode n = n then [n] else []) ++ (if n = 0x69 then [0x130] else []) ++
    caseRuns.filterMap (·.upper? n)

/-- Lowercase characters with one uppercase form. -/
def lowerTwins : List (List Nat) :=
  [[0x69, 0x131], [0x73, 0x17F], [0xB5, 0x3BC], [0x345, 0x3B9, 0x1FBE], [0x390, 0x1FD3],
   [0x3B0, 0x1FE3], [0x3B2, 0x3D0], [0x3B5, 0x3F5], [0x3B8, 0x3D1], [0x3BA, 0x3F0],
   [0x3C0, 0x3D6], [0x3C1, 0x3F1], [0x3C2, 0x3C3], [0x3C6, 0x3D5], [0x432, 0x1C80],
   [0x434, 0x1C81], [0x43E, 0x1C82], [0x441, 0x1C83], [0x442, 0x1C84, 0x1C85], [0x44A, 0x1C86],
   [0x463, 0x1C87], [0x1C88, 0xA64B], [0x1E61, 0x1E9B], [0xFB05, 0xFB06]]

/-- A character and those that differ from it in letter case only. -/
def caseVariants (n : Nat) : List Nat :=
  let lower := lowerCode n
  ((lowerTwins.find? (·.contains lower)).getD [lower]).flatMap upperCodes

/-- Whether one of the characters `start`, `start + step`, … up to `stop` lies in a range. -/
def stepsInto (start stop step first last : Nat) : Bool :=
  let n := start + (first - start + step - 1) / step * step
  n ≤ stop && n ≤ last

/-- Whether a range holds a character that is not its own lowercase or uppercase form. -/
def anyVaries (first last : Nat) : Bool :=
  (first ≤ 0x130 && 0x130 ≤ last) ||
    (upperExceptions.any fun (start, stop, _) => first ≤ stop && start ≤ last) ||
    caseRuns.any fun run =>
      stepsInto run.first run.last run.step first last ||
        stepsInto run.lower (run.lower + (run.last - run.first)) run.step first last

/-- The lowercase form among the letters of ASCII. -/
def asciiLowerCode (n : Nat) : Nat :=
  if 0x41 ≤ n ∧ n ≤ 0x5A then n + 0x20 else n

/-- A character and the one that differs from it in letter case only, among the letters of
ASCII. -/
def asciiVariants (n : Nat) : List Nat :=
  let lower := asciiLowerCode n
  if 0x61 ≤ lower ∧ lower ≤ 0x7A then [lower, lower - 0x20] else [n]

/-- Whether a range holds a letter of ASCII. -/
def anyAsciiLetter (first last : Nat) : Bool :=
  (first ≤ 0x5A && 0x41 ≤ last) || (first ≤ 0x7A && 0x61 ≤ last)

example : upperCode 0x6B = 0x4B ∧ upperCode 0x149 = 0x2BC ∧ upperCode 0x1F81 = 0x1F09 ∧
    caseVariants 0x4B = [0x6B, 0x4B, 0x212A] ∧ asciiVariants 0x4B = [0x6B, 0x4B] ∧
    caseVariants 0x3C3 = [0x3C2, 0x3C3, 0x3A3] ∧
    anyVaries 0x5B 0x61 ∧ ¬anyVaries 0x5B 0x60 ∧ ¬anyVaries 0x138 0x138 := by decide +kernel

end StyleUsage.Text
