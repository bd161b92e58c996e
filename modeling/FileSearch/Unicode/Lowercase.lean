import FileSearch.Unicode.CaseOrbit
import FileSearch.Unicode.Property

/-!
# Texts in lower case

`lowercased` replaces the letters of a text that are in upper or title case by their lower-case form.
Two letters do not keep to themselves: the capital I with a dot becomes two characters, and the capital
sigma has a form of its own at the end of a word.
-/

namespace FileSearch.Unicode

/-- Letters that have an upper-case form with another lower-case form. -/
def variantLetters : IntervalSet :=
  .ofText "B5 17F 345 3C2 3D0-3D1 3D5-3D6 3F0-3F1 3F5 1C80-1C88 1E9B 1FBE"

/-- Letters that belong to one of the cases. -/
def casedLetters : IntervalSet := .unions [lowercase, uppercase, category "lt"]

/-- Characters that do not count when neighbours of a letter are looked for. -/
def caseIgnored : IntervalSet := listed "caseignorable"

/-- The lower-case form of a character. -/
def lowercaseForm (c : Char) : Char :=
  let n := c.toNat
  if (uppercase.union (category "lt")).contains n then
    match caseOrbits.find? (·.contains n) with
    | some orbit =>
      match orbit.find? fun m => lowercase.contains m && !variantLetters.contains m with
      | some m => Char.ofNat m
      | none => c
    | none => c
  else c

/-- Whether the first character that counts is a cased letter. -/
def leadsToCased (cs : List Char) : Bool :=
  ((cs.find? fun c => !caseIgnored.contains c.toNat).map fun c => casedLetters.contains c.toNat).getD
    false

/-- The lower-case form of a character between its neighbours, those before it in reverse. -/
def lowercaseAt (before : List Char) (c : Char) (after : List Char) : List Char :=
  if c = '\u0130' then ['i', '\u0307']
  else if c = '\u03A3' ∧ leadsToCased before ∧ !leadsToCased after then ['\u03C2']
  else [lowercaseForm c]

/-- The lower-case form of what comes after some characters, which are given in reverse. -/
def lowercasedAfter : List Char → List Char → List Char
  | _, [] => []
  | before, c :: after => lowercaseAt before c after ++ lowercasedAfter (c :: before) after

/-- A text in lower case. -/
def lowercased (s : String) : String := String.ofList (lowercasedAfter [] s.toList)

end FileSearch.Unicode
