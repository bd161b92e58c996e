/-!
# Named sets of characters

Names of character sets are compared in folded spelling: letters in lower case, without blanks,
underscores, hyphens and anything outside ASCII, and without a leading `is`.
-/

namespace FileSearch.Unicode

/-- A set of code points with all its names in folded spelling; the set is a text for
`IntervalSet.ofText`. -/
structure Named where
  names : List String
  ranges : String

/-- The entry with the given folded name. -/
def Named.find? (table : List Named) (name : String) : Option Named :=
  table.find? (·.names.contains name)

/-- Drops what folding ignores and lowers the ASCII letters of the rest. -/
def squash (cs : List Char) : List Char :=
  (cs.filter fun c => c.toNat < 0x80 && c != ' ' && c != '_' && c != '-').map Char.toLower

/-- The folded spelling of a name.  A leading `is` is dropped; the name `isc` is kept as it is,
because `c` names something else. -/
def foldName (name : String) : String :=
  match name.toList with
  | a :: b :: rest =>
    if (a = 'i' ∨ a = 'I') ∧ (b = 's' ∨ b = 'S') then
      let folded := squash rest
      String.ofList (if folded = ['c'] then ['i', 's', 'c'] else folded)
    else String.ofList (squash (a :: b :: rest))
  | cs => String.ofList (squash cs)

end FileSearch.Unicode
