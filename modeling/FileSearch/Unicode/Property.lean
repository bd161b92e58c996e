import FileSearch.Unicode.IntervalSet
import FileSearch.Unicode.Named
import FileSearch.Unicode.Table.Category
import FileSearch.Unicode.Table.Script
import FileSearch.Unicode.Table.Property

/-!
# Character properties

General categories, scripts and binary properties by name.  `lookup` finds a set by one name,
`lookupValue` by a property and one of its values; both fail with a cause.  The binary properties
that the standard derives from others are put together in `derived`.  The last section names the
sets that the rest of the library uses.
-/

namespace FileSearch.Unicode

/-- Why a name stands for no set of characters. -/
inductive LookupError where
  | unknownProperty
  | unknownValue
  deriving DecidableEq, Repr

/-- The set of an entry of a table. -/
def Named.set (n : Named) : IntervalSet := .ofText n.ranges

/-- The set of the table's entry with a folded name; empty if there is none. -/
def setOf (table : List Named) (name : String) : IntervalSet :=
  ((Named.find? table name).map Named.set).getD .empty

/-- The general category, or union of categories, with a folded name. -/
def category? (name : String) : Option IntervalSet :=
  match Table.categoryGroups.find? (·.1.contains name) with
  | some (_, members) => some (.unions (members.map (setOf Table.categories)))
  | none => (Named.find? Table.categories name).map Named.set

/-- The category with a folded name, known to be one. -/
def category (name : String) : IntervalSet := (category? name).getD .empty

/-- A listed property with a folded name, known to be one. -/
def listed (name : String) : IntervalSet := setOf Table.properties name

/-- What a value of the property "general category" stands for, the three unions `any`, `assigned`
and `ascii` included.  Surrogates are no characters and have no set. -/
def categoryValue (name : String) : Option (Except LookupError IntervalSet) :=
  if name = "any" then some (.ok (.full .scalars))
  else if name = "assigned" then some (.ok ((category "unassigned").compl .scalars))
  else if name = "ascii" then some (.ok ⟨[⟨0, 0x7F⟩]⟩)
  else if name = "cs" ∨ name = "surrogate" then some (.error .unknownValue)
  else (category? name).map .ok

/-- What a value of the property "script" stands for. -/
def scriptValue (name : String) : Option (Except LookupError IntervalSet) :=
  if Table.emptyScripts.contains name then some (.error .unknownValue)
  else (Named.find? Table.scripts name).map fun n => .ok n.set

/-- What a value of the property "script extensions" stands for: the script's own characters and
those it shares, less those it does not list. -/
def scriptExtensionValue (name : String) : Option IntervalSet := do
  let n ← Named.find? Table.scripts name
  let shared := n.names.map (setOf Table.scriptExtensions)
  let dropped := n.names.map (setOf Table.scriptExclusions)
  some ((n.set.union (.unions shared)).diff .scalars (.unions dropped))

/-! ## Derived properties -/

/-- Letters, letter-like numbers and what else counts as alphabetic. -/
def alphabetic : IntervalSet := .unions [category "l", category "nl", listed "otheralphabetic"]

/-- Letters in lower case and what else counts as such. -/
def lowercase : IntervalSet := (category "ll").union (listed "otherlowercase")

/-- Letters in upper case and what else counts as such. -/
def uppercase : IntervalSet := (category "lu").union (listed "otheruppercase")

/-- Characters that extend the one before them. -/
def graphemeExtend : IntervalSet :=
  .unions [category "me", category "mn", listed "othergraphemeextend"]

/-- Characters reserved for patterns, which are no part of identifiers. -/
def patternReserved : IntervalSet :=
  (listed "patternsyntax").union (listed "patternwhitespace")

/-- Characters that start an identifier. -/
def identifierStart : IntervalSet :=
  (((category "l").union (category "nl")).diff .scalars patternReserved).union
    (listed "otheridstart")

/-- Characters that continue an identifier. -/
def identifierContinue : IntervalSet :=
  ((IntervalSet.unions [identifierStart, category "mn", category "mc", category "nd",
    category "pc"]).diff .scalars patternReserved).union (listed "otheridcontinue")

/-- Identifier characters that stop being such when a text is normalised. -/
def unstableContinue : IntervalSet :=
  .ofText "37A 309B-309C FC5E-FC63 FDFA-FDFB FE70 FE72 FE74 FE76 FE78 FE7A FE7C FE7E"

/-- Identifier starts that stop being such when a text is normalised. -/
def unstableStart : IntervalSet := unstableContinue.union (.ofText "E33 EB3 FF9E-FF9F")

/-- The derived binary properties, each with its folded names. -/
def derived : List (List String × (Unit → IntervalSet)) := [
  (["alpha", "alphabetic"], fun _ => alphabetic),
  (["lower", "lowercase"], fun _ => lowercase),
  (["upper", "uppercase"], fun _ => uppercase),
  (["math"], fun _ => (category "sm").union (listed "othermath")),
  (["grext", "graphemeextend"], fun _ => graphemeExtend),
  (["grbase", "graphemebase"], fun _ =>
    (IntervalSet.unions [category "cc", category "cf", ⟨[⟨0xD800, 0xDFFF⟩]⟩, category "co",
      category "cn", category "zl", category "zp", graphemeExtend]).compl .scalars),
  (["cased"], fun _ => .unions [lowercase, uppercase, category "lt"]),
  (["cwcm", "changeswhencasemapped"], fun _ =>
    .unions [listed "cwl", listed "cwu", listed "cwt"]),
  (["ids", "idstart"], fun _ => identifierStart),
  (["idc", "idcontinue"], fun _ => identifierContinue),
  (["xids", "xidstart"], fun _ => identifierStart.diff .scalars unstableStart),
  (["xidc", "xidcontinue"], fun _ => identifierContinue.diff .scalars unstableContinue)]

/-- The binary property with a folded name. -/
def property? (name : String) : Option IntervalSet :=
  match derived.find? (·.1.contains name) with
  | some (_, set) => some (set ())
  | none => (Named.find? Table.properties name).map Named.set

/-- Properties that have values of a kind for which no sets are kept. -/
def valuedProperties : List String := [
  "age", "block", "blk", "bidiclass", "bc", "bidimirroringglyph", "bmg", "bidipairedbracket",
  "bpb", "bidipairedbrackettype", "bpt", "canonicalcombiningclass", "ccc", "casefolding", "cf",
  "decompositionmapping", "dm", "decompositiontype", "dt", "eastasianwidth", "ea",
  "graphemeclusterbreak", "gcb", "hangulsyllabletype", "hst", "indicpositionalcategory", "inpc",
  "indicsyllabiccategory", "insc", "isocomment", "isc", "jamoshortname", "jsn", "joininggroup",
  "jg", "joiningtype", "jt", "linebreak", "lb", "lowercasemapping", "lc", "name", "na",
  "nfcquickcheck", "nfcqc", "nfdquickcheck", "nfdqc", "nfkcquickcheck", "nfkcqc",
  "nfkdquickcheck", "nfkdqc", "numerictype", "nt", "numericvalue", "nv", "sentencebreak", "sb",
  "simplecasefolding", "scf", "sfc", "simplelowercasemapping", "slc", "simpletitlecasemapping",
  "stc", "simpleuppercasemapping", "suc", "titlecasemapping", "tc", "unicode1name", "na1",
  "uppercasemapping", "uc", "verticalorientation", "vo", "wordbreak", "wb"]

/-! ## Lookup -/

/-- The set with the given name: a binary property, else a general category, else a script.  Three
short names of properties are left to the categories of the same name. -/
def lookup (name : String) : Except LookupError IntervalSet :=
  let folded := foldName name
  let asProperty := if ["cf", "sc", "lc"].contains folded then none else property? folded
  match asProperty with
  | some s => .ok s
  | none =>
    match categoryValue folded with
    | some r => r
    | none => (scriptValue folded).getD (.error .unknownProperty)

/-- The set of characters for which the named property has the named value. -/
def lookupValue (property value : String) : Except LookupError IntervalSet :=
  let property := foldName property
  let value := foldName value
  if ["gc", "generalcategory", "category"].contains property then
    (categoryValue value).getD (.error .unknownValue)
  else if ["sc", "script"].contains property then
    (scriptValue value).getD (.error .unknownValue)
  else if ["scx", "scriptextensions"].contains property then
    match scriptExtensionValue value with
    | some s => .ok s
    | none => .error .unknownValue
  else if (property? property).isSome || valuedProperties.contains property then
    .error .unknownValue
  else .error .unknownProperty

/-! ## Sets used by name -/

/-- Decimal digits of all scripts. -/
def digits : IntervalSet := category "nd"

/-- White space. -/
def blanks : IntervalSet := listed "whitespace"

/-- Characters of words: alphabetic ones, marks, digits, connectors and joiners. -/
def wordChars : IntervalSet :=
  .unions [alphabetic, category "m", category "nd", category "pc", listed "joincontrol"]

/-- Numbers of every kind. -/
def numbers : IntervalSet := category "n"

/-- Characters with no visible form of their own, the blank aside. -/
def unprintable : IntervalSet :=
  (IntervalSet.unions [category "c", category "z"]).diff .scalars (.singleton 0x20)

/-- Whether a character is white space. -/
def isBlank (c : Char) : Bool := blanks.contains c.toNat

/-- Whether a character is alphabetic. -/
def isAlphabetic (c : Char) : Bool := alphabetic.contains c.toNat

/-- Whether a character is alphabetic or a number. -/
def isAlphanumeric (c : Char) : Bool := isAlphabetic c || numbers.contains c.toNat

/-- Whether a character is in upper case. -/
def isUppercase (c : Char) : Bool := uppercase.contains c.toNat

end FileSearch.Unicode
