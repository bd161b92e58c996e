import FileSearch.Files.Path
import FileSearch.Rules.Wildcard
import FileSearch.Text.Trim

/-!
# Ignore rules

A rule is a wildcard pattern with marks around it.  A slash at the end restricts it to directories;
with a slash elsewhere it is matched with whole paths below the root, else with the last name.  Of the
rules that match a path the last one decides: it ignores the path, or with an exclamation mark in
front takes it back in.
-/

namespace FileSearch

/-- A rule. -/
structure IgnoreRule where
  tokens : List Wildcard.Token
  negated : Bool
  dirOnly : Bool
  anchored : Bool
  deriving DecidableEq, Repr

namespace IgnoreRule

/-- Reads a rule; there is none if nothing is left of the text or its pattern cannot be read. -/
def read? (text : String) : Option IgnoreRule :=
  let isSlash (c : Char) : Bool := c == '/'
  let cs := Text.trim text.toList
  let negated := cs.head? == some '!'
  let cs := if negated then cs.tail else cs
  let dirOnly := cs.getLast? == some '/'
  let cs := (cs.reverse.dropWhile isSlash).reverse
  let anchored := cs.contains '/'
  let cs := cs.dropWhile isSlash
  if cs.isEmpty then none
  else (Wildcard.Token.readFrom none cs []).map fun tokens => { tokens, negated, dirOnly, anchored }

/-- Whether a rule matches a path with the given text and last name. -/
def matchesPath (r : IgnoreRule) (path name : List Char) (isDir : Bool) : Bool :=
  (!r.dirOnly || isDir) && Wildcard.matchesText r.tokens (if r.anchored then path else name)

end IgnoreRule

/-- Rules in their order. -/
structure IgnoreRules where
  rules : List IgnoreRule
  deriving DecidableEq, Repr

namespace IgnoreRules

/-- The rules of some texts; those that are no rules are left out. -/
def ofTexts (texts : List String) : IgnoreRules := ⟨texts.filterMap IgnoreRule.read?⟩

/-- Whether there is no rule. -/
def isEmpty (r : IgnoreRules) : Bool := r.rules.isEmpty

/-- The text of a path, with slashes for backslashes. -/
def pathText (path : Path) : List Char :=
  path.display.toList.map fun c => if c = '\\' then '/' else c

/-- The text of the last name of a path. -/
def nameText (path : Path) : List Char := ((path.fileName?.map Path.display).getD "").toList

/-- Whether the rules ignore a path below the root. -/
def isIgnored (r : IgnoreRules) (path : Path) (isDir : Bool) : Bool :=
  let text := pathText path
  let name := nameText path
  ((r.rules.reverse.find? (·.matchesPath text name isDir)).map (!·.negated)).getD false

end IgnoreRules

end FileSearch
