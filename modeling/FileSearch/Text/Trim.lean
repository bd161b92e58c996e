import FileSearch.Unicode.Property

/-!
# Blanks around texts
-/

namespace FileSearch.Text

/-- Drops the blanks at the front. -/
def trimStart (cs : List Char) : List Char := cs.dropWhile fun c => Unicode.isBlank c

/-- Drops the blanks at the end. -/
def trimEnd (cs : List Char) : List Char := (trimStart cs.reverse).reverse

/-- Drops the blanks at both ends. -/
def trim (cs : List Char) : List Char := trimEnd (trimStart cs)

end FileSearch.Text
