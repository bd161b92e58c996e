import FileSearch.Unicode.Property

/-!
# Quoted text for messages

`quoted` writes a text between quotation marks.  Quotation marks, backslashes and characters that
would not show are written as escapes.
-/

namespace FileSearch.Text

/-- The hexadecimal digits of a number. -/
def hexText (n : Nat) : String := String.ofList (Nat.toDigits 16 n)

/-- A character inside quotation marks. -/
def quotedChar (c : Char) : String :=
  if c = '\x00' then "\\0"
  else if c = '\t' then "\\t"
  else if c = '\n' then "\\n"
  else if c = '\r' then "\\r"
  else if c = '"' then "\\\""
  else if c = '\\' then "\\\\"
  else if 0x20 ≤ c.toNat ∧ c.toNat < 0x7F then String.ofList [c]
  else if Unicode.graphemeExtend.contains c.toNat || Unicode.unprintable.contains c.toNat then
    "\\u\x7b" ++ hexText c.toNat ++ "\x7d"
  else String.ofList [c]

/-- A text between quotation marks. -/
def quoted (s : String) : String := "\"" ++ String.join (s.toList.map quotedChar) ++ "\""

end FileSearch.Text
