import FileSearch.Regex.Read.Cursor

/-!
# Repetition operators

`repetition` reads `?`, `*`, `+` or a count in braces, with the question mark that makes it lazy,
and applies it to the item before it.
-/

namespace FileSearch.Regex.Reader

/-- Reads decimal digits; blanks between them are skipped in verbose patterns. -/
def digits : Nat → List Char → Reader (List Char)
  | 0, read => return read
  | limit + 1, read => do
    match ← peek with
    | some c =>
      if c.isDigit then
        next
        digits limit (read ++ [c])
      else return read
    | none => return read

/-- Passes white space one character at a time. -/
def blanks (pass : Reader Unit) : Nat → Reader Unit
  | 0 => return
  | limit + 1 => do
    match ← peek with
    | some c =>
      if Unicode.isBlank c then
        pass
        blanks pass limit
      else return
    | none => return

/-- Reads a decimal number of at most 32 bits with the white space around it. -/
def decimal : Reader (Except Fault Nat) := do
  let limit := (← get).rest.length
  blanks bump limit
  let start ← pos
  let read ← digits limit []
  let span ← since start
  blanks next limit
  let n := read.foldl (fun n c => n * 10 + (c.toNat - 48)) 0
  if read.isEmpty then return .error { cause := .repetitionCountEmpty, span }
  if n < UInt32.size then return .ok n
  return .error { cause := .decimalInvalid, span }

/-- Reads a count in braces that opens at `start`, up to the closing brace. -/
def count (start : Nat) : Reader Count := do
  next
  if ← atEnd then fail (← since start) .repetitionCountUnclosed
  let lower ← decimal
  if ← atEnd then fail (← since start) .repetitionCountUnclosed
  if (← peek) = some ',' then
    next
    if ← atEnd then fail (← since start) .repetitionCountUnclosed
    if (← peek) = some '\x7d' then return ⟨← lower, none⟩
    let lower ← lower
    let upper ← decimal
    return ⟨lower, some (← upper)⟩
  let n ← lower
  return ⟨n, some n⟩

/-- Reads a repetition operator and applies it to the latest of the items; the operator comes
next.  Directives and empty items cannot be repeated. -/
def repetition (items : List Tree) : Reader (List Tree) := do
  let start ← pos
  match items with
  | [] | .empty _ :: _ | .flags _ _ :: _ => fail (← point) .repetitionMissing
  | sub :: before =>
    let simple (count : Count) : Reader Count := do
      bump
      return count
    let count ← match ← peek with
      | some '?' => simple ⟨0, some 1⟩
      | some '*' => simple ⟨0, none⟩
      | some '+' => simple ⟨1, none⟩
      | _ => do
        let range ← count start
        if (← peek) != some '\x7d' then fail (← since start) .repetitionCountUnclosed
        next
        pure range
    let lazy := (← peek) = some '?'
    if lazy then bump
    unless count.valid do fail (← since start) .repetitionCountInvalid
    return .repetition ⟨sub.span.start, ← pos⟩ count (!lazy) sub :: before

end FileSearch.Regex.Reader
