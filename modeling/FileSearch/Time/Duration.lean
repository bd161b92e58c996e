/-!
# Durations

A `Duration` is a number of whole seconds of 64 bits and a number of nanoseconds below one second.
`Duration.text` writes it in years, months, days and smaller units.
-/

namespace FileSearch

/-- A span of time. -/
structure Duration where
  seconds : UInt64
  nanos : Nat
  nanos_lt : nanos < 1000000000
  deriving DecidableEq

namespace Duration

/-- No time. -/
def zero : Duration := ⟨0, 0, by decide⟩

instance : Inhabited Duration := ⟨zero⟩

/-- A number of seconds and nanoseconds, if the seconds have at most 64 bits. -/
def ofParts? (seconds nanos : Nat) : Option Duration :=
  if seconds + nanos / 1000000000 < UInt64.size then
    some ⟨(seconds + nanos / 1000000000).toUInt64, nanos % 1000000000, Nat.mod_lt _ (by decide)⟩
  else none

/-- The number of nanoseconds. -/
def totalNanos (d : Duration) : Nat := d.seconds.toNat * 1000000000 + d.nanos

/-- The seconds of a day. -/
def secondsPerDay : Nat := 86400

/-- The seconds of a month of 30.44 days. -/
def secondsPerMonth : Nat := 2630016

/-- The seconds of a year of 365.25 days. -/
def secondsPerYear : Nat := 31557600

/-- The text of a number of units, nothing if there are none. -/
def item (n : Nat) (unit : String) : List String := if n = 0 then [] else [toString n ++ unit]

/-- The text of a number of units whose name has a plural. -/
def itemPlural (n : Nat) (unit : String) : List String :=
  item n (if n = 1 then unit else unit ++ "s")

/-- The parts of the text of a duration. -/
def items (d : Duration) : List String :=
  let secs := d.seconds.toNat
  let years := secs / secondsPerYear
  let months := secs % secondsPerYear / secondsPerMonth
  let rest := secs % secondsPerYear % secondsPerMonth
  itemPlural years "year" ++ itemPlural months "month" ++ itemPlural (rest / secondsPerDay) "day" ++
    item (rest % secondsPerDay / 3600) "h" ++ item (rest % 3600 / 60) "m" ++ item (rest % 60) "s" ++
    item (d.nanos / 1000000) "ms" ++ item (d.nanos / 1000 % 1000) "us" ++ item (d.nanos % 1000) "ns"

/-- The text of a duration. -/
def text (d : Duration) : String :=
  if d.seconds = 0 ∧ d.nanos = 0 then "0s" else " ".intercalate d.items

end Duration

end FileSearch
