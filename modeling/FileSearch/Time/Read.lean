import FileSearch.Text.Quoted
import FileSearch.Text.Utf8
import FileSearch.Time.Duration

/-!
# Reading durations

A duration is written as numbers with units, such as `1h 30m` or `0.5ms`.  `Duration.read` reads such
a text.  Numbers may have a fraction as long as it comes to whole units of the next smaller kind;
everything is counted in 64 bits.
-/

namespace FileSearch.Duration

/-- Why a text is no duration; places are counted in bytes. -/
inductive ReadError where
  | empty
  | numberExpected (place : Nat)
  | invalidCharacter (place : Nat)
  | unknownUnit (unit : String) (value : Nat)
  | overflow
  deriving DecidableEq, Repr

/-- The wording of a read error. -/
def ReadError.message : ReadError → String
  | .empty => "value was empty"
  | .numberExpected place => "expected number at " ++ toString place
  | .invalidCharacter place => "invalid character at " ++ toString place
  | .unknownUnit unit value =>
    if unit.isEmpty then
      "time unit needed, for example " ++ toString value ++ "sec or " ++ toString value ++ "ms"
    else
      "unknown time unit " ++ Text.quoted unit ++ ", supported units: ns, us/µs, ms, sec, min, " ++
        "hours, days, weeks, months, years (and few variations)"
  | .overflow =>
    "number is too large or cannot be represented without a lack of precision " ++
      "(values below 1ns are not supported)"

/-- The units of time. -/
inductive Unit where
  | nanosecond | microsecond | millisecond | second | minute | hour | day | week | month | year
  deriving DecidableEq, Repr

namespace Unit

/-- The names of the units. -/
def names : List (List String × Unit) := [
  (["nanos", "nsec", "ns"], .nanosecond),
  (["usec", "us", "µs"], .microsecond),
  (["millis", "msec", "ms"], .millisecond),
  (["seconds", "second", "secs", "sec", "s"], .second),
  (["minutes", "minute", "min", "mins", "m"], .minute),
  (["hours", "hour", "hrs", "hr", "h"], .hour),
  (["days", "day", "d"], .day),
  (["weeks", "week", "wks", "wk", "w"], .week),
  (["months", "month", "M"], .month),
  (["years", "year", "yrs", "yr", "y"], .year)]

/-- The unit of a name. -/
def ofName? (name : String) : Option Unit := (names.find? (·.1.contains name)).map (·.2)

/-- The seconds of a unit, `0` for those below one second. -/
def seconds : Unit → Nat
  | .nanosecond | .microsecond | .millisecond => 0
  | .second => 1
  | .minute => 60
  | .hour => 3600
  | .day => secondsPerDay
  | .week => 7 * secondsPerDay
  | .month => secondsPerMonth
  | .year => secondsPerYear

/-- The nanoseconds of a unit up to a second, `0` for greater ones. -/
def nanos : Unit → Nat
  | .nanosecond => 1
  | .microsecond => 1000
  | .millisecond => 1000000
  | _ => 0

/-- The nanoseconds of a unit whose fractions are counted in nanoseconds, `0` for greater ones. -/
def fractionNanos : Unit → Nat
  | .nanosecond => 1
  | .microsecond => 1000
  | .millisecond => 1000000
  | .second => 1000000000
  | .minute => 60000000000
  | _ => 0

end Unit

/-- A number if it has at most 64 bits. -/
def checked (n : Nat) : Except ReadError Nat := if n < UInt64.size then .ok n else .error .overflow

/-- The fraction `num / den`. -/
structure Fraction where
  num : Nat
  den : Nat
  deriving DecidableEq, Repr

/-- Adds seconds and nanoseconds to a duration. -/
def plus (d : Duration) (secs nanos : Nat) : Except ReadError Duration := do
  let nanos ← checked (d.nanos + nanos)
  match ofParts? (d.seconds.toNat + secs) nanos with
  | some d => .ok d
  | none => .error .overflow

/-- `n / den` units of `size` each, if that is a whole number. -/
def part (n size den : Nat) : Except ReadError Nat := do
  let n ← checked (n * size)
  if n % den = 0 then .ok (n / den) else .error .overflow

/-- Adds a number of units to a duration. -/
def plusUnits (d : Duration) (n : Nat) (fraction : Option Fraction) (unit : Unit) :
    Except ReadError Duration := do
  let d ← d.plus (← checked (n * unit.seconds)) (← checked (n * unit.nanos))
  match fraction with
  | none => return d
  | some f =>
    if unit = .nanosecond then throw .overflow
    else if unit.fractionNanos = 0 then d.plus (← part f.num unit.seconds f.den) 0
    else d.plus 0 (← part f.num unit.fractionNanos f.den)

/-! ## The text -/

/-- A text that has been read up to a place. -/
structure Rest where
  chars : List Char
  place : Nat

/-- Whether a character can stand in the name of a unit. -/
def isUnitChar (c : Char) : Bool := c.isAlpha || c == 'µ'

/-- The rest after its first character. -/
def after (c : Char) (chars : List Char) (place : Nat) : Rest := ⟨chars, place + Utf8.encodedLength c.toNat⟩

/-- The value of a decimal digit. -/
def digitValue (c : Char) : Nat := c.toNat - '0'.toNat

/-- Looks for the first digit of a number; `start` is where the search began. -/
def firstDigit (start : Nat) : List Char → Nat → Except ReadError (Option (Nat × Rest))
  | [], _ => .ok none
  | c :: cs, place =>
    let rest := after c cs place
    if c.isDigit then .ok (some (digitValue c, rest))
    else if Unicode.isBlank c then firstDigit start cs rest.place
    else .error (.numberExpected start)

/-- Reads digits after a point; `reported` is the place to name in an error. -/
def fractionDigits (f : Fraction) : List Char → Nat → Nat → Except ReadError (Fraction × Rest)
  | [], place, reported =>
    if f.den = 1 then .error (.invalidCharacter reported) else .ok (f, ⟨[], place⟩)
  | c :: cs, place, reported =>
    let rest := after c cs place
    if c.isDigit then do
      let den ← checked (f.den * 10)
      let num ← checked (f.num * 10 + digitValue c)
      fractionDigits ⟨num, den⟩ cs rest.place rest.place
    else if Unicode.isBlank c then fractionDigits f cs rest.place rest.place
    else if isUnitChar c then
      if f.den = 1 then .error (.invalidCharacter reported) else .ok (f, ⟨c :: cs, place⟩)
    else .error (.invalidCharacter reported)

/-- Reads the digits of a number and perhaps a fraction, up to the name of a unit. -/
def number (n : Nat) : List Char → Nat → Except ReadError (Nat × Option Fraction × Rest)
  | [], place => .ok (n, none, ⟨[], place⟩)
  | c :: cs, place =>
    let rest := after c cs place
    if c.isDigit then do
      let n ← checked (n * 10)
      let n ← checked (n + digitValue c)
      number n cs rest.place
    else if Unicode.isBlank c then number n cs rest.place
    else if isUnitChar c then .ok (n, none, ⟨c :: cs, place⟩)
    else if c = '.' then do
      let (f, rest) ← fractionDigits ⟨0, 1⟩ cs rest.place place
      .ok (n, some f, rest)
    else .error (.invalidCharacter place)

/-- Reads the name of a unit, up to a blank or a digit. -/
def unitName (name : List Char) : List Char → Nat → Except ReadError (String × Rest)
  | [], place => .ok (String.ofList name.reverse, ⟨[], place⟩)
  | c :: cs, place =>
    if isUnitChar c then unitName (c :: name) cs (after c cs place).place
    else if c.isDigit || Unicode.isBlank c then .ok (String.ofList name.reverse, ⟨c :: cs, place⟩)
    else .error (.invalidCharacter place)

/-- Reads numbers with units, the first of which begins with the digit `n`, and adds them to a
duration; `fuel` bounds their number. -/
def readItems : Nat → Duration → Nat → Rest → Except ReadError Duration
  | 0, d, _, _ => .ok d
  | fuel + 1, d, n, rest => do
    let (n, fraction, rest) ← number n rest.chars rest.place
    let (name, rest) ← unitName [] rest.chars rest.place
    match Unit.ofName? name with
    | none => throw (.unknownUnit name n)
    | some unit =>
      let d ← d.plusUnits n fraction unit
      let (chars, place) := match rest.chars with
        | c :: cs => if c.isDigit then (c :: cs, rest.place) else (cs, (after c cs rest.place).place)
        | [] => ([], rest.place)
      match ← firstDigit place chars place with
      | none => return d
      | some (n, rest) => readItems fuel d n rest

/-- Reads a duration.  A lone zero needs no unit. -/
def read (s : String) : Except ReadError Duration := do
  if s = "0" then return zero
  match ← firstDigit 0 s.toList 0 with
  | none => throw .empty
  | some (n, rest) => readItems (s.length + 1) zero n rest

end FileSearch.Duration
