import FileSearch.Engine.Basic
import FileSearch.Number.Word

/-!
# What a search demands of machine words

A search computes a few quantities from the configuration, among them the time at which it has to end
and the sizes of what it sets aside.  A `Demand` holds these quantities, and `Demand.fits` says that
the machine words they are kept in hold them.  No clock shows a time that does not fit, so a request
that would have to be answered by such a time breaks off (`Engine.breaksOff`).
-/

namespace FileSearch

/-- A time on a clock: seconds, counted from some fixed time, and nanoseconds. -/
structure Instant where
  seconds : Int64
  nanos : Nat
  nanos_lt : nanos < 1000000000

/-- The seconds of the time that comes some time after another. -/
def Instant.secondsAfter (t : Instant) (d : Duration) : Int :=
  t.seconds.toInt + (d.seconds.toNat + (t.nanos + d.nanos) / 1000000000 : Nat)

/-- The quantities that a search computes from its configuration. -/
structure Demand where
  /-- The seconds of the time at which the search has to end. -/
  endSeconds : Option Int
  /-- The greatest length of the queue of files. -/
  queueLength : Nat
  /-- The number of bytes set aside for the window of a stream. -/
  windowSize : Nat
  /-- The number of matches of a file that are looked for: one more than are reported, as far as
  that is a number of 64 bits. -/
  lookedFor : Option Nat

/-- Whether machine words hold the quantities.  What is set aside has a size that 64 bits with a sign
hold. -/
def Demand.fits (d : Demand) : Bool :=
  d.endSeconds.all fitsSigned && d.queueLength < UInt64.size && fitsSigned d.windowSize &&
    d.lookedFor.all (· < UInt64.size)

/-- What a search that starts at some time demands. -/
def Config.demand (c : Config) (p : Pattern) (started : Instant) : Demand :=
  let examiner := Engine.examiner c p
  { endSeconds := c.timeout.map started.secondsAfter
    queueLength := c.numWorkers.toNat * Pool.queuePerWorker
    windowSize := examiner.chunkSize + examiner.finder.overlap examiner.overlap
    lookedFor := examiner.maxMatches.map fun limit => min (limit + 1) (UInt64.size - 1) }

/-- Whether a request that comes at some time is not answered but breaks the program off, because no
clock shows the time at which its search has to end.  A request that cannot be searched for or that
has no paths is answered before the time counts. -/
def Engine.breaksOff (host : Host) (e : Engine) (request : Request) (started : Instant) : Bool :=
  match ((Engine.prepare host request).on e).1 with
  | .ok (p, _) =>
    !request.paths.isEmpty && !(e.config.demand p started).endSeconds.all fitsSigned
  | .error _ => false

end FileSearch
