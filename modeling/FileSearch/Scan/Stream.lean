import FileSearch.Files.IoError
import FileSearch.Scan.Finder

/-!
# Scanning a stream

A stream is what its successive reads give.  `Finder.scanStream` reports the matches of a stream
while it keeps only a window of it: the bytes not yet decided on, and a few before them.
`ReadEvent.content` is what a stream holds, and `Window.Reached` tells which windows a scan comes to.

A match is reported from a window only if it begins at least `overlap` bytes before the window's
end; a later one waits for the next window, which carries the last `overlap` bytes over.  So a match
of at most `overlap` bytes is seen whole; a longer one that reaches the end of a window is reported
as that window shows it.
-/

namespace FileSearch

/-- What a read of a stream gives: bytes (none at the end of the stream), a request to read again,
or a failure. -/
inductive ReadEvent where
  | bytes (b : ByteArray)
  | interrupted
  | failed (err : IoError)

/-- What a stream holds: the bytes of its reads up to the first one that gives none or fails. -/
def ReadEvent.content : List ReadEvent → ByteArray
  | [] | .failed _ :: _ => .empty
  | .interrupted :: rest => content rest
  | .bytes b :: rest => if b.isEmpty then .empty else b ++ content rest

/-- Whether the reads of a stream come to its end without a failure. -/
def ReadEvent.neverFails : List ReadEvent → Bool
  | [] => true
  | .failed _ :: _ => false
  | .interrupted :: rest => neverFails rest
  | .bytes b :: rest => b.isEmpty || neverFails rest

/-- How a reader cuts content into reads: each read gives at most as many bytes as the next number
of `chunks`, which are used in turn; with `interrupts`, every other read, the first one included, is
interrupted; once `failAt` bytes have been given, reads fail. -/
structure Schedule where
  chunks : List Nat
  interrupts : Bool := false
  failAt : Option Nat := none

/-- The reads of a content with a buffer of the given size. -/
def Schedule.events (s : Schedule) (buffer : Nat) (content : ByteArray) : List ReadEvent :=
  (go (content.size + 1) 0 s.chunks #[]).toList
where
  /-- Adds the reads from the place `served` on; `cycle` are the chunks still to be used in this
  turn. -/
  go : Nat → Nat → List Nat → Array ReadEvent → Array ReadEvent
    | 0, _, _, events => events
    | fuel + 1, served, cycle, events =>
      let events := if s.interrupts then events.push .interrupted else events
      if s.failAt.any (· ≤ served) then events.push (.failed (.custom "scripted failure"))
      else
        let (most, cycle) := match cycle, s.chunks with
          | n :: rest, _ => (min n buffer, rest)
          | [], n :: rest => (min n buffer, rest)
          | [], [] => (buffer, [])
        let n := min most (content.size - served)
        let events := events.push (.bytes (content.extract served (served + n)))
        if n = 0 then events else go fuel (served + n) cycle events

/-- What a scan of a stream reports. -/
structure StreamScan where
  found : Array Match
  truncated : Bool
  bytesRead : Nat

/-- The number of bytes kept before the place where a window is searched, so that conditions there
see the character before it. -/
def lookBehind : Nat := 4

/-- The state of a scan between two reads: the window and its place in the stream, the place before
which no further match begins, the end of the latest match, and what has been found and read. -/
structure Window where
  bytes : ByteArray := .empty
  offset : Nat := 0
  nextStart : Nat := 0
  lastEnd : Option Nat := none
  found : Array Match := #[]
  bytesRead : Nat := 0

namespace Window

/-- The window after a read. -/
def extend (w : Window) (b : ByteArray) : Window :=
  { w with bytes := w.bytes ++ b, bytesRead := w.bytesRead + b.size }

/-- The window after a match of it has been reported. -/
def report (w : Window) (s : Span) : Window :=
  { w with
    found := w.found.push (.ofSpan w.bytes w.offset s)
    nextStart := w.offset + (Resume.after s).pos
    lastEnd := some (w.offset + s.stop) }

/-- Where the walk through the window begins. -/
def resume (w : Window) : Resume :=
  ⟨w.nextStart - w.offset, (w.lastEnd.filter (w.offset ≤ ·)).map (· - w.offset)⟩

/-- Reports the matches of the window that begin before `boundary`, at most `fuel` of them.  The
walk ends with `true` at a match beyond the limit. -/
def reportAll (w : Window) (f : Finder) (boundary : Nat) (limit : Option Nat) :
    Nat → Resume → Window × Bool
  | 0, _ => (w, false)
  | fuel + 1, r =>
    match f.next w.bytes r with
    | none => (w, false)
    | some s =>
      if boundary ≤ s.start then (w, false)
      else if limit.any (· ≤ w.found.size) then (w, true)
      else (w.report s).reportAll f boundary limit fuel (.after s)

/-- Reports the matches of the window that begin before `boundary`. -/
def search (w : Window) (f : Finder) (boundary : Nat) (limit : Option Nat) : Window × Bool :=
  w.reportAll f boundary limit (w.bytes.size + 1) w.resume

/-- The place in the window before which matches are decided. -/
def boundary (w : Window) (overlap : Nat) : Nat := w.bytes.size - overlap

/-- Drops the bytes that no later window needs. -/
def slide (w : Window) (boundary : Nat) : Window :=
  let drained := boundary - lookBehind
  { w with
    bytes := w.bytes.extract drained w.bytes.size
    offset := w.offset + drained
    nextStart := max w.nextStart (w.offset + boundary) }

/-- What has been found. -/
def result (w : Window) (truncated : Bool) : StreamScan := ⟨w.found, truncated, w.bytesRead⟩

/-- Reports what is left at the end of the stream. -/
def finish (w : Window) (f : Finder) (limit : Option Nat) : StreamScan :=
  let (w, truncated) := w.search f (w.bytes.size + 1) limit
  w.result truncated

/-- What comes of a read: a window with which the scan goes on, or its end. -/
inductive Progress where
  | window (w : Window)
  | ended (outcome : Except IoError StreamScan)

/-- What comes of a read of a stream. -/
def step (f : Finder) (overlap : Nat) (limit : Option Nat) (w : Window) : ReadEvent → Progress
  | .interrupted => .window w
  | .failed err => .ended (.error err)
  | .bytes b =>
    if b.isEmpty then .ended (.ok (w.finish f limit))
    else
      let w := w.extend b
      let boundary := w.boundary overlap
      let (w, truncated) := w.search f boundary limit
      if truncated then .ended (.ok (w.result true)) else .window (w.slide boundary)

/-- Scans the rest of a stream. -/
def run (f : Finder) (overlap : Nat) (limit : Option Nat) :
    Window → List ReadEvent → Except IoError StreamScan
  | w, [] => .ok (w.finish f limit)
  | w, event :: rest =>
    match w.step f overlap limit event with
    | .window w => run f overlap limit w rest
    | .ended outcome => outcome

/-- The windows that a scan comes to, each with the reads before it. -/
inductive Reached (f : Finder) (overlap : Nat) (limit : Option Nat) : List ReadEvent → Window → Prop
    where
  | first : Reached f overlap limit [] {}
  | next {events : List ReadEvent} {event : ReadEvent} {w w' : Window} :
    Reached f overlap limit events w → w.step f overlap limit event = .window w' →
      Reached f overlap limit (events ++ [event]) w'

end Window

/-- The number of bytes a window carries over: the greatest length of a match if it is known, else
the given overlap, and at least one. -/
def Finder.overlap (f : Finder) (overlap : Nat) : Nat := max (f.maxLength.getD overlap) 1

/-- Scans a stream.  The overlap may be any number here; whether there can be a window that has room
for it and for a read is told by `Demand.windowSize`. -/
def Finder.scanStream (f : Finder) (overlap : Nat) (limit : Option Nat)
    (events : List ReadEvent) : Except IoError StreamScan :=
  Window.run f (f.overlap overlap) limit {} events

end FileSearch
