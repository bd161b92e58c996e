import FileSearch.Content.Binary
import FileSearch.Files.FileSystem
import FileSearch.Pattern
import FileSearch.Result.FileResult
import FileSearch.Result.Stats
import FileSearch.Scan.Stream

/-!
# Examining a file

An `Examiner` looks at one file: it tells whether the content is binary, leaves binary files out
unless they are to be searched, and searches the others.  A small file is read whole, a very large one
as a stream, and what is between is mapped into memory, which shows the same bytes as reading it
whole.
-/

namespace FileSearch

/-- How the content of a file is taken in. -/
inductive ReadStrategy where
  | whole
  | mapped
  | chunked
  deriving DecidableEq, Repr

/-- How files are examined. -/
structure Examiner where
  finder : Finder
  searchBinaryFiles : Bool := false
  /-- The number of matches after which no more are reported. -/
  maxMatches : Option Nat := none
  /-- The number of bytes that the windows of a stream share. -/
  overlap : Nat := 4096
  /-- Smaller files are read whole. -/
  smallBelow : Nat := 32 * 1024
  /-- Files of this size and greater ones are read as streams. -/
  largeFrom : Nat := 10 * 1024 * 1024
  /-- The number of bytes that a read of a stream gives. -/
  chunkSize : Nat := 1024 * 1024

/-- What an examination of a file says. -/
inductive Examination where
  /-- The file is binary and is left out. -/
  | leftOut
  | searched (isBinary : Bool) (scan : StreamScan)

namespace Examiner

/-- Whether a file is searched. -/
def isEligible (searchBinaryFiles : Bool) (entry : FileEntry) : Bool :=
  !entry.isBinary || searchBinaryFiles

/-- Looks at the front of a content. -/
def classifyContent (path : Path) (content : ByteArray) : FileEntry :=
  ⟨path, Content.looksBinary (Content.sample content), content.size⟩

/-- Looks at the front of a file. -/
def classify (fs : FileSystem) (path : Path) : Except SearchError FileEntry :=
  match fs.read path with
  | .ok content => .ok (classifyContent path content)
  | .error err => .error (.ofIo path err)

/-- How a file of a size is taken in. -/
def strategy (x : Examiner) (size : Nat) : ReadStrategy :=
  if size < x.smallBelow then .whole else if x.largeFrom ≤ size then .chunked else .mapped

/-- Searches a content that is taken in one way or another. -/
def scan (x : Examiner) (content : ByteArray) : ReadStrategy → Except IoError StreamScan
  | .whole | .mapped =>
    let (found, truncated) := x.finder.scanLimited content x.maxMatches
    .ok ⟨found, truncated, content.size⟩
  | .chunked =>
    let reads := Schedule.events { chunks := [] } x.chunkSize content
    x.finder.scanStream x.overlap x.maxMatches reads

/-- Examines a content. -/
def examineContent (x : Examiner) (path : Path) (content : ByteArray) :
    Except SearchError Examination :=
  let entry := classifyContent path content
  if isEligible x.searchBinaryFiles entry then
    match x.scan content (x.strategy content.size) with
    | .ok scan => .ok (.searched entry.isBinary scan)
    | .error err => .error (.ofIo path err)
  else .ok .leftOut

/-- Examines a file. -/
def examine (x : Examiner) (fs : FileSystem) (path : Path) : Except SearchError Examination :=
  match fs.read path with
  | .ok content => x.examineContent path content
  | .error err => .error (.ofIo path err)

end Examiner

namespace Examination

/-- The counters after an examination. -/
def count (e : Examination) (s : Stats) : Stats :=
  match e with
  | .leftOut => s.addBinarySkipped
  | .searched _ scan => (s.addFile scan.bytesRead).addMatches scan.found.size

/-- The flags of a result. -/
def flags (isBinary truncated : Bool) : Flags :=
  let kind : Flags := if isBinary then .binaryFile else .textFile
  if truncated then kind.union .truncated else kind

/-- The result of an examination; there is none without a match. -/
def result? (e : Examination) (path : Path) : Option FileResult :=
  match e with
  | .leftOut => none
  | .searched isBinary scan =>
    if scan.found.isEmpty then none
    else some {
      file := ⟨path, isBinary, scan.bytesRead⟩
      found := scan.found.toList
      flags := flags isBinary scan.truncated }

end Examination

end FileSearch
