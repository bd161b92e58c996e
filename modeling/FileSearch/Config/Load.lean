import FileSearch.Config.Coerce
import FileSearch.Config.KeyPath
import FileSearch.Config.Layer
import FileSearch.Error
import FileSearch.Files.FileSystem

/-!
# Loading configurations

`Config.load` lays the files of a configuration over one another: that of the user, that of the
current directory and one that is named.  The first two may be missing.
-/

namespace FileSearch.Config

/-! ## Finding files -/

/-- Finds the file of a name, whose format its ending tells.  If there is no file of exactly that
name, the endings of all formats are tried. -/
def findFile (formats : Formats) (fs : FileSystem) (name : Path) :
    Except LoadError (Path × Format) :=
  let path := fs.cwdPath.join name
  if fs.isFile path then
    match Format.ofEnding? (((path.names.getLast?).bind Path.extension?).getD []) with
    | some f => .ok (path, f)
    | none => .error (.message ("configuration file \"" ++ path.display ++
        "\" is not of a registered file format"))
  else
    let candidates := formats.endings.filterMap fun e =>
      (path.withEnding? ("." ++ e.1)).map fun p => (p, e.2)
    match candidates.find? fun c => fs.isFile c.1 with
    | some found => .ok found
    | none => .error (.message ("configuration file \"" ++ name.display ++ "\" not found"))

/-- Reads the layer of a named file. -/
def readLayer (formats : Formats) (fs : FileSystem) (name : Path) : Except LoadError Table := do
  let (path, format) ← findFile formats fs name
  match fs.read path with
  | .ok content => formats.layer format (path.relativeTo fs.cwd).display content
  | .error e => throw (.message e.message)

/-! ## Loading -/

/-- The name of the user's configuration file in the user's directory of configurations. -/
def userFile : Path := Path.ofString "agsearch/config.yaml"

/-- The name of the configuration file of a directory. -/
def localFile : Path := Path.ofString ".agsearch.yaml"

/-- The names of the configuration files, those that may be missing only if they are there. -/
def sources (fs : FileSystem) (configDir explicit : Option Path) : List Path :=
  ((configDir.map (·.join userFile)).toList ++ [localFile]).filter fs.holds ++ explicit.toList

/-- Lays the layers of named files over a table. -/
def overlayFiles (formats : Formats) (fs : FileSystem) :
    List Path → Value → Except LoadError Value
  | [], t => .ok t
  | name :: rest, t => do
    let layer ← readLayer formats fs name
    overlayFiles formats fs rest (t.overlay layer)

/-- Loads a configuration.  `configDir` is the user's directory of configurations, and the file
`explicit` must be there if it is named. -/
def load (formats : Formats) (fs : FileSystem) (configDir explicit : Option Path) :
    Except SearchError Config := do
  let files := sources fs configDir explicit
  let read : Except LoadError Config := do
    ofTable (← overlayFiles formats fs files (.table none [])).members
  let c ← read.mapError .configLoad
  c.validate
  return c

end FileSearch.Config
