import FileSearch.Config.Basic

/-!
# Options of a walk
-/

namespace FileSearch

/-- How directories are walked. -/
structure Walk.Options where
  /-- Whether directories below the root are entered. -/
  recurse : Bool := true
  /-- Whether symbolic links are followed. -/
  followLinks : Bool := false
  /-- Whether hidden files are left out. -/
  skipHidden : Bool := true
  /-- Whether ignore files are heeded. -/
  heedIgnoreFiles : Bool := true
  deriving DecidableEq, Repr, Inhabited

/-- The options of a configuration. -/
def Config.walkOptions (c : Config) : Walk.Options :=
  { recurse := c.recurseDirs
    followLinks := c.followSymlinks
    skipHidden := c.skipHidden
    heedIgnoreFiles := c.respectIgnoreFiles }

end FileSearch
