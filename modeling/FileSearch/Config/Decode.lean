import FileSearch.Config.Basic
import FileSearch.Time.Read

/-!
# Configurations from structured values

A `Decoder` tells how values of some kind are read as settings.  `Decoder.fromMembers` reads named
settings, in the order in which they come; names that mean nothing are passed over, and what is not
named keeps its default.  `Decoder.fromItems` reads settings by their place.
-/

namespace FileSearch.Config

/-- How values are read: each function reads a value of one type or reports an error. -/
structure Decoder (ν ε : Type) where
  count : ν → Except ε UInt64
  flag : ν → Except ε Bool
  text : ν → Except ε String
  texts : ν → Except ε (List String)
  behavior : ν → Except ε WorkersBehavior
  /-- Whether a value stands for none. -/
  isNull : ν → Bool
  /-- The error for a text that is no duration. -/
  badDuration : Duration.ReadError → ε

namespace Decoder

variable {ν ε : Type} (d : Decoder ν ε)

/-- Reads a value unless it stands for none. -/
def optional {α : Type} (read : ν → Except ε α) (v : ν) : Except ε (Option α) :=
  if d.isNull v then .ok none else (read v).map some

/-- Reads a duration. -/
def duration (v : ν) : Except ε Duration := do
  match Duration.read (← d.text v) with
  | .ok t => return t
  | .error e => throw (d.badDuration e)

/-- The settings in their order: the name of each and how it is read. -/
def settings : List (String × (ν → Except ε Setting)) := [
  ("num_workers", fun v => (d.count v).map .numWorkers),
  ("search_binary_files", fun v => (d.flag v).map .searchBinaryFiles),
  ("ignore_patterns", fun v => (d.texts v).map .ignorePatterns),
  ("case_sensitive", fun v => (d.flag v).map .caseSensitive),
  ("smart_case", fun v => (d.flag v).map .smartCase),
  ("literal", fun v => (d.flag v).map .literal),
  ("recurse_dirs", fun v => (d.flag v).map .recurseDirs),
  ("follow_symlinks", fun v => (d.flag v).map .followSymlinks),
  ("skip_hidden", fun v => (d.flag v).map .skipHidden),
  ("respect_ignore_files", fun v => (d.flag v).map .respectIgnoreFiles),
  ("deterministic", fun v => (d.flag v).map .deterministic),
  ("max_matches_per_file", fun v => (d.optional d.count v).map .maxMatchesPerFile),
  ("timeout", fun v => (d.optional d.duration v).map .timeout),
  ("workers_behavior", fun v => (d.behavior v).map .workersBehavior),
  ("chunk_overlap", fun v => (d.count v).map .chunkOverlap),
  ("log_level", fun v => (d.text v).map .logLevel)]

/-- Reads a named setting; there is none of an unknown name. -/
def setting? (name : String) (v : ν) : Except ε (Option Setting) :=
  match d.settings.find? (·.1 = name) with
  | some (_, read) => (read v).map some
  | none => .ok none

/-- Adds named settings to a configuration. -/
def addMembers (c : Config) : List (String × ν) → Except ε Config
  | [] => .ok c
  | (name, v) :: rest => do
    match ← d.setting? name v with
    | some s => addMembers (c.set s) rest
    | none => addMembers c rest

/-- Reads named settings. -/
def fromMembers (members : List (String × ν)) : Except ε Config := d.addMembers .default members

/-- Adds settings given by their place to a configuration. -/
def addItems (c : Config) : List (String × (ν → Except ε Setting)) → List ν → Except ε Config
  | (_, read) :: settings, v :: rest => do
    let s ← read v
    addItems (c.set s) settings rest
  | _, _ => .ok c

/-- Reads settings given by their place. -/
def fromItems (items : List ν) : Except ε Config := addItems .default d.settings items

end Decoder

end FileSearch.Config
