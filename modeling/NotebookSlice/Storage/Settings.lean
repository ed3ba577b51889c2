import NotebookSlice.Files
import NotebookSlice.Path
import NotebookSlice.Settings
import NotebookSlice.Storage.Failure

/-!
# Settings in files

The settings of a session are kept in a file in a directory of their own, below the root of the
session.
-/

namespace NotebookSlice

/-- The root of a session. -/
structure Root where
  path : String
deriving DecidableEq, Repr, Inhabited

namespace Root

/-- The directory for what is known about a session. -/
def directory (root : Root) : String := Path.join root.path ".gather"

/-- The file with the settings. -/
def settingsPath (root : Root) : String := Path.join root.directory "settings.json"

variable {m : Type → Type} [Monad m]

/-- The root that a path names: the current directory, or what exists at the path, or else the path
as it would be below the current directory. -/
def find (files : Files m) (path : String) : m Root := do
  if Path.isHere path then return ⟨← files.currentDirectory⟩
  match ← files.resolve? path with
  | some resolved => return ⟨resolved⟩
  | none => return ⟨Path.join (← files.currentDirectory) path⟩

end Root

namespace Settings

variable {m : Type → Type} [Monad m]

/-- Reads settings from a file. -/
def readFrom (files : Files m) (path : String) : ExceptT Failure m Settings := do
  match ← files.read? path with
  | none => throw (.settingsUnreadable path)
  | some text =>
    match Json.decode decode text with
    | .ok settings => return settings
    | .error _ => throw .settingsMalformed

/-- Reads the settings of a session; the defaults if there is no file with settings. -/
def load (files : Files m) (root : Root) : ExceptT Failure m Settings := do
  if ← files.doesExist root.settingsPath then readFrom files root.settingsPath else return {}

/-- Writes the settings of a session. -/
def save (files : Files m) (root : Root) (settings : Settings) : ExceptT Failure m Unit := do
  unless ← files.makeDirectories root.directory do throw (.directoryNotMade root.directory)
  unless ← files.write root.settingsPath settings.encode.pretty do
    throw (.settingsNotWritten root.settingsPath)

end Settings

end NotebookSlice
