import NotebookSlice.Files
import NotebookSlice.Path

/-!
# Disks

A disk is a file system as a value: a tree of directories with files, given by the absolute paths
that exist. The root directory always exists. There are no links.
-/

namespace NotebookSlice

/-- What stands at a path. -/
inductive Inode where
  | directory
  /-- A file; its contents need not be text. -/
  | file (contents : ByteArray)
deriving Inhabited

/-- A file system. -/
structure Disk where
  /-- The current directory by its parts. -/
  here : List String := []
  nodes : List (List String × Inode) := []
deriving Inhabited

namespace Disk

/-- What stands at a place, if anything. -/
def node? (disk : Disk) (place : List String) : Option Inode :=
  if place.isEmpty then some .directory else disk.nodes.lookup place

/-- Whether a directory stands at a place. -/
def isDirectory (disk : Disk) (place : List String) : Bool :=
  match disk.node? place with
  | some .directory => true
  | _ => false

/-- Puts something at a place. -/
def put (disk : Disk) (place : List String) (inode : Inode) : Disk :=
  { disk with nodes := (place, inode) :: disk.nodes.filter fun (other, _) => other != place }

/-- Walks from a place over parts of a path; every place that is left has to be a directory. -/
def walk (disk : Disk) (place : List String) : List String → Option (List String)
  | [] => some place
  | part :: parts =>
    if !disk.isDirectory place then none
    else if part.isEmpty || part == "." then disk.walk place parts
    else if part == ".." then disk.walk place.dropLast parts
    else disk.walk (place ++ [part]) parts

/-- Where a path starts. -/
def start (disk : Disk) (path : String) : List String :=
  if Path.isAbsolute path then [] else disk.here

/-- The place that a path names, whether or not anything stands there. -/
def place? (disk : Disk) (path : String) : Option (List String) :=
  if path.isEmpty then none else disk.walk (disk.start path) (Path.parts path)

/-- The absolute path of a place. -/
def pathOf (place : List String) : String := "/" ++ "/".intercalate place

/-- What a path names, if it exists. -/
def find? (disk : Disk) (path : String) : Option (List String × Inode) :=
  (disk.place? path).bind fun place => (disk.node? place).map fun inode => (place, inode)

/-- The absolute path of what a path names. -/
def resolve? (disk : Disk) (path : String) : Option String :=
  (disk.find? path).map fun (place, _) => pathOf place

/-- The contents of a file, if they are text. -/
def read? (disk : Disk) (path : String) : Option String :=
  match disk.find? path with
  | some (_, .file contents) => String.fromUTF8? contents
  | _ => none

/-- Writes a file; its directory has to exist. -/
def write? (disk : Disk) (path : String) (contents : ByteArray) : Option Disk :=
  match disk.place? path with
  | some place =>
    if disk.isDirectory place || !disk.isDirectory place.dropLast then none
    else some (disk.put place (.file contents))
  | none => none

/-- Makes a directory; the directory above it has to exist. -/
def makeDirectory? (disk : Disk) (path : String) : Option Disk :=
  match disk.place? path with
  | some place =>
    match disk.node? place with
    | some .directory => some disk
    | some (.file _) => none
    | none => if disk.isDirectory place.dropLast then some (disk.put place .directory) else none
  | none => none

/-- Makes the directories that the beginnings of a path name, each longer than the one before. -/
def makeEach? (disk : Disk) (path : String) : List String → Option Disk
  | [] => some disk
  | part :: parts =>
    let longer := path ++ part
    if part.isEmpty then makeEach? disk (longer ++ "/") parts
    else (disk.makeDirectory? longer).bind fun disk => makeEach? disk (longer ++ "/") parts

/-- Makes a directory with all directories above it. -/
def makeDirectories? (disk : Disk) (path : String) : Option Disk :=
  disk.makeEach? "" (Path.parts path)

/-- Keeps the changed disk if there is one, and says so. -/
def keep (disk : Disk) : Option Disk → Bool × Disk
  | some changed => (true, changed)
  | none => (false, disk)

/-- Access to a disk as a file system. -/
def files : Files (StateM Disk) where
  currentDirectory disk := (pathOf disk.here, disk)
  resolve? path disk := (disk.resolve? path, disk)
  doesExist path disk := ((disk.find? path).isSome, disk)
  read? path disk := (disk.read? path, disk)
  write path contents disk := disk.keep (disk.write? path contents.toUTF8)
  makeDirectories path disk := disk.keep (disk.makeDirectories? path)

end Disk

end NotebookSlice
