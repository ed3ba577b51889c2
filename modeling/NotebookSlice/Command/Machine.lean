import NotebookSlice.Command.Run
import NotebookSlice.Disk

/-!
# Machines

A machine runs commands without the world outside: its files are on a disk, and it numbers the
identities that it gives out.
-/

namespace NotebookSlice.Command

/-- A disk, and the number of identities given out. -/
structure Machine where
  disk : Disk
  drawn : Nat := 0
deriving Inhabited

namespace Machine

/-- Does something with the disk. -/
def onDisk {α : Type} (action : StateM Disk α) : StateM Machine α := fun machine =>
  let (result, disk) := action.run machine.disk
  (result, { machine with disk })

/-- The host of commands on a machine, where identity number `n` is `name n`. -/
def host (name : Nat → EventId) : Host (StateM Machine) where
  files :=
    { currentDirectory := onDisk Disk.files.currentDirectory
      resolve? := fun path => onDisk (Disk.files.resolve? path)
      doesExist := fun path => onDisk (Disk.files.doesExist path)
      read? := fun path => onDisk (Disk.files.read? path)
      write := fun path text => onDisk (Disk.files.write path text)
      makeDirectories := fun path => onDisk (Disk.files.makeDirectories path) }
  fresh := fun machine => (name machine.drawn, { machine with drawn := machine.drawn + 1 })

end Machine

end NotebookSlice.Command
