import NotebookSlice.Command.Run

/-!
# The program

The commands on the files of the computer, with identities made of random bytes.
-/

namespace NotebookSlice.Command

/-- What an action gives, if it succeeds. -/
def attempt? {α : Type} (action : IO α) : IO (Option α) := do
  try return some (← action) catch _ => return none

/-- The files of the computer. -/
def computerFiles : Files IO where
  currentDirectory := return (← IO.currentDir).toString
  resolve? path := attempt? do return (← IO.FS.realPath path).toString
  doesExist path := return (← attempt? (IO.FS.realPath path)).isSome
  read? path := attempt? (IO.FS.readFile path)
  write path text := return (← attempt? (IO.FS.writeFile path text)).isSome
  makeDirectories path := return (← attempt? (IO.FS.createDirAll path)).isSome

/-- Two hexadecimal digits for each byte. -/
def hexText (bytes : List UInt8) : String :=
  String.ofList (bytes.flatMap fun byte =>
    [Nat.digitChar (byte.toNat / 16), Nat.digitChar (byte.toNat % 16)])

/-- Sixteen bytes as a random identity of version four, where six bits are fixed. -/
def identityText (bytes : List UInt8) : String :=
  let fixed := (bytes.modify 6 fun byte => byte % 16 + 64).modify 8 fun byte => byte % 64 + 128
  "-".intercalate
    [hexText (fixed.take 4), hexText ((fixed.drop 4).take 2), hexText ((fixed.drop 6).take 2),
    hexText ((fixed.drop 8).take 2), hexText (fixed.drop 10)]

/-- The host of commands on the computer. -/
def computer : Host IO where
  files := computerFiles
  fresh := return ⟨identityText (← IO.getRandomBytes 16).toList⟩

end NotebookSlice.Command

/-- Runs the command that the arguments name; failures go to the standard error stream. -/
def main (arguments : List String) : IO UInt32 := do
  let output ← NotebookSlice.Command.run NotebookSlice.Command.computer arguments
  IO.print output.text
  if let some error := output.error then
    IO.eprint (if output.code = 1 then "Error: " ++ error ++ "\n" else error)
  return output.code
