import Excerpt.Main.Reach
import Excerpt.Main.Terminal
import Excerpt.Program

/-!
# The command line program

Takes what a run reaches from the file system, runs, and puts down what has changed.
-/

namespace Excerpt

/-- Takes what stands at a place, if anything does. -/
def captureAt (disk : Disk) (place : Place) : IO Disk := do
  let name := Fault.pathText ⟨.slash, place⟩
  try
    let found ← IO.FS.realPath name
    if ← found.isDir then return disk.insert place .directory
    let content ← IO.FS.readBinFile found
    return disk.insert place (.file content.toList)
  catch _ => return disk

/-- Takes what stands at a path and at the places on the way there. -/
def capture (disk : Disk) (path : Path) : IO Disk := do
  let mut disk := disk
  for n in List.range (path.names.length + 1) do
    if let .ok place := disk.place ⟨path.root, path.names.take n⟩ then
      unless place.isEmpty || (disk.get? place).isSome do
        disk ← captureAt disk place
  return disk

def captureAll (disk : Disk) (paths : List Path) : IO Disk := paths.foldlM capture disk

/-- Puts down the files in which one disk differs from another. -/
def putDown (old new : Disk) : IO Unit := do
  for (place, entry) in new.entries do
    if let .file content := entry then
      unless old.get? place = some entry do
        IO.FS.writeBinFile (Fault.pathText ⟨.slash, place⟩) (ByteArray.mk content.toArray)

end Excerpt

open Excerpt in
def main (args : List String) : IO UInt32 := do
  let args := args.map String.toList
  let request := (CommandLine.read args).request
  let home := Path.ofText (← IO.currentDir).toString.toList
  let disk ← capture { entries := [], home := home.names } home
  let disk ← captureAll disk (Reach.ofRequest request)
  let disk ← captureAll disk (Reach.behind disk request)
  let outcome := Program.run CommandLine.reader Screen.terminal {} disk args
  putDown disk outcome.disk
  (← IO.getStdout).putStr (Fault.plain outcome.printout.out)
  (← IO.getStderr).putStr (Fault.plain outcome.printout.err)
  return outcome.exit.toUInt32
