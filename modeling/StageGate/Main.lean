import StageGate.CommandLine.Run
import StageGate.Report.Lines

/-! The program: it gathers the files that a command needs, runs the command, and prints what it shows. -/

open System

namespace StageGate.Program
open CommandLine

def usage : String :=
  "usage: kubestage [-h] [--version] [-v] [plan | reconcile] ...\n\n" ++
  "  plan       show the stages and their control order\n" ++
  "             [--config FILE] [--assets-dir DIR] [--stage NAME]...\n" ++
  "  reconcile  reconcile one managed instance, NAMESPACE/NAME\n" ++
  "             [--config FILE] [--assets-dir DIR] [--stage NAME]...\n" ++
  "             --cluster FILE [--kind KIND] [--timeout SECONDS]\n"

/-- The file at a path, denied if it cannot be read. -/
def readFile (path : FilePath) : IO Files.Entry := do
  try
    return .file (← IO.FS.readBinFile path).toList false
  catch _ =>
    return .file [] true

/-- A link, noted and not followed; one whose target has too long a name keeps such a target. -/
def readLink (path : FilePath) : IO Files.Entry := do
  try
    let _ ← path.metadata
    return .link path.toString
  catch
    | .invalidArgument _ _ "name too long" => return .link ("".pushn 'a' (Files.Tree.nameLimit + 1))
    | _ => return .link path.toString

/-- What stands at a path. -/
partial def readEntry (path : FilePath) : IO Files.Entry := do
  match (← path.symlinkMetadata).type with
  | .file => readFile path
  | .symlink => readLink path
  | .other => return .special
  | .dir =>
    try
      let found ← (← path.readDir).toList.mapM fun e => return (e.fileName, ← readEntry e.path)
      return .directory found .full
    catch _ =>
      return .directory [] ⟨false, true⟩

/-- Takes what a path leads to into the tree; a path that leads nowhere adds nothing. -/
def gather (tree : Files.Tree) (path : String) : IO Files.Tree := do
  if path == "" then return tree
  try
    return tree.write path (← readEntry (← IO.FS.realPath path))
  catch _ =>
    return tree

/-- The files that the options are about. -/
def gatherFor (tree : Files.Tree) (o : Options) : IO Files.Tree := do
  let tree ← gather tree (o.config.getD "")
  let tree ← gather tree (o.cluster.getD "")
  match configFor tree o with
  | .ok c => (c.stageDirs.map Prod.snd).foldlM gather tree
  | .error _ => return tree

def printLines (lines : List String) : IO Unit := do
  for line in lines do
    IO.println line

end StageGate.Program

open StageGate StageGate.Program in
def main (arguments : List String) : IO UInt32 := do
  let here := (Files.Path.ofText (← IO.currentDir).toString).parts
  let tree ← match CommandLine.Options.read arguments with
    | .ok o => gatherFor (.empty here) o
    | .error _ => pure (.empty here)
  let ended := CommandLine.run (mkRat (← IO.monoMsNow) 1000) tree false arguments
  match ended.notice with
  | .usage => IO.print usage
  | .version => IO.print CommandLine.versionText
  | .nothing => pure ()
  printLines (ended.events.map fun e => e.level.text ++ " " ++ e.logger ++ ": " ++ e.text)
  printLines (ended.printed.flatMap Printed.lines)
  match ended.status with
  | .ok status => return status.toUInt32
  | .error f =>
    IO.eprintln (f.title ++ ": " ++ f.message)
    return 1
