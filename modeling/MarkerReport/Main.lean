import MarkerReport.Command.Run

/-! # The command line tool

The tool reads the working directory into a file tree, carries out the command on it, and writes
back what the command changed. Of what is outside the working directory the tree has the directories
above it and the null device.
-/

namespace MarkerReport.Tool

/-- The link that leads to a real path, if that is inside the directory at the top. -/
def linkTo? (top real : String) : Option Entry :=
  if real.startsWith (top ++ "/") then some (.link real) else none

/-- Reads a directory into a file tree. What cannot be read is left out. -/
partial def readInto (top directory : String) (tree : FileTree) (location : Location) :
    IO FileTree := do
  let mut tree := tree
  for entry in ← (← IO.FS.realPath directory).readDir do
    let place := location ++ [entry.fileName]
    let path := entry.path.toString
    try
      match (← entry.path.symlinkMetadata).type with
      | .dir => tree ← readInto top path (tree.insert place .directory) place
      | .file => tree := tree.insert place (.file (← IO.FS.readBinFile path).toList)
      | .symlink =>
          if let some link := linkTo? top (← IO.FS.realPath path).toString then
            tree := tree.insert place link
      | .other => pure ()
    catch _ => pure ()
  return tree

/-- The tree with an empty working directory at a location. -/
def treeAt (home : Location) : FileTree :=
  let above := (List.range home.length).map fun count => home.take (count + 1)
  let tree := above.foldl (fun tree location => tree.insert location .directory) FileTree.empty
  { tree with home }

/-- The text of an absolute path to a location. -/
def absolute (location : Location) : String := "/" ++ FileTree.textOf location

/-- Writes a file and makes the directories above it. -/
def writeBack (location : Location) (content : List UInt8) : IO Unit := do
  IO.FS.createDirAll (absolute location.dropLast)
  IO.FS.writeBinFile (absolute location) content.toByteArray

/-- Says why a command line starts no command. -/
def refuse (usage : Usage) : IO UInt32 := do
  match usage.versionText with
  | some text => IO.print text
  | none => IO.eprintln "Usage: todo-md [OPTIONS] <COMMAND>"
  return usage.exitCode.toUInt32

/-- Carries out a command in the working directory. -/
def carryOut (commandLine : CommandLine) : IO UInt32 := do
  let top := (← IO.FS.realPath ".").toString
  let home := (top.splitOn "/").filter (· ≠ "")
  let before ← readInto top top (treeAt home) home
  let run := commandLine.request.run before
  let fromTop : FileTree := { run.tree with home := [] }
  for (location, content) in fromTop.changedFrom before do
    writeBack location content
  match run.outcome with
  | .ok text => IO.print text
  | .error failure =>
      let words := failure.context ++ [failure.cause.message]
      IO.eprintln ("Error: " ++ String.intercalate ": " words)
  return run.exitCode.toUInt32

end MarkerReport.Tool

/-- Reads the command line and carries out its command. -/
def main (arguments : List String) : IO UInt32 :=
  match MarkerReport.CommandLine.read arguments with
  | .error usage => MarkerReport.Tool.refuse usage
  | .ok commandLine => MarkerReport.Tool.carryOut commandLine
