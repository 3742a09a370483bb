import DependencyDiagram.Program
import Std.Time.Format

/-!
The program at the command line. It takes a picture of the part of the file system that its command
can touch, runs on the picture, and carries out what has changed in it.
-/

open DependencyDiagram

namespace DependencyDiagram.Shell

/-- The variables of the environment that count. -/
def environment : IO (List (String × String)) := do
  let names :=
    Program.logVariable :: CommandLine.Verb.generate.settings.map (·.environmentName)
  names.filterMapM fun name => do
    return (← IO.getEnv name).map (name, ·)

/-- The file that a command reads and the paths below which it reads or writes. -/
def namedPaths : Command → List String
  | .generate generation =>
    let output := Files.Path.join generation.output generation.fileStart
    sourcePath generation.source :: output :: generation.output :: generation.style.toList
  | .modules listing => [sourcePath listing.source]
where
  sourcePath : Source → String
    | .manifest path => path
    | .packages root _ => root

/-- Adds a file to a picture. Of a file that is not read only its being there matters. -/
def addFile (location : Files.Location) (isRead : Bool) (picture : Files.Entries) :
    IO Files.Entries := do
  if !isRead && (picture.entryAt? location).isSome then return picture
  let path := (← IO.currentDir) / Files.Path.ofLocation location
  let content ← if isRead then IO.FS.readBinFile path else pure ByteArray.empty
  return picture.putAt (.file content) location

/-- Adds a directory with nothing in it, if the picture does not have it. -/
def addDirectory (location : Files.Location) (picture : Files.Entries) : Files.Entries :=
  if (picture.entryAt? location).isSome then picture
  else picture.putAt (.directory .nil) location

/-- Adds all that is below a directory. Links are not followed. -/
partial def addBelow (location : Files.Location) (picture : Files.Entries) :
    IO Files.Entries := do
  let path := (← IO.currentDir) / Files.Path.ofLocation location
  let mut picture := picture
  for child in ← path.readDir do
    let inside := location ++ [child.fileName]
    match (← child.path.symlinkMetadata).type with
    | .dir => picture ← addBelow inside (addDirectory inside picture)
    | .file => picture ← addFile inside (child.fileName == Package.manifestName) picture
    | _ => pure ()
  return picture

/-- Adds everything on the way along the parts of a path, and what is at its end. -/
def addPath (start : Files.Location) (parts : List String) (picture : Files.Entries) :
    IO Files.Entries := do
  let mut picture := picture
  let mut here := start
  for part in parts do
    if part == ".." then here := here.dropLast
    else if !Files.Path.isIdle part then
      here := here ++ [part]
      let path := (← IO.currentDir) / Files.Path.ofLocation here
      if ← path.isDir then picture := addDirectory here picture
      else if ← path.pathExists then picture ← addFile here true picture
  return picture

def takePicture (home : Files.Location) (command : Command) : IO Files.System := do
  let mut picture ← addPath [] home .nil
  picture ← addBelow home picture
  for path in namedPaths command do
    let start := Files.System.origin home path
    picture ← addPath start (Files.Path.parts path) picture
    match (⟨picture, home⟩ : Files.System).locate path with
    | .ok location =>
      if (⟨picture, home⟩ : Files.System).isDirectoryAt location then
        picture ← addBelow location picture
    | .error _ => pure ()
  return ⟨picture, home⟩

/-- Creates the directories and writes the files that are new in a picture. -/
def carryOut (before after : Files.System) : IO Unit := do
  for location in Files.Entries.newDirectories before.tree after.tree do
    IO.FS.createDirAll (Files.Path.ofLocation location)
  for (location, content) in Files.Entries.changedFiles before.tree after.tree do
    IO.FS.writeBinFile (Files.Path.ofLocation location) content

def now : IO String := do
  let instant ← Std.Time.Timestamp.now
  let time := Std.Time.DateTime.ofTimestamp instant Std.Time.TimeZone.ZoneRules.UTC
  return time.format "uuuu-MM-dd'T'HH:mm:ss.SSSSSS'Z'"

def printNotice : Execution.Notice → IO Unit
  | .status status => IO.eprintln status.line
  | .event event => do IO.eprintln ((← now) ++ " " ++ event.line)

def printFailing : Program.Failing → IO Unit
  | .misuse misuse => IO.eprintln ("error: " ++ misuse.message)
  | .report report => do
    IO.eprintln ("Error: " ++ String.intercalate ": " report.chain)
    for help in report.help?.toList do
      IO.eprintln ("  help: " ++ help)

end DependencyDiagram.Shell

def main (arguments : List String) : IO UInt32 := do
  let environment ← Shell.environment
  let home := ((← IO.currentDir).components).filter (!Files.Path.isIdle ·)
  let here := Files.Path.ofLocation home
  let system ←
    match CommandLine.read environment here arguments with
    | .ok command => Shell.takePicture home command
    | .error _ => pure ⟨.nil, home⟩
  let outcome := Program.run environment system arguments
  Shell.carryOut system outcome.system
  IO.print outcome.stdout
  outcome.notices.forM Shell.printNotice
  outcome.failing.forM Shell.printFailing
  return outcome.exitCode.toUInt32
