import SelfBuild.CommandLine.Run

/-!
# The program

The outer layer of the command line.  It looks at the part of the file system that the command
names, lets the command run on that, and then brings the file system to the state that the run
leaves behind.  Nothing here connects to the drafting service, so every post fails.
-/

namespace SelfBuild

namespace CommandLine

def locationText (location : Location) : String :=
  "/" ++ "/".intercalate location

/-- The locations that lie on a path, the farthest one first. -/
def locationsOn (disk : Disk) (path : Path) : List Location :=
  let step (state : Location × List Location) (name : String) : Location × List Location :=
    let next := if name = Disk.up then state.1.dropLast else state.1 ++ [name]
    (next, next :: state.2)
  (path.names.foldl step (disk.start path, [])).2

def Command.paths (command : Command) (host : Host) : List Path :=
  match command with
  | .build request =>
      (request.request.toList ++ request.source.toList.filter (· ≠ "-")).map Path.ofString
  | .check artifact => [Path.ofString artifact]
  | .convert request =>
      let settings := Settings.file? request.settings host.environment
      (settings.map (Path.expandHome host.home)).toList.map Path.ofString ++
        request.out.toList.map Path.ofString

/-- The path to which a command delivers, and the one beside it. -/
def Command.deliveries (command : Command) (host : Host) : List Path :=
  match command with
  | .build request =>
      match request.toOrder host with
      | .ok asked =>
          let path :=
            Delivery.destination (Path.ofString request.out) asked.project request.fileName
          [path, Delivery.beside path]
      | .error _ => []
  | _ => []

/-- What stands at a location of the file system, as far as it can be seen. -/
def look (location : Location) : IO (Option Node) := do
  let path := (← IO.currentDir) / locationText location
  if ← path.isDir then return some .folder
  try return some (.file (← IO.FS.readBinFile path))
  catch _ => return none

def survey (disk : Disk) (paths : List Path) : IO Disk := do
  let mut seen := disk
  for location in (paths.flatMap (locationsOn disk)).eraseDups do
    if let some node ← look location then
      seen := seen.put location node
  return seen

/-- Give a file its content, by way of a file beside it where the name leaves room for one. -/
def store (location : Location) (content : ByteArray) : IO Unit := do
  let path := locationText location
  let name := location.getLast?.getD ""
  if name.utf8ByteSize + Delivery.besideEnding.utf8ByteSize ≤ Disk.nameLimit then
    IO.FS.writeBinFile (path ++ Delivery.besideEnding) content
    IO.FS.rename (path ++ Delivery.besideEnding) path
  else IO.FS.writeBinFile path content

/-- Bring the file system from the state of one disk to that of another. -/
def settle (before after : Disk) : IO Unit := do
  for (location, node) in before.entries do
    if (after.node? location).isNone && node != .folder then
      IO.FS.removeFile (locationText location)
  for (location, node) in after.entries.reverse do
    if before.node? location != some node then
      match node with
      | .folder => IO.FS.createDirAll (locationText location)
      | .file content => store location content

def foldersTo (location : Location) : List (Location × Node) :=
  ((List.range location.length).map fun n => (location.take (n + 1), Node.folder)).reverse

def currentHost : IO Host := do
  let folder := (Path.ofString (← IO.currentDir).toString).names
  let mut environment : Environment := []
  for name in Settings.variableNames do
    if let some value ← IO.getEnv name then
      environment := environment ++ [(name, value)]
  return {
    disk := { entries := foldersTo folder, workingFolder := folder }
    home := { own := ← IO.getEnv "HOME" }
    environment := environment
    reply := .failed "no connection to the service" }

def Command.readsInput : Command -> Bool
  | .build request => request.source = some "-"
  | _ => false

def prepare (command : Command) (host : Host) : IO (Except Fault Host) := do
  let host := { host with disk := ← survey host.disk (command.paths host) }
  let input ← if command.readsInput then (← IO.getStdin).readBinToEnd else pure ByteArray.empty
  match Text.Utf8.decode input with
  | .error fault => return .error (.reading (.encoding fault))
  | .ok stdin =>
      let host := { host with stdin := stdin }
      return .ok { host with disk := ← survey host.disk (command.deliveries host) }

/-- Make an outcome happen, and return the exit code. -/
def conclude (host : Host) (outcome : Outcome) : IO UInt32 := do
  try
    settle host.disk outcome.disk
  catch error =>
    IO.eprintln s!"ERROR: {error}"
    return 2
  for line in outcome.log do
    IO.eprintln line.message
  IO.eprint outcome.stderr
  IO.print outcome.stdout
  match outcome.exit with
  | .code n => return n.toUInt32
  | .crash fault =>
      IO.eprintln fault.message
      return 1

def program (arguments : List String) : IO UInt32 := do
  let host ← currentHost
  match Command.ofArguments arguments with
  | .error refusal => conclude host (refusal.answer host)
  | .ok command =>
      match ← prepare command host with
      | .error fault => conclude host (host.begin.fail fault)
      | .ok host => conclude host (command.run host)

end CommandLine

end SelfBuild

def main (arguments : List String) : IO UInt32 :=
  SelfBuild.CommandLine.program arguments
