import EngineClient.CommandLine.Run

/-!
# The program

Gathers what a command line needs from the machine, runs it, and writes what it emitted.
The machine lends the program its settings file and its environment; it lends no way to
start other programs, so a shell finds every engine missing.
-/

namespace EngineClient
namespace Program

def locationOf (path : String) : Location :=
  (Path.ofText path).parts

def diskAt (cwd home : String) : Disk :=
  let names := locationOf cwd
  { nodes := (List.range names.length).map fun n => (names.take (n + 1), .directory)
    cwd := names, home, accounts := [] }

def withFile (d : Disk) (path : String) (content : List UInt8) : Disk :=
  match d.change (.write path content) with
  | .ok d => d
  | .error _ => d

def variableNames : List String :=
  Config.optionVariables.map (·.2)

def readEnvironment : IO Config.Environment :=
  variableNames.filterMapM fun name => do
    return (← IO.getEnv name).map fun value => (name, value)

def readOctets? (path : String) : IO (Option (List UInt8)) := do
  try
    return some (← IO.FS.readBinFile path).toList
  catch _ => return none

/-- A disk that also holds what stands at a path of the machine, if anything does. -/
def withEntry (d : Disk) (path : String) : IO Disk := do
  let entry := (← IO.currentDir) / path
  if ← entry.isDir then return (d.change (.makeDirectory path)).toOption.getD d
  else if ← entry.pathExists then return withFile d path ((← readOctets? path).getD [])
  else return d

/-- A disk that holds the root of an invocation and its settings file, as far as there are
any. -/
def readDisk (i : CommandLine.Invocation) : IO Disk := do
  let cwd ← IO.currentDir
  let home := (← IO.getEnv "HOME").getD ""
  let d ← withEntry (diskAt cwd.toString home) i.root
  withEntry d (i.config?.getD (Path.ofText i.root / Path.ofText Config.fileName).text)

def writeEmissions (i : CommandLine.Invocation) (es : List Emission) : IO Unit := do
  let now ← IO.monoMsNow
  IO.print (CommandLine.outputText es)
  IO.eprint (CommandLine.troubleText (CommandLine.threshold i) (Text.decimal now) es)

def readInput (i : CommandLine.Invocation) : IO (List Char) := do
  if i.task = .shell then
    return (← (← IO.getStdin).readToEnd).toList
  else return []

/-- What is written when a command line is not understood. -/
def usage : String :=
  "usage: shell [ROOT] [--config PATH] [--wait|--no-wait] [--log-level LEVEL]\n" ++
    "       config [ROOT] [--config PATH]\n"

def runInvocation (i : CommandLine.Invocation) : IO Nat := do
  let d ← readDisk i
  let env ← readEnvironment
  let input ← readInput i
  let w : World := { disk := d, surroundings := { spawns := [.missing] } }
  match CommandLine.run i env false input w with
  | .ok status w =>
      writeEmissions i w.trail.emissions
      if status = .usage then IO.eprint usage
      return status.code
  | .error f w =>
      writeEmissions i w.trail.emissions
      IO.eprintln f.message
      return CommandLine.escapedCode

end Program
end EngineClient

open EngineClient in
def main (args : List String) : IO UInt32 := do
  match CommandLine.parse? args with
  | some i => return (← Program.runInvocation i).toUInt32
  | none =>
      IO.eprint Program.usage
      return CommandLine.Status.usage.code.toUInt32
