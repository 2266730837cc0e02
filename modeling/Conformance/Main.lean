import Conformance.Command.Running

namespace Conformance

/-- The variables of this process that are texts, and whether there are others. -/
def readEnvironment : IO (Environment × Bool) := do
  let block ← IO.FS.readBinFile "/proc/self/environ"
  let entries := block.toList.splitOn 0
  let texts := entries.filterMap fun entry ↦ String.fromUTF8? ⟨entry.toArray⟩
  return (.ofEntries texts, texts.length < entries.length)

def readNode (path : String) : IO (List (String × FileNode)) := do
  match ← (IO.FS.readBinFile path).toBaseIO with
  | .ok content => return [(path, .file content)]
  | .error (.noFileOrDirectory _ _ _) => return []
  | .error _ => return [(path, .directory)]

def readHost (c : CommandLine) (env : Environment) : IO Host := do
  let nodes ← readNode (c.config.getD defaultConfigFile)
  match ← IO.currentDir.toBaseIO with
  | .ok dir => return { files := .ofFiles dir.toString nodes, env }
  | .error e =>
    return { files := .ofFiles "" nodes, env, directoryFault := some (.other (toString e)) }

def printEmission : Emission → IO Unit
  | .output line => IO.println line
  | .complaint line => IO.eprintln line
  | .notice n true => IO.eprintln n.line
  | .notice _ false => pure ()

def writeNode : List String × FileNode → IO Unit
  | (place, .directory) => IO.FS.createDirAll (Path.ofPlace place)
  | (place, .file content) => IO.FS.writeBinFile (Path.ofPlace place) content

def reportWriteError (e : IO.Error) : IO UInt32 := do
  (HarnessError.io (.other (toString e))).lines.forM IO.eprintln
  return harnessErrorCode.toUInt32

def panicCode : UInt32 := 101

/-- A process that aborts ends with a signal, for which this code stands. -/
def Abort.conclude : Abort → IO UInt32
  | .panicked _ => return panicCode
  | .collapsed => return 134
  | .endless => do
    repeat IO.sleep 1000
    return 0

def runCommand (c : CommandLine) : IO UInt32 := do
  let (env, foreign) ← readEnvironment
  let host ← readHost c env
  -- All variables are looked through once there are settings of the file to lay them over.
  if foreign && (c.settings host).isOk then return panicCode
  match c.run host with
  | .error a => a.conclude
  | .ok r =>
    try
      r.emissions.forM printEmission
      (host.files.changes r.files).forM writeNode
      return r.exitCode.toUInt32
    catch e => reportWriteError e

def printUsage (e : UsageError) : IO UInt32 := do
  if e.exitCode = 0 then IO.println CommandLine.usage else IO.eprintln CommandLine.usage
  return e.exitCode.toUInt32

end Conformance

def main (args : List String) : IO UInt32 :=
  match Conformance.CommandLine.ofArguments args with
  | .error e => Conformance.printUsage e
  | .ok c => Conformance.runCommand c
