import SchedTelemetry.Capture
import SchedTelemetry.Collector.Run
import SchedTelemetry.Configuration
import SchedTelemetry.SymbolTable

set_option autoImplicit false

namespace SchedTelemetry

def Refusal.message : Refusal → String
  | .unknownArgument => "unexpected argument"
  | .missingValue => "a value is required"
  | .emptyPath => "a path must not be empty"
  | .unknownFormat => "no such format"
  | .badNumber => "invalid number"
  | .badDuration => "invalid duration"
  | .repeated => "the argument cannot be used multiple times"
  | .unexpectedValue => "the argument takes no value"
  | .helpRequested => "usage: sched-telemetry [flags] [--setting=value ...] < capture"
  | .versionRequested => "sched-telemetry 0.1.0"

def Refusal.exitCode : Refusal → UInt32
  -- Asking for help or the version is no failure.
  | .helpRequested => 0
  | .versionRequested => 0
  | _ => 2

def Notice.isShown (verbose : Bool) (n : Notice) : Bool :=
  verbose || n.severity ≠ .debug

partial def readLines (input : IO.FS.Stream) (lines : Array (List Char)) :
    IO (Array (List Char)) := do
  let line ← input.getLine
  if line.isEmpty then return lines
  readLines input (lines.push line.toList)

def symbolListing : String := "/proc/kallsyms"

def readSymbols (c : Configuration) : IO SymbolTable := do
  -- Only IPIs need symbols, and they do without where the listing cannot be read.
  if !c.switches.isOn .ipi then return .empty
  try
    let lines ← IO.FS.lines symbolListing
    return .ofLines (lines.toList.map String.toList)
  catch _ => return .empty

def tell (c : Configuration) (ns : List Notice) : IO Unit := do
  let err ← IO.getStderr
  for n in ns.filter (Notice.isShown c.verbose) do
    err.putStrLn n.line

def writeOutput (o : OutputFile) (bytes : List UInt8) : IO Unit := do
  match o.directory with
  | some directory => IO.FS.createDirAll directory
  | none => pure ()
  IO.FS.writeBinFile o.path ⟨bytes.toArray⟩

def Configuration.collect (c : Configuration) (symbols : SymbolTable) (capture : Capture) :
    Option Collection := do
  let session ← (Session.start (.create .unlimited c.format) c.batchSize).toOption
  collect? ⟨⟨c.switches, c.filter, symbols⟩, capture.scripts⟩ session false

def command (args : List String) : IO UInt32 := do
  let err ← IO.getStderr
  match CommandLine.read args with
  | .error r =>
    err.putStrLn r.message
    return r.exitCode
  | .ok line =>
    let c := Configuration.ofCommandLine line
    if !c.switches.any then
      err.putStrLn "warn: No signal selected, the trace will be empty"
    let lines ← readLines (← IO.getStdin) #[]
    match Capture.ofLines? lines.toList with
    | none =>
      err.putStrLn "error: the capture cannot be read"
      return 1
    | some capture =>
      match c.collect (← readSymbols c) capture with
      | none => return 1
      | some collection =>
        for (_, ns) in collection.workerNotices do
          tell c ns
        tell c collection.coordinatorNotices
        writeOutput c.output collection.sink.held
        IO.println ("Collected " ++ c.output.path)
        return 0

end SchedTelemetry

def main (args : List String) : IO UInt32 :=
  SchedTelemetry.command args
