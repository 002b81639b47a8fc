import SchedTelemetry.TraceFormat

set_option autoImplicit false

namespace SchedTelemetry

def joinPath (directory name : String) : String :=
  if name.toList.head? = some '/' || directory.isEmpty then name
  else if directory.toList.getLast? = some '/' then directory ++ name
  -- An empty name leaves the directory with a slash at its end.
  else directory ++ "/" ++ name

-- Without a name the file is called after the program, with the ending of its format.
structure OutputFile where
  directory : Option String
  name : Option String
  format : TraceFormat
  deriving DecidableEq

namespace OutputFile

def fileName (o : OutputFile) : String :=
  o.name.getD ("sched-analyzer." ++ o.format.fileEnding)

def path (o : OutputFile) : String :=
  match o.directory with
  | some directory => joinPath directory o.fileName
  | none => o.fileName

end OutputFile

end SchedTelemetry
