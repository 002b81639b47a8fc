import SchedTelemetry.FileTree
import SchedTelemetry.Notice
import SchedTelemetry.OutputFile
import SchedTelemetry.SymbolTable

set_option autoImplicit false

namespace SchedTelemetry

structure CreateError where
  path : String
  cause : FileError
  deriving DecidableEq

def CreateError.message (e : CreateError) : String :=
  "Failed to create " ++ e.path ++ ": " ++ e.cause.message

namespace OutputFile

structure Made (α : Type) where
  tree : FileTree
  result : Except CreateError α

def createDirectory (o : OutputFile) (t : FileTree) : Made Unit :=
  match o.directory with
  | none => ⟨t, .ok ()⟩
  | some directory =>
    -- Whatever is at the path already, a file too, is left for the opening to deal with.
    if t.pathExists directory then ⟨t, .ok ()⟩
    else
      match t.makeDirectories directory with
      | ⟨t, none⟩ => ⟨t, .ok ()⟩
      | ⟨t, some e⟩ => ⟨t, .error ⟨directory, e⟩⟩

def create (o : OutputFile) (t : FileTree) : Made (List String) :=
  match o.createDirectory t with
  | ⟨t, .error e⟩ => ⟨t, .error e⟩
  | ⟨t, .ok ()⟩ =>
    match t.createFile o.path with
    | .ok (t, place) => ⟨t, .ok place⟩
    | .error e => ⟨t, .error ⟨o.path, e⟩⟩

end OutputFile

inductive SymbolError where
  | cannotOpen (path : String) (cause : FileError)
  | cannotRead (cause : FileError)
  | notUtf8
  deriving DecidableEq

def SymbolError.message : SymbolError → String
  | .cannotOpen path cause => "Failed to open " ++ path ++ ": " ++ cause.message
  | .cannotRead cause => cause.message
  | .notUtf8 => "stream did not contain valid UTF-8"

namespace SymbolTable

def ofBytes (bytes : List UInt8) : Except SymbolError SymbolTable :=
  match ofBytes? bytes with
  | some t => .ok t
  | none => .error .notUtf8

def load (t : FileTree) (path : String) : Except SymbolError (SymbolTable × Notice) :=
  match t.find path with
  | .error e => .error (.cannotOpen path e)
  | .ok (_, .directory) => .error (.cannotRead .isDirectory)
  | .ok (_, .file content) =>
    (ofBytes content).map fun symbols => (symbols, .symbolsLoaded symbols.size path)

end SymbolTable

end SchedTelemetry
