import SchedTelemetry.Text.Blank
import SchedTelemetry.Text.Utf8

set_option autoImplicit false

namespace SchedTelemetry

inductive FileError where
  | notFound
  | alreadyExists
  | notDirectory
  | isDirectory
  | nameTooLong
  | nulByte
  deriving DecidableEq, Repr

def FileError.message : FileError → String
  | .notFound => "No such file or directory (os error 2)"
  | .alreadyExists => "File exists (os error 17)"
  | .notDirectory => "Not a directory (os error 20)"
  | .isDirectory => "Is a directory (os error 21)"
  | .nameTooLong => "File name too long (os error 36)"
  | .nulByte => "file name contained an unexpected NUL byte"

-- A path as it is walked: its names, and whether a slash follows the last one.
structure FilePath where
  names : List String
  isAbsolute : Bool
  endsInSlash : Bool
  deriving DecidableEq

namespace FilePath

def ofString (s : String) : FilePath where
  names := ((s.toList.splitOn '/').filter (fun n => !n.isEmpty)).map String.ofList
  isAbsolute := s.toList.head? == some '/'
  endsInSlash := s.toList.getLast? == some '/'

def normalNames (p : FilePath) : List String :=
  match p.names with
  | [] => []
  | n :: rest =>
    let rest := rest.filter (· != ".")
    -- A dot at the head of a relative path stays.
    if n = "." && p.isAbsolute then rest else n :: rest

def ancestors (names : List String) : List (List String) :=
  ((List.range names.length).reverse.map names.take).filter (fun ns => !ns.isEmpty)

end FilePath

inductive FileNode where
  | directory
  | file (content : List UInt8)
  deriving DecidableEq

/-- Every entry but the root, under its names from the root down. Paths that do not start with a slash
are walked from the working directory. -/
structure FileTree where
  entries : List (List String × FileNode)
  working : List String

namespace FileTree

def standardNames : List String :=
  ["bin", "boot", "dev", "etc", "home", "lib", "media", "mnt", "opt", "proc", "root", "run", "sbin",
    "srv", "sys", "tmp", "usr", "var"]

def fresh : FileTree where
  entries :=
    standardNames.map (fun name => ([name], .directory))
      ++ [(["dev", "null"], .file []), (["tmp", "work"], .directory)]
  working := ["tmp", "work"]

def node? (t : FileTree) (names : List String) : Option FileNode :=
  if names.isEmpty then some .directory else t.entries.lookup names

def put (t : FileTree) (names : List String) (n : FileNode) : FileTree :=
  { t with entries := t.entries.filter (fun e => e.1 != names) ++ [(names, n)] }

def maxName : Nat := 255

def maxPath : Nat := 4096

def pathError? (s : String) : Option FileError :=
  if s.toList.contains '\x00' then some .nulByte
  else if s.isEmpty then some .notFound
  else if maxPath ≤ s.utf8ByteSize then some .nameTooLong
  else none

def isDots (name : String) : Bool := name == "." || name == ".."

-- One step of a walk, from a place that has to be a directory. The root is its own parent.
def walkStep (t : FileTree) (place : List String) (name : String) : Except FileError (List String) :=
  if t.node? place != some .directory then .error .notDirectory
  else if name = "." then .ok place
  else if name = ".." then .ok place.dropLast
  else if maxName < name.utf8ByteSize then .error .nameTooLong
  else if (t.node? (place ++ [name])).isNone then .error .notFound
  else .ok (place ++ [name])

def start (t : FileTree) (p : FilePath) : List String :=
  if p.isAbsolute then [] else t.working

def walk (t : FileTree) (start names : List String) : Except FileError (List String) :=
  names.foldlM t.walkStep start

def find (t : FileTree) (s : String) : Except FileError (List String × FileNode) :=
  match pathError? s with
  | some e => .error e
  | none =>
    let p := FilePath.ofString s
    (t.walk (t.start p) p.names).bind fun place =>
      match t.node? place with
      | none => .error .notFound
      | some .directory => .ok (place, .directory)
      -- Only a directory may be named with a slash behind it.
      | some n => if p.endsInSlash then .error .notDirectory else .ok (place, n)

def pathExists (t : FileTree) (s : String) : Bool :=
  (t.find s).isOk

def isDirectory (t : FileTree) (s : String) : Bool :=
  match t.find s with
  | .ok (_, .directory) => true
  | _ => false

def findPlace (t : FileTree) (s : String) : Except FileError (List String × Option String) :=
  match pathError? s with
  | some e => .error e
  | none =>
    let p := FilePath.ofString s
    (t.walk (t.start p) p.names.dropLast).bind fun place =>
      if t.node? place != some .directory then .error .notDirectory
      else .ok (place, p.names.getLast?)

-- A tree after a call that may have failed. What was made before the failure stays.
structure Outcome where
  tree : FileTree
  failure : Option FileError

def makeDirectory (t : FileTree) (s : String) : Outcome :=
  match t.findPlace s with
  | .error e => ⟨t, some e⟩
  | .ok (_, none) => ⟨t, some .alreadyExists⟩
  | .ok (place, some name) =>
    if isDots name then ⟨t, some .alreadyExists⟩
    else if maxName < name.utf8ByteSize then ⟨t, some .nameTooLong⟩
    else if (t.node? (place ++ [name])).isSome then ⟨t, some .alreadyExists⟩
    else ⟨t.put (place ++ [name]) .directory, none⟩

def makeChain (t : FileTree) : List String → Outcome
  | [] => ⟨t, none⟩
  | s :: shallower =>
    match t.makeDirectory s with
    | ⟨t, none⟩ => ⟨t, none⟩
    | ⟨t, some .notFound⟩ =>
      match t.makeChain shallower with
      | ⟨t, none⟩ =>
        let last := t.makeDirectory s
        if last.failure = some .alreadyExists && t.isDirectory s then ⟨t, none⟩ else last
      | failed => failed
    | ⟨t, some e⟩ => if t.isDirectory s then ⟨t, none⟩ else ⟨t, some e⟩

def pathText (isAbsolute : Bool) (names : List String) : String :=
  (if isAbsolute then "/" else "") ++ "/".intercalate names

def makeDirectories (t : FileTree) (s : String) : Outcome :=
  let p := FilePath.ofString s
  if s.isEmpty then ⟨t, none⟩
  else t.makeChain (s :: (FilePath.ancestors p.normalNames).map (pathText p.isAbsolute))

def createFile (t : FileTree) (s : String) : Except FileError (FileTree × List String) :=
  (t.findPlace s).bind fun (place, name?) =>
    match name? with
    | none => .error .isDirectory
    | some name =>
      if isDots name || (FilePath.ofString s).endsInSlash then .error .isDirectory
      else if maxName < name.utf8ByteSize then .error .nameTooLong
      else if t.node? (place ++ [name]) = some .directory then .error .isDirectory
      else .ok (t.put (place ++ [name]) (.file []), place ++ [name])

def inside (t : FileTree) : List (List String × FileNode) :=
  t.entries.filter (fun e => t.working.isPrefixOf e.1 && e.1 != t.working)

-- In alphabetical order, a directory's path with a slash behind it.
def listing (t : FileTree) : List (String × FileNode) :=
  (t.inside.map fun (names, n) =>
    ("/".intercalate (names.drop t.working.length) ++ (if n = .directory then "/" else ""), n)).mergeSort
      (fun a b => decide (a.1 ≤ b.1))

end FileTree

end SchedTelemetry
