import SchedTelemetry.LittleEndian
import SchedTelemetry.Notice
import SchedTelemetry.Switches
import SchedTelemetry.TaskFilter
import SchedTelemetry.Text.Fixed

set_option autoImplicit false

namespace SchedTelemetry

structure ProbeOptions where
  switches : Switches
  pids : List Int32
  names : List (List UInt8)

namespace ProbeOptions

def capacity : Nat := 128

def nameWidth : Nat := 16

-- A NUL always follows a name.
def cutName (name : String) : List UInt8 :=
  (Utf8.encode name).take (nameWidth - 1)

def build (switches : Switches) (filter : TaskFilter) : ProbeOptions where
  switches := switches
  pids := filter.pids.take capacity
  names := (filter.names.take capacity).map cutName

def notices (filter : TaskFilter) : List Notice :=
  if capacity < filter.pids.length || capacity < filter.names.length then [.filterCut capacity] else []

def switchBytes (s : Switches) : List UInt8 :=
  Switch.all.map (fun x => if s.isOn x then 1 else 0)

def pidTable (pids : List Int32) : List UInt8 :=
  (pids ++ List.replicate (capacity - pids.length) 0).flatMap LittleEndian.ofInt32

def nameTable (names : List (List UInt8)) : List UInt8 :=
  (names ++ List.replicate (capacity - names.length) []).flatMap (FixedText.fit nameWidth)

def image (o : ProbeOptions) : List UInt8 :=
  switchBytes o.switches ++ LittleEndian.ofUInt32 (UInt32.ofNat o.pids.length)
    ++ LittleEndian.ofUInt32 (UInt32.ofNat o.names.length) ++ pidTable o.pids ++ nameTable o.names

-- From here on what the probes make of the image.
def slots (width : Nat) (table : List UInt8) (count : Nat) : List (List UInt8) :=
  (List.range count).map (fun i => LittleEndian.field table (width * i) width)

def switchesAt (image : List UInt8) : Switches :=
  ⟨fun x => LittleEndian.byteAt image (Switch.all.idxOf x) != 0⟩

def pidsAt : Nat := 24

def namesAt : Nat := pidsAt + 4 * capacity

def imageSize : Nat := namesAt + nameWidth * capacity

def ofImage (image : List UInt8) : ProbeOptions where
  switches := switchesAt image
  -- Only the places that the counts speak of are read, and a name only up to its NUL.
  pids :=
    (slots 4 (image.drop pidsAt) (LittleEndian.uint32At image 16).toNat).map
      (fun slot => LittleEndian.int32At slot 0)
  names :=
    (slots nameWidth (image.drop namesAt) (LittleEndian.uint32At image 20).toNat).map
      FixedText.shown

/-- Whether the tables let a task pass: with both empty every task, otherwise a task whose pid is
listed or whose name has a listed name in it, byte for byte. -/
def accepts (o : ProbeOptions) (pid : Int32) (name : List UInt8) : Bool :=
  (o.pids.isEmpty && o.names.isEmpty) || o.pids.contains pid
    || o.names.any (fun part => occursIn (FixedText.shown part) name)

end ProbeOptions

end SchedTelemetry
