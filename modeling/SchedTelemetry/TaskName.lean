import SchedTelemetry.Text.Fixed
import SchedTelemetry.Text.Quoted

set_option autoImplicit false

namespace SchedTelemetry

structure TaskName where
  bytes : List UInt8
  length_eq : bytes.length = 16
  deriving DecidableEq

namespace TaskName

def width : Nat := 16

def ofBytes (bytes : List UInt8) : TaskName :=
  ⟨FixedText.fit width bytes, FixedText.length_fit width bytes⟩

-- The name of a task called `s`, cut at the width of the field whatever character stands there.
def ofString (s : String) : TaskName :=
  ofBytes (Utf8.encode s)

instance : Inhabited TaskName := ⟨ofBytes []⟩

def shown (name : TaskName) : List UInt8 :=
  FixedText.shown name.bytes

def text (name : TaskName) : String :=
  FixedText.text name.bytes

-- The form for logs and for printed events, on one line whatever the task calls itself.
def debug (name : TaskName) : String :=
  Text.quoted name.text

end TaskName

end SchedTelemetry
