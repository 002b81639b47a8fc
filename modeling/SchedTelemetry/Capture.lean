import SchedTelemetry.Collector.Worker
import SchedTelemetry.Text.Blank
import SchedTelemetry.Text.Numeral

set_option autoImplicit false

namespace SchedTelemetry

-- One raw record on each line: the name of its channel, then its bytes in hexadecimal.
abbrev Capture := List (Channel × List UInt8)

namespace Capture

def hexBytes? : List Char → Option (List UInt8)
  | [] => some []
  | high :: low :: rest => do
    let h ← Numeral.digitValue? 16 high
    let l ← Numeral.digitValue? 16 low
    return UInt8.ofNat (16 * h + l) :: (← hexBytes? rest)
  | [_] => none

def entry? : List (List Char) → Option (Channel × List UInt8)
  | [name, bytes] => do
    return (← Channel.ofName? (String.ofList name), ← hexBytes? bytes)
  | _ => none

def ofLines? (lines : List (List Char)) : Option Capture :=
  -- A line without any word is skipped; one of another form spoils the capture.
  ((lines.map Text.words).filter (fun words => !words.isEmpty)).mapM entry?

def recordsOf (c : Capture) (channel : Channel) : List (List UInt8) :=
  (c.filter (fun entry => entry.1 = channel)).map (·.2)

def scripts (c : Capture) : PerChannel ChannelScript :=
  .ofFn (fun channel => { ChannelScript.idle with polls := [.delivered (c.recordsOf channel)] })

end Capture

end SchedTelemetry
