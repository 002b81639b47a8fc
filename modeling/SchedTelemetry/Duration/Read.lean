import SchedTelemetry.Duration
import SchedTelemetry.Text.Blank
import SchedTelemetry.Text.Numeral

set_option autoImplicit false

namespace SchedTelemetry.Duration

def units : List (List String × Nat) :=
  [(["y", "year"], 365 * 86400 * perSecond),
    (["mon", "month"], 30 * 86400 * perSecond),
    (["w", "week"], 7 * 86400 * perSecond),
    (["d", "day"], 86400 * perSecond),
    (["h", "hour", "hr"], 3600 * perSecond),
    (["m", "min", "minute"], 60 * perSecond),
    (["s", "sec", "second"], perSecond),
    (["ms", "msec", "millisecond"], 1000000),
    (["µs", "µsec", "µsecond", "us", "usec", "usecond", "microsecond"], 1000),
    (["ns", "nsec", "nanosecond"], 1)]

def unit? (word : List Char) : Option Nat :=
  let spelling := String.ofList (word.map Char.toLower)
  (units.find? (fun u => u.1.contains spelling)).map (·.2)

def bounded? (n : Nat) : Option Nat :=
  if n < UInt64.size then some n else none

-- The nanoseconds in an amount. Neither its number nor they may reach 2^64.
def amount? (number : List Char) (unit : Nat) : Option Nat :=
  ((Numeral.value? 10 number).bind bounded?).bind (fun n => bounded? (n * unit))

inductive CharKind where
  | digit
  | letter
  | plus
  | times
  | blank
  | other
  deriving DecidableEq

-- Letters are the ASCII ones and the micro sign.
def CharKind.of (c : Char) : CharKind :=
  if c.isDigit then .digit
  else if c.isAlpha || c == 'µ' then .letter
  else if c == '+' then .plus
  else if c == '*' then .times
  else if c == ' ' || c == '\t' || c == '\r' || c == '\n' then .blank
  else .other

structure Run where
  kind : CharKind
  chars : List Char

def runs : List Char → List Run
  | [] => []
  | c :: rest =>
    match runs rest with
    | [] => [⟨.of c, [c]⟩]
    | r :: more => if r.kind = .of c then ⟨r.kind, c :: r.chars⟩ :: more else ⟨.of c, [c]⟩ :: r :: more

inductive Joiner where
  | plus
  | times
  deriving DecidableEq

structure Term where
  joiner : Joiner
  nanoseconds : Nat

-- A plus may be left out. Blanks may stand around joiners and between amounts, not inside one. Only
-- the first amount needs its unit; a later one without counts seconds.
def terms? : Option Joiner → List Run → Option (List Term)
  | none, [] => some []
  | some _, [] => none
  | joiner, ⟨.blank, _⟩ :: rest => terms? joiner rest
  | none, ⟨.plus, [_]⟩ :: rest => terms? (some .plus) rest
  | none, ⟨.times, [_]⟩ :: rest => terms? (some .times) rest
  | joiner, ⟨.digit, number⟩ :: ⟨.letter, word⟩ :: rest => do
    let nanoseconds ← amount? number (← unit? word)
    let more ← terms? none rest
    return ⟨joiner.getD .plus, nanoseconds⟩ :: more
  | joiner, ⟨.digit, number⟩ :: rest => do
    let nanoseconds ← amount? number perSecond
    let more ← terms? none rest
    return ⟨joiner.getD .plus, nanoseconds⟩ :: more
  | _, _ => none

-- The product of two amounts of seconds, cut to whole nanoseconds.
def times? (a b : Nat) : Option Nat :=
  bounded? (a * b / perSecond)

def combine? (op : Nat → Nat → Option Nat) (first : Nat) : List Nat → Option Nat
  | [] => some first
  -- Later amounts are combined among themselves before they meet the first.
  | second :: rest => (rest.foldlM op second).bind (op first)

def total? (first : Nat) (terms : List Term) : Option Nat :=
  let amounts := terms.map (·.nanoseconds)
  if terms.all (·.joiner = .plus) then combine? (fun a b => bounded? (a + b)) first amounts
  else if terms.all (·.joiner = .times) then combine? times? first amounts
  else none

def trimEnd (text : List Char) : List Char :=
  (text.reverse.dropWhile Text.isBlank).reverse

def read? (text : List Char) : Option Duration :=
  match runs (trimEnd text) with
  | ⟨.digit, number⟩ :: ⟨.letter, word⟩ :: rest => do
    let first ← amount? number (← unit? word)
    let terms ← terms? none rest
    return ⟨← total? first terms⟩
  | _ => none

end SchedTelemetry.Duration
