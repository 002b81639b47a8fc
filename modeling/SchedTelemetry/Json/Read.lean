import SchedTelemetry.Json.Token

set_option autoImplicit false

namespace SchedTelemetry.Json

-- An array or object under way, last item first. An object may have a key that waits for a value.
inductive Frame where
  | array (items : List Json)
  | object (members : List (String × Json)) (key : Option String)

/-- What may come next: a value; an item, key or end just after an opening; a comma or end; a key; a
colon; or nothing, when the value is complete. -/
inductive Expected where
  | value
  | first
  | more
  | key
  | colon
  | nothing (result : Json)

structure Reader where
  expected : Expected
  stack : List Frame

namespace Reader

def initial : Reader := ⟨.value, []⟩

def place (v : Json) : List Frame → Option Reader
  | [] => some ⟨.nothing v, []⟩
  | .array items :: rest => some ⟨.more, .array (v :: items) :: rest⟩
  | .object members (some k) :: rest => some ⟨.more, .object ((k, v) :: members) none :: rest⟩
  | .object _ none :: _ => none

def begin (stack : List Frame) : Token → Option Reader
  | .null => place .null stack
  | .number n => place (.number n) stack
  | .string s => place (.string s) stack
  | .openArray => some ⟨.first, .array [] :: stack⟩
  | .openObject => some ⟨.first, .object [] none :: stack⟩
  | _ => none

def close : List Frame → Token → Option Reader
  | .array items :: rest, .closeArray => place (.array items.reverse) rest
  | .object members none :: rest, .closeObject => place (.object members.reverse) rest
  | _, _ => none

def takeKey : List Frame → Token → Option Reader
  | .object members none :: rest, .string k => some ⟨.colon, .object members (some k) :: rest⟩
  | _, _ => none

def afterComma : List Frame → Option Reader
  | .array items :: rest => some ⟨.value, .array items :: rest⟩
  | .object members none :: rest => some ⟨.key, .object members none :: rest⟩
  | _ => none

def step (r : Reader) (t : Token) : Option Reader :=
  match r.expected with
  | .value => begin r.stack t
  | .first =>
    match close r.stack t with
    | some r => some r
    | none =>
      match r.stack with
      | .array _ :: _ => begin r.stack t
      | _ => takeKey r.stack t
  | .more => if t = .comma then afterComma r.stack else close r.stack t
  | .key => takeKey r.stack t
  | .colon => if t = .colon then some ⟨.value, r.stack⟩ else none
  | .nothing _ => none

def run (r : Reader) (ts : List Token) : Option Reader :=
  ts.foldlM step r

end Reader

def ofTokens (ts : List Token) : Option Json :=
  match Reader.initial.run ts with
  | some ⟨.nothing v, _⟩ => some v
  | _ => none

def read (cs : List Char) : Option Json :=
  (lex cs).bind ofTokens

def member? (key : String) : Json → Option Json
  | .object members => members.lookup key
  | _ => none

def string? : Json → Option String
  | .string s => some s
  | _ => none

def items? : Json → Option (List Json)
  | .array items => some items
  | _ => none

def intWithin? (low high : Int) : Json → Option Int
  | .number n => if low ≤ n ∧ n ≤ high then some n else none
  | _ => none

def uint64? (j : Json) : Option UInt64 :=
  (j.intWithin? 0 (UInt64.size - 1)).map (fun n => UInt64.ofNat n.toNat)

def uint32? (j : Json) : Option UInt32 :=
  (j.intWithin? 0 (UInt32.size - 1)).map (fun n => UInt32.ofNat n.toNat)

def int64? (j : Json) : Option Int64 :=
  (j.intWithin? Int64.minValue.toInt Int64.maxValue.toInt).map Int64.ofInt

def int32? (j : Json) : Option Int32 :=
  (j.intWithin? Int32.minValue.toInt Int32.maxValue.toInt).map Int32.ofInt

def stringOrNull? : Json → Option (Option String)
  | .null => some none
  | .string s => some (some s)
  | _ => none

end SchedTelemetry.Json
