import SchedTelemetry.Json

set_option autoImplicit false

namespace SchedTelemetry.Json

inductive Token where
  | openArray
  | closeArray
  | openObject
  | closeObject
  | comma
  | colon
  | null
  | number (n : Int)
  | string (s : String)
  deriving DecidableEq

mutual

def tokens : Json → List Token
  | .null => [.null]
  | .number n => [.number n]
  | .string s => [.string s]
  | .array items => .openArray :: itemTokens items ++ [.closeArray]
  | .object members => .openObject :: memberTokens members ++ [.closeObject]

def itemTokens : List Json → List Token
  | [] => []
  | [v] => v.tokens
  | v :: w :: rest => v.tokens ++ .comma :: itemTokens (w :: rest)

def memberTokens : List (String × Json) → List Token
  | [] => []
  | [(k, v)] => .string k :: .colon :: v.tokens
  | (k, v) :: m :: rest => .string k :: .colon :: (v.tokens ++ .comma :: memberTokens (m :: rest))

end

-- Where the machine is in a token, with what it has read of it, last character first.
inductive LexState where
  | between
  | inString (read : List Char)
  | inEscape (read : List Char)
  | inCode (read : List Char) (value : Nat) (owed : Nat)
  | inNumber (read : List Char)
  | inWord (read : List Char)

def isBlank (c : Char) : Bool := c == ' ' || c == '\t' || c == '\n' || c == '\r'

-- A number has no leading zeros.
def integer? : List Char → Option Int
  | '-' :: cs => (natural? cs).map (fun n => -Int.ofNat n)
  | cs => (natural? cs).map Int.ofNat
where
  natural? : List Char → Option Nat
    | ['0'] => some 0
    | '0' :: _ => none
    | cs => Numeral.value? 10 cs

def word? (cs : List Char) : Option Token :=
  if cs = ['n', 'u', 'l', 'l'] then some .null else none

def punctuation? (c : Char) : Option Token :=
  match c with
  | '[' => some .openArray
  | ']' => some .closeArray
  | '\x7b' => some .openObject
  | '\x7d' => some .closeObject
  | ',' => some .comma
  | ':' => some .colon
  | _ => none

def isNumeralStart (c : Char) : Bool := c == '-' || c.isDigit

def lexStart (c : Char) : Option (List Token × LexState) :=
  match punctuation? c with
  | some t => some ([t], .between)
  | none =>
    if isBlank c then some ([], .between)
    else if c = '"' then some ([], .inString [])
    else if isNumeralStart c then some ([], .inNumber [c])
    else if c.isAlpha then some ([], .inWord [c])
    else none

def lexAfter (t? : Option Token) (c : Char) : Option (List Token × LexState) := do
  -- The character that does not continue a numeral or a word may begin the next token.
  let t ← t?
  let (ts, state) ← lexStart c
  return (t :: ts, state)

def escaped? (c : Char) : Option Char :=
  match c with
  | '"' => some '"'
  | '\\' => some '\\'
  | '/' => some '/'
  | 'b' => some '\x08'
  | 't' => some '\t'
  | 'n' => some '\n'
  | 'f' => some '\x0c'
  | 'r' => some '\r'
  | _ => none

def numeralToken? (read : List Char) : Option Token :=
  (integer? read.reverse).map .number

def lexStep : LexState → Char → Option (List Token × LexState)
  | .between, c => lexStart c
  | .inString read, c =>
    if c = '"' then some ([.string (String.ofList read.reverse)], .between)
    else if c = '\\' then some ([], .inEscape read)
    else if c.toNat < 0x20 then none
    else some ([], .inString (c :: read))
  | .inEscape read, c =>
    if c = 'u' then some ([], .inCode read 0 3)
    else (escaped? c).map (fun e => ([], .inString (e :: read)))
  | .inCode read value owed, c => do
    let value := 16 * value + (← Numeral.digitValue? 16 c)
    match owed with
    | owed + 1 => some ([], .inCode read value owed)
    | 0 => if h : value.isValidChar then some ([], .inString (Char.ofNatAux value h :: read)) else none
  | .inNumber read, c =>
    if c.isDigit then some ([], .inNumber (c :: read)) else lexAfter (numeralToken? read) c
  | .inWord read, c =>
    if c.isAlpha then some ([], .inWord (c :: read)) else lexAfter (word? read.reverse) c

def lexEnd : LexState → Option (List Token)
  | .between => some []
  | .inNumber read => (numeralToken? read).map (fun t => [t])
  | .inWord read => (word? read.reverse).map (fun t => [t])
  | _ => none

def lexFrom (state : LexState) : List Char → Option (List Token)
  | [] => lexEnd state
  | c :: rest => do
    let (ts, state) ← lexStep state c
    return ts ++ (← lexFrom state rest)

def lex (cs : List Char) : Option (List Token) :=
  lexFrom .between cs

end SchedTelemetry.Json
