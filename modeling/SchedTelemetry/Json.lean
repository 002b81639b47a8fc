import SchedTelemetry.Text.Numeral

set_option autoImplicit false

namespace SchedTelemetry

inductive Json where
  | null
  | number (n : Int)
  | string (s : String)
  | array (items : List Json)
  | object (members : List (String × Json))

namespace Json

def hexDigits4 (n : Nat) : List Char :=
  [Numeral.digitChar (n / 4096 % 16), Numeral.digitChar (n / 256 % 16),
    Numeral.digitChar (n / 16 % 16), Numeral.digitChar (n % 16)]

def escapeChar (c : Char) : List Char :=
  match c with
  | '"' => ['\\', '"']
  | '\\' => ['\\', '\\']
  | '\x08' => ['\\', 'b']
  | '\t' => ['\\', 't']
  | '\n' => ['\\', 'n']
  | '\x0c' => ['\\', 'f']
  | '\r' => ['\\', 'r']
  | c => if c.toNat < 0x20 then ['\\', 'u'] ++ hexDigits4 c.toNat else [c]

def stringText (s : String) : List Char :=
  '"' :: s.toList.flatMap escapeChar ++ ['"']

mutual

def text : Json → List Char
  | .null => ['n', 'u', 'l', 'l']
  | .number n => Numeral.intDigits 10 n
  | .string s => stringText s
  | .array items => '[' :: itemsText items ++ [']']
  | .object members => '\x7b' :: membersText members ++ ['\x7d']

def itemsText : List Json → List Char
  | [] => []
  | [v] => v.text
  | v :: w :: rest => v.text ++ ',' :: itemsText (w :: rest)

def membersText : List (String × Json) → List Char
  | [] => []
  | [(k, v)] => stringText k ++ ':' :: v.text
  | (k, v) :: m :: rest => stringText k ++ ':' :: (v.text ++ ',' :: membersText (m :: rest))

end

def contentPieces (cs : List Char) : List (List Char) :=
  (cs.splitBy (fun a b => escapeChar a == [a] && escapeChar b == [b])).map
    (fun run => run.flatMap escapeChar)

def stringPieces (s : String) : List (List Char) :=
  ['"'] :: contentPieces s.toList ++ [['"']]

mutual

def pieces : Json → List (List Char)
  | .null => [['n', 'u', 'l', 'l']]
  | .number n => [Numeral.intDigits 10 n]
  | .string s => stringPieces s
  | .array items => ['['] :: itemPieces items ++ [[']']]
  | .object members => ['\x7b'] :: memberPieces members ++ [['\x7d']]

def itemPieces : List Json → List (List Char)
  | [] => []
  | [v] => v.pieces
  | v :: w :: rest => v.pieces ++ [','] :: itemPieces (w :: rest)

def memberPieces : List (String × Json) → List (List Char)
  | [] => []
  | [(k, v)] => stringPieces k ++ [':'] :: v.pieces
  | (k, v) :: m :: rest => stringPieces k ++ [':'] :: (v.pieces ++ [','] :: memberPieces (m :: rest))

end

end Json

end SchedTelemetry
