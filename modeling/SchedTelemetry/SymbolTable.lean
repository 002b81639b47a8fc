import SchedTelemetry.Text.Blank
import SchedTelemetry.Text.Numeral
import SchedTelemetry.Text.Utf8

set_option autoImplicit false

namespace SchedTelemetry

abbrev Symbol := UInt64 × String

structure SymbolTable where
  symbols : Array Symbol
  sorted : symbols.toList.Pairwise (fun a b => a.1 ≤ b.1)

namespace SymbolTable

def empty : SymbolTable := ⟨#[], .nil⟩

instance : Inhabited SymbolTable := ⟨empty⟩

def startsBefore (a b : Symbol) : Bool := decide (a.1 ≤ b.1)

theorem startsBefore_trans (a b c : Symbol) (ab : startsBefore a b = true)
    (bc : startsBefore b c = true) : startsBefore a c = true := by
  simp only [startsBefore, decide_eq_true_eq] at ab bc ⊢
  exact UInt64.le_trans ab bc

theorem startsBefore_total (a b : Symbol) : (startsBefore a b || startsBefore b a) = true := by
  simp only [startsBefore, Bool.or_eq_true, decide_eq_true_eq]
  exact UInt64.le_total a.1 b.1

def ofSymbols (symbols : List Symbol) : SymbolTable where
  -- Symbols of one address stay in the order given.
  symbols := (symbols.mergeSort startsBefore).toArray
  sorted :=
    (List.pairwise_mergeSort startsBefore_trans startsBefore_total symbols).imp
      (fun ordered => by simpa [startsBefore] using ordered)

def size (t : SymbolTable) : Nat := t.symbols.size

def isEmpty (t : SymbolTable) : Bool := t.symbols.isEmpty

def lastSpan : UInt64 := 0x10000

-- The place in a range that parts the symbols at or below an address from those above it.
def boundaryIn (symbols : Array Symbol) (address : UInt64) (low high : Nat) (ordered : low ≤ high)
    (within : high ≤ symbols.size) : { i : Nat // i ≤ symbols.size } :=
  if open_range : low < high then
    let middle := low + (high - low) / 2
    have inside : middle < high := by omega
    if symbols[middle].1 ≤ address then
      boundaryIn symbols address (middle + 1) high (by omega) within
    else boundaryIn symbols address low middle (by omega) (by omega)
  else ⟨low, by omega⟩
termination_by high - low

def boundary (t : SymbolTable) (address : UInt64) : { i : Nat // i ≤ t.symbols.size } :=
  boundaryIn t.symbols address 0 t.symbols.size (Nat.zero_le _) (Nat.le_refl _)

def resolve (t : SymbolTable) (address : UInt64) : Option String :=
  let i := t.boundary address
  if first : i.val = 0 then none
  else
    have inside : i.val - 1 < t.symbols.size := by omega
    let (start, name) := t.symbols[i.val - 1]
    -- Nothing bounds the last symbol.
    if i.val = t.symbols.size && lastSpan ≤ address - start then none else some name

def address? (word : List Char) : Option UInt64 :=
  match Numeral.unsigned? 16 word with
  | some n => if n < UInt64.size then some (UInt64.ofNat n) else none
  | none => none

def symbolOfLine? (line : List Char) : Option Symbol :=
  match Text.words line with
  | word :: _ :: name :: _ =>
    match address? word with
    -- An address of zero is one that the kernel hides.
    | some a => if a = 0 then none else some (a, String.ofList name)
    | none => none
  | _ => none

def ofLines (lines : List (List Char)) : SymbolTable :=
  -- Lines of any other form are skipped.
  ofSymbols (lines.filterMap symbolOfLine?)

def ofBytes? (bytes : List UInt8) : Option SymbolTable :=
  -- Each line is decoded by itself, and one bad line refuses the whole listing.
  ((bytes.splitOn 0x0A).mapM Utf8.decodeChars?).map ofLines

end SymbolTable

end SchedTelemetry
