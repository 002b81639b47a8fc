import SchedTelemetry.Proofs.NumeralSpelling
import SchedTelemetry.Proofs.Utf8Spelling
import SchedTelemetry.Proofs.Words
import SchedTelemetry.SymbolTable

set_option autoImplicit false

namespace SchedTelemetry

namespace Utf8

theorem lineFeed_not_mem_encodeChars {cs : List Char} (unbroken : '\n' ∉ cs) :
    0x0A ∉ encodeChars cs := by
  intro member
  obtain ⟨c, inside, octet⟩ := List.mem_flatMap.mp member
  have code : c.toNat = '\n'.toNat := encodeChar_of_ascii_mem octet (by decide)
  exact unbroken (Char.toNat_inj.mp code ▸ inside)

theorem encodeChars_line (line rest : List Char) :
    encodeChars (line ++ '\n' :: rest) = encodeChars line ++ 0x0A :: encodeChars rest := by
  have code : encodeChar '\n' = [0x0A] := by decide
  simp [encodeChars, code]

theorem splitOn_encodeChars (text : List Char) :
    (encodeChars text).splitOn 0x0A = (Text.lines text).map encodeChars := by
  induction text using Text.lines_induction with
  | last line unbroken =>
    rw [Text.lines_last unbroken, List.splitOn_eq_singleton (lineFeed_not_mem_encodeChars unbroken),
      List.map_singleton]
  | line line rest unbroken ih =>
    rw [Text.lines_line unbroken, encodeChars_line, List.map_cons, ← ih,
      List.splitOn_append_cons_self_of_not_mem (lineFeed_not_mem_encodeChars unbroken)]

theorem exists_encodeChars_of_lines {lines : List (List Char)} (some_line : lines ≠ []) :
    ∃ text, [0x0A].intercalate (lines.map encodeChars) = encodeChars text := by
  induction lines with
  | nil => exact absurd rfl some_line
  | cons line rest ih =>
    cases rest with
    | nil => exact ⟨line, by simp⟩
    | cons next rest =>
      obtain ⟨text, shape⟩ := ih (by simp)
      refine ⟨line ++ '\n' :: text, ?_⟩
      rw [encodeChars_line, ← shape]
      simp [List.intercalate_cons_cons]

-- Lines decoded one by one are the lines of the whole text, and one is refused when the text is.
theorem mapM_decodeChars? (bytes : List UInt8) :
    (bytes.splitOn 0x0A).mapM decodeChars? = (decodeChars? bytes).map Text.lines := by
  have decoded := @mapM_eq_some_iff_of_inverse _ _ decodeChars? encodeChars
    (fun _ _ => decodeChars?_eq_some_iff)
  cases whole : decodeChars? bytes with
  | some text =>
    rw [decodeChars?_eq_some_iff.mp whole]
    exact decoded.mpr (splitOn_encodeChars text)
  | none =>
    refine Option.eq_none_iff_forall_ne_some.mpr (fun lines read => ?_)
    have pieces := decoded.mp read
    obtain ⟨text, shape⟩ := @exists_encodeChars_of_lines lines (by
      rintro rfl
      simp at pieces)
    rw [← pieces, List.intercalate_splitOn] at shape
    rw [decodeChars?_eq_some_iff.mpr shape] at whole
    cases whole

end Utf8

inductive Names : List (List Char) → Option Symbol → Prop where
  | symbol {a : UInt64} {first kind name : List Char} {more : List (List Char)}
      (address : Numeral.SpellsUnsigned 16 first a.toNat) (shown : a ≠ 0) :
      Names (first :: kind :: name :: more) (some (a, String.ofList name))
  | hidden {first : List Char} {more : List (List Char)}
      (address : Numeral.SpellsUnsigned 16 first 0) : Names (first :: more) none
  | unnumbered {first : List Char} {more : List (List Char)}
      (other : ∀ n < UInt64.size, ¬ Numeral.SpellsUnsigned 16 first n) : Names (first :: more) none
  | few {ws : List (List Char)} (few : ws.length < 3) : Names ws none

inductive Listing : List Char → List Symbol → Prop where
  | last {ws : List (List Char)} {line : List Char} {named : Option Symbol}
      (unbroken : '\n' ∉ line) (spaced : Text.Spaced ws line) (names : Names ws named) :
      Listing line named.toList
  | line {ws : List (List Char)} {line ending rest : List Char} {named : Option Symbol}
      {symbols : List Symbol} (unbroken : '\n' ∉ line) (spaced : Text.Spaced ws line)
      (names : Names ws named) (ends : ending = ['\n'] ∨ ending = ['\r', '\n'])
      (others : Listing rest symbols) : Listing (line ++ ending ++ rest) (named.toList ++ symbols)

-- What a stable sort by address makes of the symbols given.
structure StablySorted (given sorted : List Symbol) : Prop where
  same : sorted.Perm given
  ordered : sorted.Pairwise (fun a b => a.1 ≤ b.1)
  stable : ∀ a : UInt64, sorted.filter (fun s => s.1 = a) = given.filter (fun s => s.1 = a)

namespace SymbolTable

theorem ofSymbols_stablySorted (given : List Symbol) :
    StablySorted given (ofSymbols given).symbols.toList where
  same := List.mergeSort_perm given startsBefore
  ordered := (ofSymbols given).sorted
  stable a := by
    have tied : (given.filter (fun s => s.1 = a)).Pairwise (fun s t => startsBefore s t = true) := by
      refine List.pairwise_of_forall_mem_list (fun s hs t ht => ?_)
      simp only [List.mem_filter, decide_eq_true_eq] at hs ht
      simp [startsBefore, hs.2, ht.2]
    -- The sort keeps any sublist that is in order already.
    have kept := (List.sublist_mergeSort startsBefore_trans startsBefore_total tied
      List.filter_sublist).filter (fun s => s.1 = a)
    have count := ((List.mergeSort_perm given startsBefore).filter (fun s => s.1 = a)).length_eq
    rw [List.filter_filter] at kept
    simp only [Bool.and_self] at kept
    exact (kept.eq_of_length count.symm).symm

section lines

variable {ws : List (List Char)} {line : List Char} {named : Option Symbol}

theorem address?_eq_some_iff {word : List Char} {a : UInt64} :
    address? word = some a ↔ Numeral.SpellsUnsigned 16 word a.toNat := by
  rw [← Numeral.unsigned?_eq_some_iff (by decide) (by decide), address?]
  cases Numeral.unsigned? 16 word with
  | none => simp
  | some n =>
    have range := a.toNat_lt_size
    by_cases small : n < UInt64.size
    · have value := UInt64.toNat_ofNat_of_lt' small
      simp [small, ← UInt64.toNat_inj, value]
    · simp only [small, ↓reduceIte, reduceCtorEq, Option.some.injEq, false_iff]
      omega

theorem symbolOfLine?_eq_none {first : List Char} {more : List (List Char)}
    (spaced : Text.Spaced (first :: more) line) (hidden : ∀ a, address? first = some a → a = 0) :
    symbolOfLine? line = none := by
  rw [symbolOfLine?, spaced.words_eq]
  split
  next word kind name rest shape =>
    obtain ⟨rfl, rfl⟩ := List.cons.inj shape
    cases address : address? first with
    | none => rfl
    | some a => simp [hidden a address]
  next => rfl

theorem symbolOfLine?_eq (spaced : Text.Spaced ws line) (names : Names ws named) :
    symbolOfLine? line = named := by
  cases names with
  | symbol address shown =>
    rw [symbolOfLine?, spaced.words_eq]
    simp [address?_eq_some_iff.mpr address, shown]
  | hidden address =>
    have zero := address?_eq_some_iff (a := 0).mpr address
    exact symbolOfLine?_eq_none spaced (fun a read => by simpa [zero] using read.symm)
  | unnumbered other =>
    refine symbolOfLine?_eq_none spaced (fun a read => ?_)
    exact absurd (address?_eq_some_iff.mp read) (other a.toNat a.toNat_lt_size)
  | few few =>
    rw [symbolOfLine?, spaced.words_eq]
    split
    next =>
      simp only [List.length_cons] at few
      omega
    next => rfl

theorem exists_names (ws : List (List Char)) : ∃ named, Names ws named := by
  match ws with
  | [] | [_] | [_, _] => exact ⟨none, .few (by simp)⟩
  | first :: kind :: name :: more =>
    by_cases numbered : ∃ n < UInt64.size, Numeral.SpellsUnsigned 16 first n
    · obtain ⟨n, small, address⟩ := numbered
      rw [← UInt64.toNat_ofNat_of_lt' small] at address
      by_cases hidden : UInt64.ofNat n = 0
      · rw [hidden] at address
        exact ⟨none, .hidden address⟩
      · exact ⟨some (UInt64.ofNat n, String.ofList name), .symbol address hidden⟩
    · exact ⟨none, .unnumbered (fun n small address => numbered ⟨n, small, address⟩)⟩

end lines

end SymbolTable

namespace Listing

open SymbolTable (symbolOfLine? symbolOfLine?_eq exists_names)

variable {text : List Char} {symbols : List Symbol}

theorem symbols_eq (listing : Listing text symbols) :
    (Text.lines text).filterMap symbolOfLine? = symbols := by
  induction listing with
  | @last _ line named unbroken spaced names =>
    rw [Text.lines_last unbroken]
    cases named <;> simp [symbolOfLine?_eq spaced names]
  | @line ws line ending rest named _ unbroken spaced names ends _ ih =>
    -- A carriage return at the end of a line is one blank more.
    have cut : ∃ whole, line ++ ending ++ rest = whole ++ '\n' :: rest ∧ '\n' ∉ whole ∧
        Text.Spaced ws whole := by
      rcases ends with rfl | rfl
      · exact ⟨line, by simp, unbroken, spaced⟩
      · exact ⟨line ++ ['\r'], by simp, by simpa using unbroken, spaced.append_blank (by decide)⟩
    obtain ⟨whole, shape, unbroken, spaced⟩ := cut
    rw [shape, Text.lines_line unbroken]
    cases named <;> simp [symbolOfLine?_eq spaced names, ih]

end Listing

theorem listing_symbols (text : List Char) :
    Listing text ((Text.lines text).filterMap SymbolTable.symbolOfLine?) := by
  have listed : ∃ symbols, Listing text symbols := by
    induction text using Text.lines_induction with
    | last line unbroken =>
      obtain ⟨named, names⟩ := SymbolTable.exists_names (Text.words line)
      exact ⟨_, .last unbroken (Text.spaced_words line) names⟩
    | line line rest unbroken ih =>
      obtain ⟨named, names⟩ := SymbolTable.exists_names (Text.words line)
      obtain ⟨symbols, others⟩ := ih
      have whole := Listing.line unbroken (Text.spaced_words line) names (.inl rfl) others
      rw [List.append_assoc] at whole
      exact ⟨_, whole⟩
  obtain ⟨symbols, listing⟩ := listed
  rwa [listing.symbols_eq]

namespace SymbolTable

theorem ofBytes?_eq (bytes : List UInt8) :
    ofBytes? bytes = (Utf8.decodeChars? bytes).map (fun text => ofLines (Text.lines text)) := by
  rw [ofBytes?, Utf8.mapM_decodeChars?, Option.map_map]
  rfl

theorem ofBytes?_encodeChars (text : List Char) :
    ofBytes? (Utf8.encodeChars text) = some (ofLines (Text.lines text)) := by
  rw [ofBytes?_eq, Utf8.decodeChars?_encodeChars, Option.map_some]

theorem ofBytes?_eq_none_iff (bytes : List UInt8) :
    ofBytes? bytes = none ↔ ¬ bytes.toByteArray.IsValidUTF8 := by
  simp [ofBytes?_eq, Option.eq_none_iff_forall_ne_some, Utf8.decodeChars?_eq_some_iff,
    Utf8.isValidUTF8_iff]

/-- Octets are refused when they are no UTF-8 as a whole, and the table of a listing has the symbols that
it names, in a stable order. -/
theorem listing_read_or_refused :
    (∀ bytes, ofBytes? bytes = none ↔ ¬ bytes.toByteArray.IsValidUTF8) ∧
      ∀ text symbols, Listing text symbols →
        ∃ t, ofBytes? (Utf8.encodeChars text) = some t ∧ StablySorted symbols t.symbols.toList := by
  refine ⟨ofBytes?_eq_none_iff, fun text symbols listing => ?_⟩
  refine ⟨ofLines (Text.lines text), ofBytes?_encodeChars text, ?_⟩
  rw [ofLines, listing.symbols_eq]
  exact ofSymbols_stablySorted symbols

def unevenListing : String :=
  "0 A hidden\n \t\nFFFFffff81000000 T _text\r\n0x10 T prefixed\n" ++
  "ffffFFFF81000000\u3000t\u3000startup [init]\n10000000000000000 T too_large\n" ++
  "+0000000000000000002000\tD\u2003early"

theorem uneven_listing_read :
    Listing unevenListing.toList [(0xFFFFFFFF81000000, "_text"), (0xFFFFFFFF81000000, "startup"),
        (0x2000, "early")] ∧
      ∃ t, ofBytes? (Utf8.encodeChars unevenListing.toList) = some t ∧
        StablySorted [(0xFFFFFFFF81000000, "_text"), (0xFFFFFFFF81000000, "startup"),
          (0x2000, "early")] t.symbols.toList := by
  have listing := listing_symbols unevenListing.toList
  have named : (Text.lines unevenListing.toList).filterMap symbolOfLine? =
      [(0xFFFFFFFF81000000, "_text"), (0xFFFFFFFF81000000, "startup"), (0x2000, "early")] := by
    decide +kernel
  rw [named] at listing
  exact ⟨listing, listing_read_or_refused.2 _ _ listing⟩

end SymbolTable

end SchedTelemetry
