import SchedTelemetry.Proofs.SymbolListing

set_option autoImplicit false

namespace SchedTelemetry.SymbolTable

/-- The last name listed for the greatest start at or below an address. The symbols of the greatest
start of all reach 64 KiB. -/
def scan (symbols : List Symbol) (address : UInt64) : Option String :=
  let starts := symbols.map (fun s => s.1.toNat)
  match (starts.filter (· ≤ address.toNat)).max? with
  | none => none
  | some m =>
    if starts.max? = some m ∧ 65536 ≤ address.toNat - m then none
    else (symbols.filter (fun s => s.1.toNat = m)).getLast?.map Prod.snd

section search

variable {symbols : Array Symbol} {address : UInt64}
  (ordered : ∀ i j (_ : i < symbols.size) (_ : j < symbols.size), i ≤ j →
    symbols[i].1 ≤ symbols[j].1)

include ordered

-- What lies below a range is at or below the address, and what lies beyond it is above.
theorem boundaryIn_parts (low high : Nat) (range : low ≤ high) (within : high ≤ symbols.size)
    (below : ∀ j (inside : j < symbols.size), j < low → symbols[j].1 ≤ address)
    (above : ∀ j (inside : j < symbols.size), high ≤ j → address < symbols[j].1)
    (j : Nat) (inside : j < symbols.size) :
    symbols[j].1 ≤ address ↔ j < (boundaryIn symbols address low high range within).val := by
  fun_induction boundaryIn symbols address low high range within with
  | case1 low high range within open_range middle inside_range reached ih =>
    refine ih (fun k _ before => ?_) above
    exact UInt64.le_trans (ordered k middle (by omega) (by omega) (by omega)) reached
  | case2 low high range within open_range middle inside_range missed ih =>
    refine ih below (fun k _ after => ?_)
    exact UInt64.lt_of_lt_of_le (UInt64.not_le.mp missed)
      (ordered middle k (by omega) (by omega) (by omega))
  | case3 low high range within closed =>
    refine ⟨fun reached => ?_, below j inside⟩
    by_contra beyond
    exact UInt64.not_le.mpr (above j inside (by dsimp only at beyond; omega)) reached

end search

theorem boundary_parts (t : SymbolTable) (address : UInt64) {j : Nat}
    (inside : j < t.symbols.toList.length) :
    t.symbols.toList[j].1 ≤ address ↔ j < (t.boundary address).val := by
  refine boundaryIn_parts ?_ _ _ _ _ (by omega) (by omega) j inside
  intro i j inside later earlier
  rcases Nat.eq_or_lt_of_le earlier with rfl | earlier
  · exact UInt64.le_refl _
  · exact List.pairwise_iff_getElem.mp t.sorted i j (by simpa) (by simpa) earlier

theorem exists_before_boundary (t : SymbolTable) (address : UInt64)
    (some_below : (t.boundary address).val ≠ 0) :
    ∃ s, t.symbols[(t.boundary address).val - 1]? = some s ∧ s.1 ≤ address := by
  have bound := (t.boundary address).property
  have inside : (t.boundary address).val - 1 < t.symbols.size := by omega
  refine ⟨_, Array.getElem?_eq_getElem inside, ?_⟩
  exact (boundary_parts t address (by simpa using inside)).mpr (by omega)

structure Parted (symbols : List Symbol) (address : UInt64) (front back : List Symbol) : Prop where
  whole : symbols = front ++ back
  below : ∀ s ∈ front, s.1 ≤ address
  above : ∀ s ∈ back, address < s.1

theorem boundary_parted (t : SymbolTable) (address : UInt64) :
    Parted t.symbols.toList address (t.symbols.toList.take (t.boundary address).val)
      (t.symbols.toList.drop (t.boundary address).val) where
  whole := (List.take_append_drop _ _).symm
  below := by
    intro s member
    obtain ⟨j, inside, rfl⟩ := List.mem_take_iff_getElem.mp member
    exact (boundary_parts t address (by omega)).mpr (by omega)
  above := by
    intro s member
    obtain ⟨j, inside, rfl⟩ := List.mem_drop_iff_getElem.mp member
    refine UInt64.not_le.mp (fun reached => ?_)
    have before := (boundary_parts t address (by omega)).mp reached
    omega

def nearest (front back : List Symbol) (address : UInt64) : Option String :=
  front.getLast?.bind (fun s =>
    if back = [] ∧ 65536 ≤ address.toNat - s.1.toNat then none else some s.2)

theorem resolve_eq_nearest (t : SymbolTable) (address : UInt64) :
    t.resolve address = nearest (t.symbols.toList.take (t.boundary address).val)
      (t.symbols.toList.drop (t.boundary address).val) address := by
  have bound := (t.boundary address).property
  by_cases first : (t.boundary address).val = 0
  · simp [resolve, nearest, first]
  · obtain ⟨s, there, reached⟩ := exists_before_boundary t address first
    obtain ⟨inside, here⟩ := Array.getElem?_eq_some_iff.mp there
    have last : (t.symbols.toList.take (t.boundary address).val).getLast? = some s := by
      rw [List.getLast?_take, if_neg first]
      simp [there]
    have alone : (t.boundary address).val = t.symbols.size ↔
        t.symbols.toList.drop (t.boundary address).val = [] := by
      rw [List.drop_eq_nil_iff, Array.length_toList]
      omega
    -- The distance does not wrap, as the symbol starts at or below the address.
    have far : lastSpan ≤ address - s.1 ↔ 65536 ≤ address.toNat - s.1.toNat := by
      rw [UInt64.le_iff_toNat_le, UInt64.toNat_sub_of_le _ _ reached]
      rfl
    simp [resolve, nearest, first, here, last, alone, far]

section scan

variable {given front back : List Symbol} {last : Symbol} {address : UInt64}

theorem scan_eq_none (above : ∀ s ∈ given, address < s.1) : scan given address = none := by
  have none_below : (given.map (fun s => s.1.toNat)).filter (· ≤ address.toNat) = [] := by
    refine List.filter_eq_nil_iff.mpr (fun start member => ?_)
    obtain ⟨s, listed, rfl⟩ := List.mem_map.mp member
    have beyond := UInt64.lt_iff_toNat_lt.mp (above s listed)
    simpa using beyond
  simp only [scan, none_below, List.max?_nil]

section nearest

variable (sort : StablySorted given (front ++ last :: back))
  (reached : last.1 ≤ address) (above : ∀ s ∈ back, address < s.1)

include sort

theorem mem_iff_of_parted (s : Symbol) : s ∈ given ↔ s ∈ front ∨ s = last ∨ s ∈ back := by
  rw [← sort.same.mem_iff, List.mem_append, List.mem_cons]

theorem start_le_of_front (s : Symbol) (member : s ∈ front) : s.1 ≤ last.1 :=
  (List.pairwise_append.mp sort.ordered).2.2 s member last (by simp)

include reached above

theorem greatest_start : ((given.map (fun s => s.1.toNat)).filter (· ≤ address.toNat)).max? =
    some last.1.toNat := by
  rw [List.max?_eq_some_iff]
  simp only [List.mem_filter, List.mem_map, decide_eq_true_eq, mem_iff_of_parted sort]
  refine ⟨⟨⟨last, by simp, rfl⟩, UInt64.le_iff_toNat_le.mp reached⟩, ?_⟩
  rintro _ ⟨⟨s, in_front | rfl | behind, rfl⟩, below⟩
  · exact UInt64.le_iff_toNat_le.mp (start_le_of_front sort s in_front)
  · exact Nat.le_refl _
  · exact absurd (UInt64.lt_iff_toNat_lt.mp (above s behind)) (by omega)

theorem greatest_of_all_iff : (given.map (fun s => s.1.toNat)).max? = some last.1.toNat ↔ back = [] := by
  rw [List.max?_eq_some_iff]
  simp only [List.mem_map, mem_iff_of_parted sort]
  constructor
  · rintro ⟨_, bound⟩
    refine List.eq_nil_iff_forall_not_mem.mpr (fun s behind => ?_)
    have beyond := UInt64.lt_iff_toNat_lt.mp (above s behind)
    have within := bound s.1.toNat ⟨s, by simp [behind], rfl⟩
    have := UInt64.le_iff_toNat_le.mp reached
    omega
  · rintro rfl
    refine ⟨⟨last, by simp, rfl⟩, ?_⟩
    rintro _ ⟨s, in_front | rfl | behind, rfl⟩
    · exact UInt64.le_iff_toNat_le.mp (start_le_of_front sort s in_front)
    · exact Nat.le_refl _
    · cases behind

theorem last_listed : (given.filter (fun s => s.1.toNat = last.1.toNat)).getLast? = some last := by
  have others : back.filter (fun s => s.1 = last.1) = [] := by
    refine List.filter_eq_nil_iff.mpr (fun s behind => ?_)
    simpa using (UInt64.ne_of_lt (UInt64.lt_of_le_of_lt reached (above s behind))).symm
  have kept := sort.stable last.1
  simp only [List.filter_append, List.filter_cons, others, decide_true, if_true] at kept
  simp only [UInt64.toNat_inj, ← kept, List.getLast?_append]
  rfl

theorem scan_eq_nearest : scan given address = nearest (front ++ [last]) back address := by
  simp [scan, nearest, greatest_start sort reached above, greatest_of_all_iff sort reached above,
    last_listed sort reached above]

end nearest

theorem nearest_eq_scan {sorted : List Symbol} (sort : StablySorted given sorted)
    (parted : Parted sorted address front back) : nearest front back address = scan given address := by
  obtain ⟨rfl, below, above⟩ := parted
  rcases List.eq_nil_or_concat front with rfl | ⟨front, last, rfl⟩
  · refine (scan_eq_none (fun s member => ?_)).symm
    exact above s (sort.same.mem_iff.mpr member)
  · rw [List.concat_eq_append] at below sort ⊢
    rw [List.append_assoc] at sort
    exact (scan_eq_nearest sort (below last (by simp)) above).symm

end scan

theorem resolve_eq_scan {given : List Symbol} {t : SymbolTable}
    (sort : StablySorted given t.symbols.toList) (address : UInt64) :
    t.resolve address = scan given address := by
  rw [resolve_eq_nearest]
  exact nearest_eq_scan sort (boundary_parted t address)

/-- In the table of any octets accepted, an address finds what a scan of their listing finds, and the search
ends at a symbol of the table that starts at or below the address. -/
theorem resolve_scans_listing {bytes : List UInt8} {t : SymbolTable} (read : ofBytes? bytes = some t) :
    ∃ text, bytes = Utf8.encodeChars text ∧ (∃ symbols, Listing text symbols) ∧
      ∀ symbols, Listing text symbols → ∀ address, t.resolve address = scan symbols address ∧
        ((t.boundary address).val ≠ 0 →
          ∃ s, t.symbols[(t.boundary address).val - 1]? = some s ∧ s.1 ≤ address) := by
  rw [ofBytes?_eq, Option.map_eq_some_iff] at read
  obtain ⟨text, decoded, rfl⟩ := read
  refine ⟨text, Utf8.decodeChars?_eq_some_iff.mp decoded, ⟨_, listing_symbols text⟩, ?_⟩
  intro symbols listing address
  refine ⟨resolve_eq_scan ?_ address, exists_before_boundary _ address⟩
  rw [ofLines, listing.symbols_eq]
  exact ofSymbols_stablySorted symbols

def crowdedListing : String :=
  "fffffffffff00000 T summit\n2000 T middle\n1000 T first\nfffffffffff00000 t peak\n1000 t second"

theorem crowded_listing_scanned :
    ∃ t, ofBytes? (Utf8.encodeChars crowdedListing.toList) = some t ∧ t.resolve 0xFFF = none ∧
      t.resolve 0x1FFF = some "second" ∧ t.resolve 0xFFFFFFFFFFF0FFFF = some "peak" ∧
      t.resolve 0xFFFFFFFFFFF10000 = none ∧ t.resolve 0xFFFFFFFFFFFFFFFF = none := by
  have read := ofBytes?_encodeChars crowdedListing.toList
  obtain ⟨text, same, _, found⟩ := resolve_scans_listing read
  obtain rfl := Utf8.encodeChars_injective same
  have listing := listing_symbols crowdedListing.toList
  have named : (Text.lines crowdedListing.toList).filterMap symbolOfLine? =
      [(0xFFFFFFFFFFF00000, "summit"), (0x2000, "middle"), (0x1000, "first"),
        (0xFFFFFFFFFFF00000, "peak"), (0x1000, "second")] := by
    decide +kernel
  rw [named] at listing
  have scanned (address : UInt64) := (found _ listing address).1
  refine ⟨_, read, ?_⟩
  simp only [scanned]
  decide +kernel

end SchedTelemetry.SymbolTable
