import SchedTelemetry.ProbeOptions
import SchedTelemetry.Proofs.RecordLayout
import SchedTelemetry.Proofs.Utf8Cuts

set_option autoImplicit false

namespace SchedTelemetry

namespace LittleEndian

section slots

variable {α : Type} {write : α → List UInt8} {width : Nat}

theorem length_slots (fills : ∀ x, (write x).length = width) (xs : List α) :
    (xs.flatMap write).length = width * xs.length := by
  induction xs with
  | nil => rfl
  | cons x rest ih =>
    rw [List.flatMap_cons, List.length_append, fills, ih, List.length_cons, Nat.mul_succ, Nat.add_comm]

theorem field_slot (fills : ∀ x, (write x).length = width) {xs : List α} {i : Nat} {x : α}
    (here : xs[i]? = some x) (rest : List UInt8) :
    field (xs.flatMap write ++ rest) (width * i) width = write x := by
  induction xs generalizing i with
  | nil => simp at here
  | cons y more ih =>
    rw [List.flatMap_cons, List.append_assoc]
    cases i with
    | zero =>
      obtain rfl : y = x := by simpa using here
      exact field_first (fills y)
    | succ i =>
      have past : (write y).length ≤ width * (i + 1) := by
        rw [fills, Nat.mul_succ]
        omega
      have offset : width * (i + 1) - (write y).length = width * i := by
        rw [fills, Nat.mul_succ]
        omega
      rw [field_past past, offset]
      exact ih (by simpa using here)

theorem getElem?_field {r : List UInt8} {offset i : Nat} (inside : i < width) :
    (field r offset width)[i]? = r[offset + i]? := by
  rw [field, List.getElem?_take_of_lt inside, List.getElem?_drop]

theorem field_drop (r : List UInt8) (start offset width : Nat) :
    field (r.drop start) offset width = field r (start + offset) width := by
  rw [field, field, List.drop_drop]

theorem byteAt_eq (r : List UInt8) (offset : Nat) : byteAt r offset = r[offset]?.getD 0 := by
  rw [byteAt, field]
  cases octets : r.drop offset with
  | nil => simp [decode, List.getElem?_eq_none (List.drop_eq_nil_iff.mp octets)]
  | cons b rest =>
    have first : (r.drop offset)[0]? = some b := by simp [octets]
    rw [List.getElem?_drop] at first
    simp_all [decode]

end slots

end LittleEndian

open LittleEndian

theorem getElem?_filled {α : Type} {xs : List α} {n i : Nat} (z : α) (inside : i < n) :
    (xs ++ List.replicate (n - xs.length) z)[i]? = some (xs[i]?.getD z) := by
  by_cases listed : i < xs.length
  · simp [List.getElem?_append_left listed, listed]
  · have beyond : xs.length ≤ i := Nat.not_lt.mp listed
    have room : i - xs.length < n - xs.length := by omega
    simp [List.getElem?_append_right beyond, List.getElem?_eq_none beyond, room]

namespace ProbeOptions

structure Fits (o : ProbeOptions) : Prop where
  pids : o.pids.length ≤ capacity
  names : o.names.length ≤ capacity

theorem build_fits (s : Switches) (f : TaskFilter) : (build s f).Fits where
  pids := List.length_take_le capacity f.pids
  names := by
    rw [build, List.length_map]
    exact List.length_take_le capacity f.names

section image

variable {o : ProbeOptions}

def header (o : ProbeOptions) : List UInt8 :=
  switchBytes o.switches ++ ofUInt32 (UInt32.ofNat o.pids.length)
    ++ ofUInt32 (UInt32.ofNat o.names.length)

theorem image_eq (o : ProbeOptions) : o.image = o.header ++ pidTable o.pids ++ nameTable o.names := rfl

theorem length_switchBytes (s : Switches) : (switchBytes s).length = 16 := List.length_map _

theorem length_header (o : ProbeOptions) : o.header.length = pidsAt := by
  simp [header, length_switchBytes, pidsAt]

theorem length_pidTable (fits : o.Fits) : (pidTable o.pids).length = 4 * capacity := by
  rw [pidTable, length_slots length_ofInt32, List.length_append, List.length_replicate,
    Nat.add_sub_cancel' fits.pids]

theorem length_nameTable (fits : o.Fits) : (nameTable o.names).length = nameWidth * capacity := by
  rw [nameTable, length_slots (FixedText.length_fit nameWidth), List.length_append,
    List.length_replicate, Nat.add_sub_cancel' fits.names]

theorem length_image (fits : o.Fits) : o.image.length = imageSize := by
  rw [image_eq, List.length_append, List.length_append, length_header, length_pidTable fits,
    length_nameTable fits]
  rfl

theorem image_switch (o : ProbeOptions) {i : Nat} (inside : i < 16) :
    o.image[i]? = Switch.all[i]?.map (fun x => if o.switches.isOn x then 1 else 0) := by
  have here : i < (switchBytes o.switches).length := by rwa [length_switchBytes]
  rw [image_eq, header, List.append_assoc, List.append_assoc, List.append_assoc,
    List.getElem?_append_left here, switchBytes, List.getElem?_map]

theorem image_pidCount (o : ProbeOptions) : uint32At o.image 16 = UInt32.ofNat o.pids.length := by
  have past : (switchBytes o.switches).length ≤ 16 := Nat.le_of_eq (length_switchBytes _)
  simp only [image, List.append_assoc]
  rw [uint32At_past past, length_switchBytes]
  exact uint32At_ofUInt32 _ _

theorem image_nameCount (o : ProbeOptions) :
    uint32At o.image 20 = UInt32.ofNat o.names.length := by
  have past : (switchBytes o.switches ++ ofUInt32 (UInt32.ofNat o.pids.length)).length = 20 := by
    simp [length_switchBytes]
  simp only [image, List.append_assoc]
  rw [← List.append_assoc, uint32At_past (Nat.le_of_eq past), past]
  exact uint32At_ofUInt32 _ _

theorem toNat_count {n : Nat} (small : n ≤ capacity) : (UInt32.ofNat n).toNat = n :=
  UInt32.toNat_ofNat_of_lt' (Nat.lt_of_le_of_lt small (by decide))

theorem image_pid (o : ProbeOptions) {j : Nat} (inside : j < capacity) :
    field o.image (pidsAt + 4 * j) 4 = ofInt32 (o.pids[j]?.getD 0) := by
  have past : o.header.length ≤ pidsAt + 4 * j := by
    rw [length_header]
    omega
  rw [image_eq, List.append_assoc, field_past past, length_header, Nat.add_sub_cancel_left, pidTable]
  exact field_slot length_ofInt32 (getElem?_filled 0 inside) _

theorem image_name (fits : o.Fits) {j : Nat} (inside : j < capacity) :
    field o.image (namesAt + nameWidth * j) nameWidth =
      FixedText.fit nameWidth (o.names[j]?.getD []) := by
  have past : (o.header ++ pidTable o.pids).length = namesAt := by
    rw [List.length_append, length_header, length_pidTable fits]
    rfl
  rw [image_eq, field_past (by omega), past, Nat.add_sub_cancel_left]
  have here := @getElem?_filled _ o.names capacity j [] inside
  have slot := field_slot (FixedText.length_fit nameWidth) here []
  rwa [List.append_nil, ← nameTable] at slot

theorem switchesAt_image (o : ProbeOptions) : switchesAt o.image = o.switches := by
  ext x
  have listed : Switch.all[Switch.all.idxOf x]? = some x := by cases x <;> rfl
  have inside : Switch.all.idxOf x < 16 := List.idxOf_lt_length_of_mem (Switch.mem_all x)
  have octet := image_switch o inside
  rw [listed, Option.map_some] at octet
  cases on : o.switches.isOn x <;> simp [switchesAt, byteAt_eq, octet, on]

theorem map_slots {α β : Type} {table : List UInt8} {width : Nat} {xs : List α} {read : List UInt8 → β}
    {shown : α → β} (here : ∀ i x, xs[i]? = some x → read (field table (width * i) width) = shown x) :
    (slots width table xs.length).map read = xs.map shown := by
  apply List.ext_getElem?
  intro i
  cases listed : xs[i]? with
  | none =>
    have beyond : xs.length ≤ i := List.getElem?_eq_none_iff.mp listed
    simp [slots, Nat.not_lt.mpr beyond]
  | some x =>
    obtain ⟨inside, rfl⟩ := List.getElem?_eq_some_iff.mp listed
    simp [slots, inside, here i _ listed]

theorem ofImage_image (fits : o.Fits) :
    ofImage o.image =
      ⟨o.switches, o.pids, o.names.map fun name => FixedText.shown (FixedText.fit nameWidth name)⟩ := by
  have pids : (slots 4 (o.image.drop pidsAt) o.pids.length).map (fun slot => int32At slot 0) =
      o.pids.map id := by
    apply map_slots
    intro i pid listed
    have inside : i < capacity :=
      Nat.lt_of_lt_of_le (List.getElem?_eq_some_iff.mp listed).1 fits.pids
    have read := int32At_ofInt32 pid []
    rw [List.append_nil] at read
    rw [field_drop, image_pid o inside, listed]
    exact read
  have names : (slots nameWidth (o.image.drop namesAt) o.names.length).map FixedText.shown =
      o.names.map (fun name => FixedText.shown (FixedText.fit nameWidth name)) := by
    apply map_slots
    intro i name listed
    have inside : i < capacity :=
      Nat.lt_of_lt_of_le (List.getElem?_eq_some_iff.mp listed).1 fits.names
    rw [field_drop, image_name fits inside, listed]
    rfl
  rw [ofImage, switchesAt_image, image_pidCount, image_nameCount, toNat_count fits.pids,
    toNat_count fits.names, pids, names, List.map_id]

end image

/-- What stands where in the image of the options for these switches and this filter. -/
structure Shows (image : List UInt8) (s : Switches) (f : TaskFilter) : Prop where
  size : image.length = 24 + 4 * 128 + 16 * 128
  switches : ∀ i < 16, image[i]? =
    ([.loadAvgCpu, .runnableAvgCpu, .utilAvgCpu, .utilAvgRt, .utilAvgDl, .utilAvgIrq,
      .loadAvgThermal, .utilEstCpu, .loadAvgTask, .runnableAvgTask, .utilAvgTask, .utilEstTask,
      .nrRunning, .idle, .loadBalance, .ipi] : List Switch)[i]?.map
      (fun x => if s.isOn x then 1 else 0)
  pidCount : (uint32At image 16).toNat = min 128 f.pids.length
  nameCount : (uint32At image 20).toNat = min 128 f.names.length
  pids : ∀ j < 128, field image (24 + 4 * j) 4 =
    match f.pids[j]? with
    | some pid => ofInt32 pid
    | none => List.replicate 4 0
  names : ∀ j < 128, field image (24 + 4 * 128 + 16 * j) 16 =
    match f.names[j]? with
    | some name =>
      (Utf8.encode name).take 15 ++ List.replicate (16 - min 15 (Utf8.encode name).length) 0
    | none => List.replicate 16 0
  terminated : ∀ j < 128, image[24 + 4 * 128 + 16 * j + 15]? = some 0

def toFilter? (o : ProbeOptions) : Option TaskFilter :=
  (o.names.mapM Utf8.decode?).map (⟨o.pids, ·⟩)

theorem length_cutName_le (name : String) : (cutName name).length ≤ 15 :=
  List.length_take_le 15 (Utf8.encode name)

theorem fit_cutName (name : String) :
    FixedText.fit nameWidth (cutName name) =
      (Utf8.encode name).take 15 ++ List.replicate (16 - min 15 (Utf8.encode name).length) 0 := by
  have short := length_cutName_le name
  rw [FixedText.fit_eq (Nat.le_trans short (by decide)), cutName, List.length_take]
  rfl

section build

variable (s : Switches) (f : TaskFilter)

theorem build_pid {j : Nat} (inside : j < 128) : (build s f).pids[j]? = f.pids[j]? :=
  List.getElem?_take_of_lt inside

theorem build_name {j : Nat} (inside : j < 128) :
    (build s f).names[j]? = f.names[j]?.map cutName := by
  rw [build, List.getElem?_map]
  exact congrArg _ (List.getElem?_take_of_lt inside)

theorem image_build_name {j : Nat} (inside : j < 128) :
    field (build s f).image (24 + 4 * 128 + 16 * j) 16 =
      match f.names[j]? with
      | some name =>
        (Utf8.encode name).take 15 ++ List.replicate (16 - min 15 (Utf8.encode name).length) 0
      | none => List.replicate 16 0 := by
  have slot := image_name (build_fits s f) inside
  rw [build_name s f inside] at slot
  cases listed : f.names[j]? with
  | none =>
    rw [listed] at slot
    exact slot
  | some name =>
    rw [listed, Option.map_some, Option.getD_some, fit_cutName] at slot
    exact slot

theorem image_shows : Shows (build s f).image s f where
  size := length_image (build_fits s f)
  switches _ inside := image_switch _ inside
  pidCount := by
    rw [image_pidCount, toNat_count (build_fits s f).pids]
    exact List.length_take
  nameCount := by
    rw [image_nameCount, toNat_count (build_fits s f).names, build, List.length_map]
    exact List.length_take
  pids := by
    intro j inside
    have slot := image_pid (build s f) inside
    rw [build_pid s f inside] at slot
    cases listed : f.pids[j]? with
    | none =>
      rw [listed] at slot
      exact slot
    | some pid =>
      rw [listed] at slot
      exact slot
  names _ inside := image_build_name s f inside
  terminated := by
    intro j inside
    rw [← getElem?_field (show 15 < 16 by decide), image_build_name s f inside]
    cases f.names[j]? with
    | none => rfl
    | some name =>
      -- A name is cut before the last octet of its place.
      have before : ((Utf8.encode name).take 15).length ≤ 15 := length_cutName_le name
      rw [List.getElem?_append_right before, List.getElem?_replicate, if_pos]
      rw [List.length_take]
      omega

theorem shown_fit_cutName (name : String) :
    FixedText.shown (FixedText.fit nameWidth (cutName name)) = FixedText.shown (cutName name) := by
  have short : (FixedText.shown (cutName name)).length ≤ nameWidth :=
    Nat.le_trans (List.takeWhile_sublist _).length_le
      (Nat.le_trans (length_cutName_le name) (by decide))
  rw [FixedText.shown_fit_eq_take, List.take_of_length_le short]

theorem ofImage_build :
    ofImage (build s f).image =
      ⟨s, f.pids.take capacity, (f.names.take capacity).map fun name => FixedText.shown (cutName name)⟩ := by
  rw [ofImage_image (build_fits s f)]
  simp only [build, List.map_map, Function.comp_def, shown_fit_cutName]

theorem ofImage_build_of_few (few_pids : f.pids.length ≤ 128) (few_names : f.names.length ≤ 128) :
    ofImage (build s f).image =
      ⟨s, f.pids, f.names.map fun name => FixedText.shown (cutName name)⟩ := by
  have pids : f.pids.take capacity = f.pids := List.take_of_length_le few_pids
  have names : f.names.take capacity = f.names := List.take_of_length_le few_names
  rw [ofImage_build, pids, names]

def Whole (name : String) : Prop := name.utf8ByteSize ≤ 15 ∧ '\x00' ∉ name.toList

theorem shown_cutName_of_whole {name : String} (whole : Whole name) :
    FixedText.shown (cutName name) = Utf8.encode name := by
  have short : (Utf8.encode name).length ≤ nameWidth - 1 := by
    rw [Utf8.length_encode]
    exact whole.1
  have no_nul : 0 ∉ Utf8.encode name := fun zero => whole.2 (Utf8.zero_mem_encodeChars_iff.mp zero)
  rw [cutName, List.take_of_length_le short, FixedText.shown_eq_self no_nul]

/-- The image of the options is laid out as the probes expect it. Of a filter it tells the first 128 pids
and the first 128 names, each up to its fifteenth octet or to a NUL before, so that a filter that fits is
told as it is. -/
theorem image_reads_back :
    Shows (build s f).image s f ∧
      ofImage (build s f).image =
        ⟨s, f.pids.take 128,
          (f.names.take 128).map fun name => ((Utf8.encode name).take 15).takeWhile (· != 0)⟩ ∧
      ((∀ name ∈ f.names.take 128, 0 ∉ (Utf8.encode name).take 15) →
        ofImage (build s f).image =
          ⟨s, f.pids.take 128, (f.names.take 128).map fun name => (Utf8.encode name).take 15⟩) ∧
      (f.pids.length ≤ 128 → f.names.length ≤ 128 → (∀ name ∈ f.names, Whole name) →
        (ofImage (build s f).image).toFilter? = some f) := by
  refine ⟨image_shows s f, ofImage_build s f, ?_, ?_⟩
  · intro no_nul
    have names : (f.names.take capacity).map (fun name => FixedText.shown (cutName name)) =
        (f.names.take 128).map fun name => (Utf8.encode name).take 15 :=
      List.map_congr_left fun name member => FixedText.shown_eq_self (no_nul name member)
    rw [ofImage_build, names]
    rfl
  · intro few_pids few_names whole
    have names : f.names.map (fun name => FixedText.shown (cutName name)) =
        f.names.map Utf8.encode :=
      List.map_congr_left fun name member => shown_cutName_of_whole (whole name member)
    rw [ofImage_build_of_few s f few_pids few_names, names, toFilter?,
      mapM_map_of_inverse Utf8.decode?_encode, Option.map_some]

end build

theorem full_name_reads_back :
    let f : TaskFilter := ⟨[-1, 42], ["kworker/0:1-eve", "", "é"]⟩
    (∀ name ∈ f.names, Whole name) ∧
      (ofImage (build .every f).image).toFilter? = some f ∧
      (ofImage (build .every ⟨[], ["irq/128-nvme0q10"]⟩).image).names =
        [Utf8.encode "irq/128-nvme0q1"] := by
  intro f
  have whole : ∀ name ∈ f.names, Whole name := by
    intro name member
    simp only [f, List.mem_cons, List.not_mem_nil, or_false] at member
    rcases member with rfl | rfl | rfl <;> exact ⟨by decide, by decide⟩
  obtain ⟨-, -, cut, -⟩ := image_reads_back .every ⟨[], ["irq/128-nvme0q10"]⟩
  exact ⟨whole, (image_reads_back .every f).2.2.2 (by decide) (by decide) whole,
    congrArg ProbeOptions.names (cut (by decide))⟩

end ProbeOptions

end SchedTelemetry
