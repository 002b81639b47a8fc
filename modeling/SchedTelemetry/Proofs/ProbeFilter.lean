import SchedTelemetry.Proofs.ProbeImage

set_option autoImplicit false

namespace SchedTelemetry

theorem TaskFilter.accepts_iff {f : TaskFilter} {pid : Int32} {name : String} :
    f.accepts pid name = true ↔
      (f.pids = [] ∧ f.names = []) ∨ pid ∈ f.pids ∨ ∃ part ∈ f.names, part.toList <:+: name.toList := by
  simp [accepts, isEmpty, occursIn_iff, or_assoc]

namespace ProbeOptions

theorem accepts_iff {o : ProbeOptions} {pid : Int32} {name : List UInt8} :
    o.accepts pid name = true ↔
      (o.pids = [] ∧ o.names = []) ∨ pid ∈ o.pids ∨
        ∃ part ∈ o.names, FixedText.shown part <:+: name := by
  simp [accepts, occursIn_iff, or_assoc]

section tables

variable (s : Switches) (f : TaskFilter)

theorem accepts_tables_iff (few_pids : f.pids.length ≤ 128) (few_names : f.names.length ≤ 128)
    {pid : Int32} {name : List UInt8} :
    (ofImage (build s f).image).accepts pid name = true ↔
      (f.pids = [] ∧ f.names = []) ∨ pid ∈ f.pids ∨
        ∃ part ∈ f.names, FixedText.shown (cutName part) <:+: name := by
  have named :
      (∃ part ∈ f.names.map fun part => FixedText.shown (cutName part),
        FixedText.shown part <:+: name) ↔
        ∃ part ∈ f.names, FixedText.shown (cutName part) <:+: name := by
    constructor
    · rintro ⟨_, member, occurs⟩
      obtain ⟨part, listed, rfl⟩ := List.mem_map.mp member
      rw [FixedText.shown_shown] at occurs
      exact ⟨part, listed, occurs⟩
    · rintro ⟨part, listed, occurs⟩
      rw [← FixedText.shown_shown] at occurs
      exact ⟨_, List.mem_map_of_mem listed, occurs⟩
  rw [accepts_iff, ofImage_build_of_few s f few_pids few_names, List.map_eq_nil_iff, named]

theorem shown_cutName_occurs {part name : String} (occurs : part.toList <:+: name.toList) :
    FixedText.shown (cutName part) <:+: Utf8.encode name := by
  have begins : FixedText.shown (cutName part) <+: Utf8.encode part :=
    (List.takeWhile_prefix _).trans (List.take_prefix _ _)
  exact begins.isInfix.trans (Utf8.infix_encodeChars_iff.mpr occurs)

theorem tables_accept (few_pids : f.pids.length ≤ 128) (few_names : f.names.length ≤ 128) :
    (∀ pid name, f.accepts pid name = true →
      (ofImage (build s f).image).accepts pid (Utf8.encode name) = true) ∧
    ((∀ name ∈ f.names, Whole name) → ∀ pid name,
      (ofImage (build s f).image).accepts pid (Utf8.encode name) = f.accepts pid name) := by
  constructor
  · intro pid name accepted
    rw [accepts_tables_iff s f few_pids few_names]
    rcases TaskFilter.accepts_iff.mp accepted with nothing | listed | ⟨part, listed, occurs⟩
    · exact .inl nothing
    · exact .inr (.inl listed)
    · exact .inr (.inr ⟨part, listed, shown_cutName_occurs occurs⟩)
  · intro whole pid name
    have occurs_iff (part : String) (listed : part ∈ f.names) :
        FixedText.shown (cutName part) <:+: Utf8.encode name ↔ part.toList <:+: name.toList := by
      rw [shown_cutName_of_whole (whole part listed)]
      exact Utf8.infix_encodeChars_iff
    have named : (∃ part ∈ f.names, FixedText.shown (cutName part) <:+: Utf8.encode name) ↔
        ∃ part ∈ f.names, part.toList <:+: name.toList :=
      exists_congr fun part => and_congr_right (occurs_iff part)
    rw [Bool.eq_iff_iff, accepts_tables_iff s f few_pids few_names, TaskFilter.accepts_iff, named]

end tables

-- The first name is cut inside its last character, so that the probes let one task more through.
theorem cut_tables_accept :
    let f : TaskFilter := ⟨[7], ["kworker/event_é", "a\x00b"]⟩
    let g : TaskFilter := ⟨[-1], ["é", "rcu"]⟩
    (f.accepts 1 "kworker/event_é" = true ∧
      (ofImage (build .none f).image).accepts 1 (Utf8.encode "kworker/event_é") = true) ∧
    (f.accepts 1 "kworker/event_ê" = false ∧
      (ofImage (build .none f).image).accepts 1 (Utf8.encode "kworker/event_ê") = true) ∧
    (ofImage (build .none g).image).accepts 1 (Utf8.encode "caféine") = g.accepts 1 "caféine" := by
  intro f g
  have whole : ∀ name ∈ g.names, Whole name := by
    intro name member
    simp only [g, List.mem_cons, List.not_mem_nil, or_false] at member
    rcases member with rfl | rfl <;> exact ⟨by decide, by decide⟩
  have accepted : f.accepts 1 "kworker/event_é" = true := by decide
  exact ⟨⟨accepted, (tables_accept .none f (by decide) (by decide)).1 _ _ accepted⟩,
    by decide +kernel, (tables_accept .none g (by decide) (by decide)).2 whole _ _⟩

end ProbeOptions

end SchedTelemetry
