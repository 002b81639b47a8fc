import Mathlib.Data.List.TakeWhile
import SchedTelemetry.CommandLine.Write
import SchedTelemetry.Proofs.DurationReading

set_option autoImplicit false

namespace SchedTelemetry

theorem Flag.mem_all (f : Flag) : f ∈ all := by
  cases f with
  | switch x => exact List.mem_append_left _ (List.mem_map_of_mem x.mem_all)
  | verbose | help | version => decide

theorem Setting.mem_all (s : Setting) : s ∈ all := by
  cases s <;> decide

theorem Flag.ofName?_name (f : Flag) : ofName? f.name.toList = some f := by
  have each : ∀ f ∈ all, ofName? f.name.toList = some f := by decide +kernel
  exact each f f.mem_all

theorem Flag.ofName?_settingName (s : Setting) : ofName? s.name.toList = none := by
  have each : ∀ s ∈ Setting.all, ofName? s.name.toList = none := by decide +kernel
  exact each s s.mem_all

theorem Setting.ofName?_name (s : Setting) : ofName? s.name.toList = some s := by
  have each : ∀ s ∈ all, ofName? s.name.toList = some s := by decide +kernel
  exact each s s.mem_all

theorem Flag.name_injective {f g : Flag} (same : f.name = g.name) : f = g := by
  have read := f.ofName?_name
  rw [same, g.ofName?_name] at read
  exact (Option.some.inj read).symm

theorem Setting.name_injective {s t : Setting} (same : s.name = t.name) : s = t := by
  have read := s.ofName?_name
  rw [same, t.ofName?_name] at read
  exact (Option.some.inj read).symm

theorem Flag.name_plain (f : Flag) : '=' ∉ f.name.toList ∧ f.name.toList ≠ [] := by
  have each : ∀ f ∈ all, '=' ∉ f.name.toList ∧ f.name.toList ≠ [] := by decide +kernel
  exact each f f.mem_all

theorem Setting.name_plain (s : Setting) : '=' ∉ s.name.toList := by
  have each : ∀ s ∈ all, '=' ∉ s.name.toList := by decide +kernel
  exact each s s.mem_all

abbrev ArgumentName := Flag ⊕ Setting

def ArgumentName.isRepeatable : ArgumentName → Bool
  | .inl _ => false
  | .inr s => s.isRepeatable

namespace Choice

def name : Choice → ArgumentName
  | .switch x => .inl (.switch x)
  | .verbose => .inl .verbose
  | .pid _ => .inr .pid
  | .taskName _ => .inr .taskName
  | .output _ => .inr .output
  | .outputDirectory _ => .inr .outputDirectory
  | .format _ => .inr .format
  | .probeObject _ => .inr .probeObject
  | .pollTimeout _ => .inr .pollTimeout
  | .pollInterval _ => .inr .pollInterval
  | .batchSize _ => .inr .batchSize

def Valid : Choice → Prop
  | .outputDirectory path => path ≠ ""
  | .probeObject path => path ≠ ""
  | .pollTimeout d => d.nanoseconds < UInt64.size
  | .pollInterval d => d.nanoseconds < UInt64.size
  | .batchSize n => n < UInt64.size
  | _ => True

def Compatible (v w : Choice) : Prop := v.name = w.name → w.name.isRepeatable = true

theorem toList_lead (w : Choice) :
    w.lead.toList = '-' :: '-' ::
      match w.name with
      | .inl f => f.name.toList
      | .inr s => s.name.toList ++ ['='] := by
  cases w with
  | switch x => cases x <;> simp [lead, Switch.lead, name, Flag.name, Switch.flagName]
  | verbose => simp [lead, name, Flag.name]
  | _ => simp [lead, name, Setting.name]

theorem toList_argument (w : Choice) :
    w.argument.toList = '-' :: '-' ::
      match w.name with
      | .inl f => f.name.toList
      | .inr s => s.name.toList ++ '=' :: w.value.toList := by
  rw [argument, String.toList_append, toList_lead]
  cases w <;> simp [name, value]

end Choice

namespace CommandLine

def choose (c : CommandLine) : Choice → CommandLine
  | .switch x => { c with switches := c.switches.turnOn x }
  | .verbose => { c with verbose := true }
  | .pid p => { c with pids := c.pids ++ [p] }
  | .taskName name => { c with taskNames := c.taskNames ++ [name] }
  | .output name => { c with output := some name }
  | .outputDirectory path => { c with outputDirectory := some path }
  | .format f => { c with format := f }
  | .probeObject path => { c with probeObject := path }
  | .pollTimeout d => { c with pollTimeout := some d }
  | .pollInterval d => { c with pollInterval := some d }
  | .batchSize n => { c with batchSize := n }

theorem pid?_intDigits (p : Int32) : pid? (Numeral.intDigits 10 p.toInt) = some p := by
  have low : Int32.minValue.toInt ≤ p.toInt := p.le_toInt
  have high : p.toInt ≤ Int32.maxValue.toInt := Int.le_of_lt_add_one p.toInt_lt
  simp only [pid?, Numeral.signed?_intDigits, low, high, and_self, if_true, Int32.ofInt_toInt]

theorem size?_digits {n : Nat} (bounded : n < UInt64.size) : size? (Numeral.digits 10 n) = some n := by
  have plain : '+' ∉ Numeral.digits 10 n := Numeral.not_mem_digits (by decide) n
  simp [size?, Numeral.unsigned?_digits (by decide) (by decide) n plain, bounded]

theorem path?_of_ne_empty {path : String} (some_char : path ≠ "") : path? path = some path := by
  simp [path?, some_char]

theorem raise_name {w : Choice} {f : Flag} (name : w.name = .inl f) (c : CommandLine) :
    c.raise f = .ok (c.choose w) := by
  cases w with
  | switch | verbose =>
    obtain rfl := Sum.inl.inj name
    rfl
  | _ => cases name

theorem set_value {w : Choice} (valid : w.Valid) {s : Setting} (name : w.name = .inr s)
    (c : CommandLine) : c.set s w.value = .ok (c.choose w) := by
  cases w with
  | switch | verbose => cases name
  | pid p =>
    obtain rfl := Sum.inr.inj name
    simp [set, Choice.value, pid?_intDigits, orRefuse, Except.map, choose]
  | format f =>
    obtain rfl := Sum.inr.inj name
    cases f <;> rfl
  | outputDirectory path | probeObject path =>
    obtain rfl := Sum.inr.inj name
    simp [set, Choice.value, path?_of_ne_empty valid, orRefuse, Except.map, choose]
  | batchSize n =>
    obtain rfl := Sum.inr.inj name
    simp [set, Choice.value, size?_digits valid, orRefuse, Except.map, choose]
  | pollTimeout d | pollInterval d =>
    obtain rfl := Sum.inr.inj name
    simp [set, Choice.value, Duration.read?_nanoseconds valid, orRefuse, Except.map, choose]
  | taskName | output =>
    obtain rfl := Sum.inr.inj name
    rfl

end CommandLine

namespace ArgumentReader

section splitting

variable {name : List Char} (plain : '=' ∉ name)

include plain

theorem ne_of_mem_plain : ∀ c ∈ name, (c != '=') = true := by
  intro c member
  simpa using fun equals : c = '=' => plain (equals ▸ member)

theorem splitValue_plain : splitValue name = (name, none) := by
  simp only [splitValue, List.dropWhile_eq_nil_iff.mpr (ne_of_mem_plain plain)]

theorem splitValue_attached (value : List Char) :
    splitValue (name ++ '=' :: value) = (name, some value) := by
  have before := ne_of_mem_plain plain
  simp [splitValue, List.dropWhile_append_of_pos before, List.takeWhile_append_of_pos before]

end splitting

-- No argument is left waiting for its value, and options are still read as such.
structure Ready (r : ArgumentReader) : Prop where
  settled : r.awaited = none
  options : r.onlyOperands = false

def Given (r : ArgumentReader) : ArgumentName → Prop
  | .inl f => f ∈ r.flags
  | .inr s => s ∈ r.settings

def note (r : ArgumentReader) (w : Choice) : ArgumentReader :=
  { r with
    line := r.line.choose w
    flags := w.name.getLeft?.toList ++ r.flags
    settings := w.name.getRight?.toList ++ r.settings }

variable {r : ArgumentReader}

theorem given_note {w : Choice} {name : ArgumentName} :
    (r.note w).Given name ↔ name = w.name ∨ r.Given name := by
  cases name <;> cases chosen : w.name <;> simp [Given, note, chosen]

theorem ready_note (ready : r.Ready) (w : Choice) : (r.note w).Ready :=
  ⟨ready.settled, ready.options⟩

theorem Ready.settle_eq (ready : r.Ready) : r.settle = .ok r := by
  simp only [settle, ready.settled]

section reading

variable (ready : r.Ready) {arg : String}

include ready

theorem Ready.read_long {rest : List Char} (some_char : rest ≠ [])
    (text : arg.toList = '-' :: '-' :: rest) : r.read arg = r.readLong rest := by
  obtain ⟨c, more, rfl⟩ := List.exists_cons_of_ne_nil some_char
  simp only [read, ready.options, text, Bool.false_eq_true, if_false]

theorem Ready.read_flag {f : Flag} (text : arg.toList = '-' :: '-' :: f.name.toList)
    (fresh : f ∉ r.flags) :
    r.read arg = (r.line.raise f).map fun line => { r with line, flags := f :: r.flags } := by
  obtain ⟨plain, some_char⟩ := f.name_plain
  simp only [ready.read_long some_char text, readLong, splitValue_plain plain, Flag.ofName?_name]
  simp [raise, ready.settle_eq, Except.bind, fresh]

theorem Ready.read_setting {s : Setting} {value : String}
    (text : arg.toList = '-' :: '-' :: (s.name.toList ++ '=' :: value.toList))
    (fresh : s.isRepeatable = true ∨ s ∉ r.settings) :
    r.read arg = (r.line.set s value).map fun line => { r with line, settings := s :: r.settings } := by
  have free : (!s.isRepeatable && r.settings.contains s) = false := by
    rcases fresh with repeatable | unseen
    · simp [repeatable]
    · simp [unseen]
  simp only [ready.read_long (by simp) text, readLong, splitValue_attached s.name_plain,
    Flag.ofName?_settingName, Setting.ofName?_name, attach, ready.settle_eq, Except.bind, assign, free,
    Bool.false_eq_true, if_false, String.ofList_toList]

theorem Ready.read_argument {w : Choice} (valid : w.Valid)
    (fresh : w.name.isRepeatable = true ∨ ¬ r.Given w.name) : r.read w.argument = .ok (r.note w) := by
  have text := w.toList_argument
  cases name : w.name with
  | inl f =>
    rw [name] at text fresh
    have unseen : f ∉ r.flags := by simpa [ArgumentName.isRepeatable, Given] using fresh
    rw [ready.read_flag text unseen, CommandLine.raise_name name]
    simp [Except.map, note, name]
  | inr s =>
    rw [name] at text fresh
    rw [ready.read_setting text fresh, CommandLine.set_value valid name]
    simp [Except.map, note, name]

end reading

theorem foldl_note_line (ws : List Choice) :
    (ws.foldl note r).line = ws.foldl CommandLine.choose r.line := by
  induction ws generalizing r with
  | nil => rfl
  | cons w rest ih => exact ih

theorem foldl_note_ready (ready : r.Ready) (ws : List Choice) : (ws.foldl note r).Ready := by
  induction ws generalizing r with
  | nil => exact ready
  | cons w rest ih => exact ih (ready_note ready w)

theorem Ready.read_arguments (ready : r.Ready) {ws : List Choice} (valid : ∀ w ∈ ws, w.Valid)
    (once : ws.Pairwise Choice.Compatible)
    (fresh : ∀ w ∈ ws, w.name.isRepeatable = true ∨ ¬ r.Given w.name) :
    (ws.map Choice.argument).foldlM read r = .ok (ws.foldl note r) := by
  induction ws generalizing r with
  | nil => rfl
  | cons w rest ih =>
    obtain ⟨valid_first, valid_rest⟩ := List.forall_mem_cons.mp valid
    obtain ⟨fresh_first, fresh_rest⟩ := List.forall_mem_cons.mp fresh
    obtain ⟨apart, once_rest⟩ := List.pairwise_cons.mp once
    have still_fresh : ∀ v ∈ rest, v.name.isRepeatable = true ∨ ¬ (r.note w).Given v.name := by
      -- A name given by now was given before, or it is that of `w` and may come again.
      intro v member
      rw [given_note]
      rcases fresh_rest v member with repeatable | unseen
      · exact .inl repeatable
      · by_cases same : w.name = v.name
        · exact .inl (apart v member same)
        · exact .inr (not_or.mpr ⟨fun equal => same equal.symm, unseen⟩)
    rw [List.map_cons, List.foldlM_cons, ready.read_argument valid_first fresh_first]
    exact ih (ready_note ready w) valid_rest once_rest still_fresh

end ArgumentReader

theorem CommandLine.read_arguments {ws : List Choice} (valid : ∀ w ∈ ws, w.Valid)
    (once : ws.Pairwise Choice.Compatible) :
    read (ws.map Choice.argument) = .ok (ws.foldl choose unadorned) := by
  have ready : ArgumentReader.initial.Ready := ⟨rfl, rfl⟩
  have fresh : ∀ w ∈ ws, w.name.isRepeatable = true ∨ ¬ ArgumentReader.initial.Given w.name := by
    intro w _
    cases name : w.name <;> simp [ArgumentReader.Given, ArgumentReader.initial]
  have settled := (ArgumentReader.foldl_note_ready ready ws).settle_eq
  simp only [read, ready.read_arguments valid once fresh, Except.bind, settled, Except.map,
    ArgumentReader.foldl_note_line]
  rfl

namespace Choice

theorem eq_of_name_value {v w : Choice} (names : v.name = w.name) (values : v.value = w.value) :
    v = w := by
  have same_nanoseconds {d e : Duration}
      (same : Numeral.count d.nanoseconds ++ "ns" = Numeral.count e.nanoseconds ++ "ns") : d = e := by
    have digits : Numeral.digits 10 d.nanoseconds = Numeral.digits 10 e.nanoseconds := by
      simpa using congrArg String.toList same
    exact congrArg Duration.mk (Numeral.digits_injective (by decide) (by decide) digits)
  cases v <;> cases w <;> cases names
  case switch.switch | verbose.verbose => rfl
  case pid.pid p q => exact congrArg pid (Int32.toInt_inj.mp (Numeral.decimal_injective values))
  case format.format f g =>
    cases f <;> cases g
    case perfetto.perfetto | json.json => rfl
    all_goals simp [value] at values
  case pollTimeout.pollTimeout | pollInterval.pollInterval => exact congrArg _ (same_nanoseconds values)
  case batchSize.batchSize => exact congrArg batchSize (Numeral.count_injective values)
  all_goals exact congrArg _ values

theorem value_of_flag {w : Choice} {f : Flag} (flag : w.name = .inl f) : w.value = "" := by
  cases w with
  | switch | verbose => rfl
  | _ => cases flag

theorem splitValue_argument (w : Choice) :
    ArgumentReader.splitValue (w.argument.toList.drop 2) =
      match w.name with
      | .inl f => (f.name.toList, none)
      | .inr s => (s.name.toList, some w.value.toList) := by
  rw [toList_argument]
  cases w.name with
  | inl f => exact ArgumentReader.splitValue_plain f.name_plain.1
  | inr s => exact ArgumentReader.splitValue_attached s.name_plain _

theorem argument_injective : Function.Injective argument := by
  intro v w same
  have parts := congrArg (fun arg => ArgumentReader.splitValue (arg.toList.drop 2)) same
  simp only [splitValue_argument] at parts
  cases v_name : v.name with
  | inl f =>
    cases w_name : w.name with
    | inl g =>
      simp only [v_name, w_name, Prod.mk.injEq, and_true, String.toList_inj] at parts
      have flags : f = g := Flag.name_injective parts
      have names : v.name = w.name := by rw [v_name, w_name, flags]
      exact eq_of_name_value names (by rw [value_of_flag v_name, value_of_flag w_name])
    | inr t => simp [v_name, w_name] at parts
  | inr s =>
    cases w_name : w.name with
    | inl g => simp [v_name, w_name] at parts
    | inr t =>
      simp only [v_name, w_name, Prod.mk.injEq, Option.some.injEq, String.toList_inj] at parts
      obtain ⟨settings, values⟩ := parts
      have settings : s = t := Setting.name_injective settings
      have names : v.name = w.name := by rw [v_name, w_name, settings]
      exact eq_of_name_value names values

end Choice

end SchedTelemetry
