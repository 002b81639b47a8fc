import SchedTelemetry.Json.Read
import SchedTelemetry.Proofs.JsonTokens

set_option autoImplicit false

namespace SchedTelemetry.Json

namespace Reader

theorem run_cons (r : Reader) (t : Token) (ts : List Token) :
    r.run (t :: ts) = (r.step t).bind (fun r => r.run ts) :=
  List.foldlM_cons

theorem run_append (r : Reader) (ts more : List Token) :
    r.run (ts ++ more) = (r.run ts).bind (fun r => r.run more) :=
  List.foldlM_append

theorem run_single (r : Reader) (t : Token) : r.run [t] = r.step t := by
  rw [run_cons]
  exact Option.bind_fun_some _

section frames

variable {stack : List Frame}

theorem tokens_begin (v : Json) : ∃ t ts, v.tokens = t :: ts ∧ t ≠ .closeArray := by
  cases v with
  | null | number | string | array | object => exact ⟨_, _, rfl, nofun⟩

theorem run_firstItem (v : Json) (more : List Token) :
    run ⟨.first, .array [] :: stack⟩ (v.tokens ++ more) =
      run ⟨.value, .array [] :: stack⟩ (v.tokens ++ more) := by
  obtain ⟨t, ts, shape, going⟩ := tokens_begin v
  have still_open : close (.array [] :: stack) t = none := by
    cases t with
    | closeArray => exact absurd rfl going
    | _ => rfl
  rw [shape, List.cons_append, run_cons, run_cons, step, step]
  simp only [still_open]

theorem run_closeArray (items : List Json) :
    run ⟨.more, .array items :: stack⟩ [.closeArray] = place (.array items.reverse) stack :=
  run_single _ _

theorem run_closeObject (members : List (String × Json)) :
    run ⟨.more, .object members none :: stack⟩ [.closeObject] = place (.object members.reverse) stack :=
  run_single _ _

theorem run_emptyArray :
    run ⟨.value, stack⟩ [.openArray, .closeArray] = place (.array []) stack := by
  have opens : step ⟨.value, stack⟩ .openArray = some ⟨.first, .array [] :: stack⟩ := rfl
  have closes : close (.array [] :: stack) .closeArray = place (.array []) stack := rfl
  rw [run_cons, opens, Option.bind_some, run_single, step]
  simp only [closes]
  cases place (.array []) stack <;> rfl

theorem run_emptyObject :
    run ⟨.value, stack⟩ [.openObject, .closeObject] = place (.object []) stack := by
  have opens : step ⟨.value, stack⟩ .openObject = some ⟨.first, .object [] none :: stack⟩ := rfl
  have closes : close (.object [] none :: stack) .closeObject = place (.object []) stack := rfl
  rw [run_cons, opens, Option.bind_some, run_single, step]
  simp only [closes]
  cases place (.object []) stack <;> rfl

theorem run_array {items : List Json}
    (inside : items ≠ [] → run ⟨.value, .array [] :: stack⟩ (itemTokens items) =
      some ⟨.more, .array items.reverse :: stack⟩) :
    run ⟨.value, stack⟩ (array items).tokens = place (.array items) stack := by
  have opens : step ⟨.value, stack⟩ .openArray = some ⟨.first, .array [] :: stack⟩ := rfl
  cases items with
  | nil => exact run_emptyArray
  | cons v rest =>
    rw [tokens, List.cons_append, run_cons, opens, Option.bind_some, itemTokens_cons,
      List.append_assoc, run_firstItem, ← List.append_assoc, ← itemTokens_cons, run_append,
      inside nofun, Option.bind_some, run_closeArray, List.reverse_reverse]

theorem run_key (members : List (String × Json)) (k : String) (ts : List Token) :
    run ⟨.key, .object members none :: stack⟩ (.string k :: .colon :: ts) =
      run ⟨.value, .object members (some k) :: stack⟩ ts := by
  have key : step ⟨.key, .object members none :: stack⟩ (.string k) =
      some ⟨.colon, .object members (some k) :: stack⟩ := rfl
  have colon : step ⟨.colon, .object members (some k) :: stack⟩ .colon =
      some ⟨.value, .object members (some k) :: stack⟩ := rfl
  rw [run_cons, key, Option.bind_some, run_cons, colon, Option.bind_some]

theorem memberTokens_begin (m : String × Json) (rest : List (String × Json)) :
    ∃ ts, memberTokens (m :: rest) = .string m.1 :: ts := by
  cases rest <;> exact ⟨_, rfl⟩

theorem run_object {members : List (String × Json)}
    (inside : members ≠ [] → run ⟨.key, .object [] none :: stack⟩ (memberTokens members) =
      some ⟨.more, .object members.reverse none :: stack⟩) :
    run ⟨.value, stack⟩ (object members).tokens = place (.object members) stack := by
  have opens : step ⟨.value, stack⟩ .openObject = some ⟨.first, .object [] none :: stack⟩ := rfl
  cases members with
  | nil => exact run_emptyObject
  | cons m rest =>
    obtain ⟨ts, shape⟩ := memberTokens_begin m rest
    have first : step ⟨.first, .object [] none :: stack⟩ (.string m.1) =
        step ⟨.key, .object [] none :: stack⟩ (.string m.1) := rfl
    have keyed := inside nofun
    rw [shape, run_cons] at keyed
    rw [tokens, List.cons_append, run_cons, opens, Option.bind_some, run_append, shape, run_cons,
      first, keyed, Option.bind_some, run_closeObject, List.reverse_reverse]

theorem run_comma_item (items : List Json) (ts : List Token) :
    run ⟨.more, .array items :: stack⟩ (.comma :: ts) = run ⟨.value, .array items :: stack⟩ ts :=
  run_cons _ _ _

theorem run_comma_member (members : List (String × Json)) (ts : List Token) :
    run ⟨.more, .object members none :: stack⟩ (.comma :: ts) =
      run ⟨.key, .object members none :: stack⟩ ts :=
  run_cons _ _ _

end frames

mutual

theorem run_tokens (v : Json) (stack : List Frame) : run ⟨.value, stack⟩ v.tokens = place v stack := by
  match v with
  | .null => exact run_single _ _
  | .number n => exact run_single _ _
  | .string s => exact run_single _ _
  | .array items =>
    apply run_array
    intro some_items
    rw [run_itemTokens items some_items, List.append_nil]
  | .object members =>
    apply run_object
    intro some_members
    rw [run_memberTokens members some_members, List.append_nil]

theorem run_itemTokens (items : List Json) (some_items : items ≠ []) (before : List Json)
    (stack : List Frame) :
    run ⟨.value, .array before :: stack⟩ (itemTokens items) =
      some ⟨.more, .array (items.reverse ++ before) :: stack⟩ := by
  match items with
  | [] => exact absurd rfl some_items
  | [v] => exact run_tokens v (.array before :: stack)
  | v :: w :: more =>
    have placed := run_tokens v (.array before :: stack)
    have later := run_itemTokens (w :: more) nofun (v :: before) stack
    rw [itemTokens, run_append, placed, place, Option.bind_some, run_comma_item, later]
    simp

theorem run_memberTokens (members : List (String × Json)) (some_members : members ≠ [])
    (before : List (String × Json)) (stack : List Frame) :
    run ⟨.key, .object before none :: stack⟩ (memberTokens members) =
      some ⟨.more, .object (members.reverse ++ before) none :: stack⟩ := by
  match members with
  | [] => exact absurd rfl some_members
  | [(k, v)] =>
    rw [memberTokens, run_key]
    exact run_tokens v (.object before (some k) :: stack)
  | (k, v) :: m :: more =>
    have placed := run_tokens v (.object before (some k) :: stack)
    have later := run_memberTokens (m :: more) nofun ((k, v) :: before) stack
    rw [memberTokens, run_key, run_append, placed, place, Option.bind_some, run_comma_member, later]
    simp

end

end Reader

theorem ofTokens_tokens (v : Json) : ofTokens v.tokens = some v := by
  have placed : Reader.initial.run v.tokens = some ⟨.nothing v, []⟩ := Reader.run_tokens v []
  rw [ofTokens, placed]

theorem read_text (v : Json) : read v.text = some v := by
  have ends : Ends [] := by rintro _ ⟨⟩
  have lexed := lexFrom_text v ends
  rw [List.append_nil] at lexed
  rw [read, lex, lexed, lexFrom, lexEnd, Option.map_some, List.append_nil, Option.bind_some,
    ofTokens_tokens]

end SchedTelemetry.Json
