import QueryCriteria.Operator.Registry
import QueryCriteria.Proofs.Text.Case

/-!
# What a registry finds

* `Registry.answersTo` — whether registering an operator binds it under a name.
* `Registry.get?_register` — a name means the last registered operator that answers to it, or else
  what it meant before.
* `Builtin.eq_of_sameCaseless` — no two built-in operators share a name.
* `Registry.get?_standard_eq_some_iff` — the standard registry has an operator under the names whose
  capitals are those of one of its own.
* `Registry.get?_standard` — under an ASCII name the standard registry has the built-in operator
  that `Builtin.find?` gives; and `Builtin.find?` gives none under another name.
-/

namespace QueryCriteria

namespace Registry

/-! ## Bindings -/

theorem lookup_bind (key : String) (op : Operator) (name : String) :
    ∀ bindings : List (String × Operator),
      (bind key op bindings).lookup name =
        if name == key then some op else bindings.lookup name
  | [] => by
    rw [bind, List.lookup_cons, List.lookup_nil]
    cases name == key <;> rfl
  | (k, o) :: rest => by
    unfold bind
    split
    · rename_i hk
      subst hk
      rw [List.lookup_cons, List.lookup_cons]
      cases name == k <;> rfl
    · rename_i hk
      rw [List.lookup_cons, List.lookup_cons, lookup_bind key op name rest]
      cases hn : name == k with
      | false => rfl
      | true =>
        have hkey : (name == key) = false := by
          rw [beq_iff_eq.1 hn]
          exact beq_eq_false_iff_ne.2 hk
        rw [hkey]
        rfl

/-- Whether registering an operator binds it under a name. -/
def answersTo (op : Operator) (name : String) : Bool :=
  (registrationNames op).any fun own => Text.upper own == Text.upper name

theorem lookup_bindAll (op : Operator) (name : String) :
    ∀ (names : List String) (bindings : List (String × Operator)),
      (names.foldl (fun bindings own => bind (Text.upper own) op bindings) bindings).lookup
          (Text.upper name) =
        if names.any (fun own => Text.upper own == Text.upper name) then some op
        else bindings.lookup (Text.upper name)
  | [], _ => rfl
  | own :: names, bindings => by
    rw [List.foldl_cons, lookup_bindAll op name names, lookup_bind, List.any_cons]
    by_cases hown : Text.upper own = Text.upper name
    · simp [hown]
    · have hown' : ¬ Text.upper name = Text.upper own := fun h => hown h.symm
      simp [hown, hown']

theorem get?_add (r : Registry) (op : Operator) (name : String) :
    (r.add op).get? name = if answersTo op name then some op else r.get? name :=
  lookup_bindAll op name (registrationNames op) r.bindings

/-- **The last registration wins**, whatever was registered before. -/
theorem get?_register (name : String) :
    ∀ (ops : List Operator) (r : Registry),
      (r.register ops).get? name = (ops.reverse.find? (answersTo · name)).or (r.get? name)
  | [], r => rfl
  | op :: ops, r => by
    have hstep : r.register (op :: ops) = (r.add op).register ops := rfl
    rw [hstep, get?_register name ops, get?_add, List.reverse_cons, List.find?_append,
      List.find?_singleton, Option.or_assoc]
    congr 1
    split <;> rfl

end Registry

/-! ## The built-in operators -/

namespace Builtin

theorem mem_all (b : Builtin) : b ∈ all := by
  cases b <;> decide

theorem names_ascii_all : ∀ b ∈ all, ∀ name ∈ b.names, Text.isAscii name = true := by
  decide

theorem isAscii_of_mem_names {b : Builtin} {name : String} (h : name ∈ b.names) :
    Text.isAscii name = true :=
  names_ascii_all b b.mem_all name h

theorem names_found_all : ∀ b ∈ all, ∀ name ∈ b.names, find? name = some b := by
  decide

theorem find?_of_mem_names {b : Builtin} {name : String} (h : name ∈ b.names) :
    find? name = some b :=
  names_found_all b b.mem_all name h

theorem find?_congr {name name' : String} (h : Text.sameCaseless name name' = true) :
    find? name = find? name' := by
  unfold find?
  simp only [Text.sameCaseless_right h]

theorem find?_eq_some_iff {b : Builtin} {name : String} :
    find? name = some b ↔ ∃ own ∈ b.names, Text.sameCaseless own name = true := by
  constructor
  · intro h
    have hnames := List.find?_some h
    exact List.any_eq_true.1 hnames
  · rintro ⟨own, hown, hsame⟩
    rw [← find?_congr hsame, find?_of_mem_names hown]

theorem isAscii_of_find? {b : Builtin} {name : String} (h : find? name = some b) :
    Text.isAscii name = true := by
  obtain ⟨own, hown, hsame⟩ := find?_eq_some_iff.1 h
  exact Text.isAscii_of_sameCaseless hsame (isAscii_of_mem_names hown)

/-- **No two built-in operators share a name**, even up to case. -/
theorem eq_of_sameCaseless {b b' : Builtin} {name name' : String} (h : name ∈ b.names)
    (h' : name' ∈ b'.names) (hsame : Text.sameCaseless name name' = true) : b = b' := by
  have hfound := find?_congr hsame
  rw [find?_of_mem_names h, find?_of_mem_names h'] at hfound
  exact Option.some.inj hfound

end Builtin

/-! ## The standard registry -/

namespace Registry

/-- A built-in operator is registered under the names whose capitals are those of one of its own. -/
theorem answersTo_builtin_iff {b : Builtin} {name : String} :
    answersTo (.builtin b) name = true ↔ ∃ own ∈ b.names, Text.upper own = Text.upper name := by
  simp only [answersTo, registrationNames, List.any_eq_true, beq_iff_eq]

theorem eq_of_answersTo {b b' : Builtin} {name : String}
    (h : answersTo (.builtin b) name = true) (h' : answersTo (.builtin b') name = true) :
    b = b' := by
  obtain ⟨own, hown, hupper⟩ := answersTo_builtin_iff.1 h
  obtain ⟨own', hown', hupper'⟩ := answersTo_builtin_iff.1 h'
  refine Builtin.eq_of_sameCaseless hown hown' ?_
  rw [← Text.upper_eq_upper_iff (Builtin.isAscii_of_mem_names hown)
    (Builtin.isAscii_of_mem_names hown'), hupper, hupper']

/-- **What the standard registry finds**: under every name, ASCII or not, the built-in operator of
which one name has the same capitals. -/
theorem get?_standard_eq_some_iff (settings : Settings) (now : DateTime) {name : String}
    {op : Operator} :
    (standard settings now).get? name = some op ↔
      ∃ b, op = .builtin b ∧ ∃ own ∈ b.names, Text.upper own = Text.upper name := by
  have hempty : (empty settings now).get? name = none := rfl
  unfold standard
  rw [get?_register, hempty, Option.or_none]
  constructor
  · intro h
    obtain ⟨b, -, rfl⟩ := List.mem_map.1 (List.mem_reverse.1 (List.mem_of_find?_eq_some h))
    have hanswers := List.find?_some h
    exact ⟨b, rfl, answersTo_builtin_iff.1 hanswers⟩
  · rintro ⟨b, rfl, hupper⟩
    have hanswers := answersTo_builtin_iff.2 hupper
    have hmem : Operator.builtin b ∈ (Builtin.all.map Operator.builtin).reverse :=
      List.mem_reverse.2 (List.mem_map_of_mem b.mem_all)
    cases hfound : (Builtin.all.map Operator.builtin).reverse.find? (answersTo · name) with
    | none => exact absurd hanswers (List.find?_eq_none.1 hfound _ hmem)
    | some other =>
      obtain ⟨b', -, rfl⟩ :=
        List.mem_map.1 (List.mem_reverse.1 (List.mem_of_find?_eq_some hfound))
      have hother := List.find?_some hfound
      rw [eq_of_answersTo hanswers hother]

/-- **The standard registry has every built-in operator under its names**: what an ASCII name means
there is what `Builtin.find?` gives. -/
theorem get?_standard (settings : Settings) (now : DateTime) {name : String}
    (hname : Text.isAscii name = true) :
    (standard settings now).get? name = (Builtin.find? name).map .builtin := by
  have hcapitals : ∀ b : Builtin, (∃ own ∈ b.names, Text.upper own = Text.upper name) ↔
      Builtin.find? name = some b := by
    intro b
    rw [Builtin.find?_eq_some_iff]
    exact exists_congr fun own => and_congr_right fun hown =>
      Text.upper_eq_upper_iff (Builtin.isAscii_of_mem_names hown) hname
  ext op
  rw [get?_standard_eq_some_iff, Option.map_eq_some_iff]
  simp only [hcapitals]
  constructor
  · rintro ⟨b, rfl, hb⟩
    exact ⟨b, hb, rfl⟩
  · rintro ⟨b, hb, rfl⟩
    exact ⟨b, rfl, hb⟩

theorem lookup_of_builtin {r : Registry} {name : String} {b : Builtin}
    (h : r.get? name = some (.builtin b)) (ty : FieldType) :
    r.lookup name ty = .ok (some (.builtin b)) := by
  unfold lookup
  rw [h]

theorem get?_standard_of_find? (settings : Settings) (now : DateTime) {b : Builtin}
    {name : String} (h : Builtin.find? name = some b) :
    (standard settings now).get? name = some (.builtin b) := by
  rw [get?_standard settings now (Builtin.isAscii_of_find? h), h, Option.map_some]

end Registry

end QueryCriteria
