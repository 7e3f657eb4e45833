import QueryCriteria.Proofs.Operator.Registry

/-!
# Registries over whole runs

Whatever calls a registry was filled by, it holds for every name the last operator registered under
it, up to capitals, and nothing else.

* `Registry.keys` — the bound names; `Registry.keys_bind` — binding a name adds it once.
* `Registry.mem_keys_register`, `Registry.nodup_keys_register` — the bound names after a run.
* `Registry.lastAnswering` — the last of some operators that answers to a name.
* `Registry.Holds` — a registry that holds what some operators, registered in this order, leave.
* `Registry.holds_after_registrations` — every run of registrations leads to such a registry, from
  the empty one and from the standard one.
-/

namespace QueryCriteria.Registry

/-! ## Bound names -/

/-- The names that operators are bound to, in capitals. -/
def keys (r : Registry) : List String :=
  r.bindings.map (·.1)

theorem keys_bind (key : String) (op : Operator) :
    ∀ bindings : List (String × Operator),
      (bind key op bindings).map (·.1) =
        if key ∈ bindings.map (·.1) then bindings.map (·.1) else bindings.map (·.1) ++ [key]
  | [] => rfl
  | (k, o) :: rest => by
    unfold bind
    by_cases hk : k = key
    · subst hk
      simp
    · have hne : ¬ key = k := fun h => hk h.symm
      have htail := keys_bind key op rest
      rw [if_neg hk, List.map_cons, List.map_cons, htail]
      by_cases hmem : key ∈ rest.map (·.1)
      · rw [if_pos hmem, if_pos (List.mem_cons_of_mem k hmem)]
      · rw [if_neg hmem, if_neg (List.not_mem_cons_of_ne_of_not_mem hne hmem)]
        rfl

theorem mem_keys_bind {key name : String} {op : Operator} {bindings : List (String × Operator)} :
    name ∈ (bind key op bindings).map (·.1) ↔ name = key ∨ name ∈ bindings.map (·.1) := by
  rw [keys_bind]
  split
  · rename_i hkey
    constructor
    · exact .inr
    · rintro (rfl | hname)
      · exact hkey
      · exact hname
  · rw [List.mem_append, List.mem_singleton, or_comm]

theorem nodup_keys_bind {bindings : List (String × Operator)} (h : (bindings.map (·.1)).Nodup)
    (key : String) (op : Operator) : ((bind key op bindings).map (·.1)).Nodup := by
  rw [keys_bind]
  split
  · exact h
  · rename_i hkey
    rw [List.nodup_append]
    refine ⟨h, List.pairwise_singleton _ key, ?_⟩
    rintro name hname _ hsame rfl
    rw [List.mem_singleton] at hsame
    exact hkey (hsame ▸ hname)

/-- Adding an operator binds the capitals of its registration names, and keeps the bound names. -/
theorem mem_keys_add {r : Registry} {op : Operator} {name : String} :
    name ∈ (r.add op).keys ↔
      (∃ own ∈ registrationNames op, Text.upper own = name) ∨ name ∈ r.keys := by
  unfold add keys
  generalize r.bindings = bindings
  induction registrationNames op generalizing bindings with
  | nil => simp
  | cons own names ih =>
    rw [List.foldl_cons, ih, mem_keys_bind]
    constructor
    · rintro (⟨other, hother, rfl⟩ | rfl | hname)
      · exact .inl ⟨other, List.mem_cons_of_mem own hother, rfl⟩
      · exact .inl ⟨own, List.mem_cons_self, rfl⟩
      · exact .inr hname
    · rintro (⟨other, hother, rfl⟩ | hname)
      · rcases List.mem_cons.1 hother with rfl | hother
        · exact .inr (.inl rfl)
        · exact .inl ⟨other, hother, rfl⟩
      · exact .inr (.inr hname)

theorem nodup_keys_add {r : Registry} (h : r.keys.Nodup) (op : Operator) :
    (r.add op).keys.Nodup := by
  unfold add keys
  unfold keys at h
  generalize r.bindings = bindings at h
  induction registrationNames op generalizing bindings with
  | nil => exact h
  | cons own names ih => exact ih _ (nodup_keys_bind h (Text.upper own) op)

theorem mem_keys_register {name : String} :
    ∀ {ops : List Operator} {r : Registry},
      name ∈ (r.register ops).keys ↔
        (∃ op ∈ ops, ∃ own ∈ registrationNames op, Text.upper own = name) ∨ name ∈ r.keys
  | [], r => by simp [register]
  | op :: ops, r => by
    have hstep : r.register (op :: ops) = (r.add op).register ops := rfl
    rw [hstep, mem_keys_register, mem_keys_add]
    simp only [List.mem_cons, exists_eq_or_imp, or_assoc, or_left_comm]

theorem nodup_keys_register :
    ∀ (ops : List Operator) {r : Registry}, r.keys.Nodup → (r.register ops).keys.Nodup
  | [], _, h => h
  | op :: ops, _, h => nodup_keys_register ops (nodup_keys_add h op)

/-- Registering binds names and does nothing else. -/
theorem settings_register : ∀ (ops : List Operator) (r : Registry),
    (r.register ops).settings = r.settings
  | [], _ => rfl
  | op :: ops, r => settings_register ops (r.add op)

theorem context_register : ∀ (ops : List Operator) (r : Registry),
    (r.register ops).context = r.context
  | [], _ => rfl
  | op :: ops, r => context_register ops (r.add op)

theorem mem_aliases {r : Registry} {name : String} : name ∈ r.aliases ↔ name ∈ r.keys :=
  List.mem_mergeSort

theorem nodup_aliases {r : Registry} (h : r.keys.Nodup) : r.aliases.Nodup :=
  (List.mergeSort_perm r.keys _).nodup_iff.2 h

/-! ## Runs -/

/-- The last of some operators that answers to a name. -/
def lastAnswering (ops : List Operator) (name : String) : Option Operator :=
  ops.reverse.find? (answersTo · name)

/-- The registry holds what some operators leave that were registered in this order: each name
means the last operator that answers to it, the bound names are the capitals of the registration
names, and a lookup looks for such an operator before it takes the name for range text.  The clock
may show any time by then. -/
structure Holds (r : Registry) (weekStart : Weekday) (ops : List Operator) : Prop where
  get?_eq : ∀ name, r.get? name = lastAnswering ops name
  mem_aliases_iff : ∀ name,
    name ∈ r.aliases ↔ ∃ op ∈ ops, ∃ own ∈ registrationNames op, Text.upper own = name
  aliases_nodup : r.aliases.Nodup
  lookup_eq : ∀ (now : DateTime) (name : String) (ty : FieldType),
    { r with now := now }.lookup name ty =
      match lastAnswering ops name with
      | some (.builtin b) => .ok (some (.builtin b))
      | some (.range range) => (range.resolveFor ty ⟨now, weekStart⟩).map (·.map .range)
      | none =>
        if ty.isNumeric || ty.isTemporal then
          (Range.parse name ty ⟨now, weekStart⟩).map (·.map .range)
        else .ok none

/-- Registering operators leaves what they leave, after whatever is held already. -/
theorem Holds.register {r : Registry} {weekStart : Weekday} {before : List Operator}
    (hheld : r.Holds weekStart before) (hweek : r.settings.weekStart = weekStart)
    (ops : List Operator) : (r.register ops).Holds weekStart (before ++ ops) := by
  have hget : ∀ name, (r.register ops).get? name = lastAnswering (before ++ ops) name := by
    intro name
    rw [get?_register, hheld.get?_eq, lastAnswering, lastAnswering, List.reverse_append,
      List.find?_append]
  refine ⟨hget, ?_, ?_, ?_⟩
  · intro name
    have hbefore := hheld.mem_aliases_iff name
    rw [mem_aliases] at hbefore ⊢
    rw [mem_keys_register, hbefore]
    constructor
    · rintro (⟨op, hop, hown⟩ | ⟨op, hop, hown⟩)
      · exact ⟨op, List.mem_append_right before hop, hown⟩
      · exact ⟨op, List.mem_append_left ops hop, hown⟩
    · rintro ⟨op, hop, hown⟩
      rcases List.mem_append.1 hop with hop | hop
      · exact .inr ⟨op, hop, hown⟩
      · exact .inl ⟨op, hop, hown⟩
  · have hkeys : r.keys.Nodup := (List.mergeSort_perm r.keys _).nodup_iff.1 hheld.aliases_nodup
    exact nodup_aliases (nodup_keys_register ops hkeys)
  · intro now name ty
    have hclock : { r.register ops with now := now }.get? name = (r.register ops).get? name := rfl
    have hcontext : { r.register ops with now := now }.context = ⟨now, weekStart⟩ := by
      rw [context, settings_register, hweek]
    unfold lookup
    rw [hclock, hget, hcontext]
    rfl

theorem Holds.empty (settings : Settings) (now : DateTime) :
    (Registry.empty settings now).Holds settings.weekStart [] where
  get?_eq _ := rfl
  mem_aliases_iff name := by simp [aliases, Registry.empty]
  aliases_nodup := by simp [aliases, Registry.empty]
  lookup_eq now name ty := rfl

/-- **A registry holds what was registered, the later operator before the earlier one**, whatever
calls it was filled by; in the standard one the built-in operators were registered first. -/
theorem holds_after_registrations (settings : Settings) (now : DateTime)
    (calls : List (List Operator)) :
    (calls.foldl register (Registry.empty settings now)).Holds settings.weekStart calls.flatten ∧
      (calls.foldl register (standard settings now)).Holds settings.weekStart
        (Builtin.all.map .builtin ++ calls.flatten) := by
  have hcalls : ∀ r : Registry, calls.foldl register r = r.register calls.flatten := by
    intro r
    rw [register, List.foldl_flatten]
    rfl
  have hempty := Holds.empty settings now
  have hstandard : (standard settings now).Holds settings.weekStart (Builtin.all.map .builtin) :=
    hempty.register rfl (Builtin.all.map .builtin)
  have hweek : (standard settings now).settings.weekStart = settings.weekStart :=
    congrArg Settings.weekStart (settings_register _ _)
  constructor
  · rw [hcalls]
    exact hempty.register rfl calls.flatten
  · rw [hcalls]
    exact hstandard.register hweek calls.flatten

/-- Names meet in capitals: a range bound as `straße` gives way to a later one bound as `Strasse`. -/
example :
    let one := (Range.make "one" none none).named "straße"
    let other := (Range.make "other" none none).named "Strasse"
    lastAnswering [.range one, .range other] "STRASSE" = some (.range other) ∧
      lastAnswering [.range other, .range one] "STRASSE" = some (.range one) := by
  decide

end QueryCriteria.Registry
