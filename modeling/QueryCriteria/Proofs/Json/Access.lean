import QueryCriteria.Json.Access
import QueryCriteria.Proofs.Json.Document

/-!
# What documents are read as

* `integer?_integer` — an integer of 64 bits is read as the integer it was written from.
* `present`, `fields?_present` — a record written without its absent fields is read as all of its
  fields.
* `variant?_record` — an object with one entry is read as a named alternative.
-/

namespace QueryCriteria.Json

@[simp] theorem asText?_ofString (s : String) : asText? (ofString s) = some s :=
  unescape?_escape s

@[simp] theorem asDecimal?_ofString (s : String) :
    asDecimal? (ofString s) = Decimal.ofText? s.toList := by
  simp [asDecimal?, ofString, unescape?_escape]

@[simp] theorem asBool?_bool (b : Bool) : asBool? (.bool b) = some b := rfl

/-! ## Integers -/

theorem integer?_digits {n : Nat} (hgreatest : (n : Int) ≤ greatestUInt64) :
    integer? (Text.digits n) = some (n : Int) := by
  have hnatural := Text.isNatural_digits n
  have hvalue := Text.natural_digits n
  obtain ⟨c, s, hcs, hdigit⟩ := (Text.allDigits_digits n).exists_cons (Text.digits_ne_nil n)
  have hminus : c ≠ '-' := Text.ne_of_isDigit hdigit rfl
  rw [hcs] at hnatural hvalue ⊢
  simp [integer?, hminus, hnatural, hvalue, hgreatest]

theorem integer?_minus_digits {n : Nat} (hpos : 0 < n) (hleast : leastInt64 ≤ -(n : Int)) :
    integer? ('-' :: Text.digits n) = some (-(n : Int)) := by
  simp [integer?, Text.isNatural_digits, Text.natural_digits, hpos, hleast]

theorem integer?_integer {i : Int} (hleast : leastInt64 ≤ i) (hgreatest : i ≤ greatestUInt64) :
    integer? (Text.integer i) = some i := by
  unfold Text.integer
  split_ifs with hneg
  · have hi : -(i.natAbs : Int) = i := by omega
    rw [integer?_minus_digits (by omega) (hleast.trans_eq hi.symm), hi]
  · have hi : (i.natAbs : Int) = i := by omega
    rw [integer?_digits (hi.trans_le hgreatest), hi]

theorem asInteger?_ofInteger {least greatest i : Int} (hleast : leastInt64 ≤ least)
    (hgreatest : greatest ≤ greatestUInt64) (hi : least ≤ i ∧ i ≤ greatest) :
    asInteger? least greatest (ofInteger i) = some i := by
  have hread := integer?_integer (i := i) (by omega) (by omega)
  simp [asInteger?, ofInteger, hread, hi]

/-! ## Arrays -/

theorem asListOf?_array {α β : Type} {read : Json → Option β} {write : α → Json} {f : α → β}
    {items : List α} (h : ∀ x ∈ items, read (write x) = some (f x)) :
    asListOf? read (.array (items.map write)) = some (items.map f) := by
  show (items.map write).mapM read = some (items.map f)
  induction items with
  | nil => rfl
  | cons x xs ih =>
    have hx := h x List.mem_cons_self
    have hxs := ih fun y hy => h y (List.mem_cons_of_mem x hy)
    simp [hx, hxs]

/-! ## Records -/

theorem namedEntries?_record (entries : List (String × Json)) :
    namedEntries? (entries.map fun (key, v) => (escape key.toList, v)) = some entries := by
  induction entries with
  | nil => rfl
  | cons e es ih =>
    unfold namedEntries? at ih ⊢
    simp [unescape?_escape, ih]

theorem fields?_record (keys : List String) (entries : List (String × Json)) :
    fields? keys (record entries) = keys.mapM (valueOf? entries) := by
  rw [record, fields?, namedEntries?_record, Option.bind_some]

/-- The entries of the fields that are not absent. -/
def present : List String → List (Option Json) → List (String × Json)
  | key :: keys, some v :: fields => (key, v) :: present keys fields
  | _ :: keys, none :: fields => present keys fields
  | _, _ => []

theorem mem_present {e : String × Json} {keys : List String} {fields : List (Option Json)}
    (h : e ∈ present keys fields) : e.1 ∈ keys ∧ some e.2 ∈ fields := by
  fun_induction present keys fields with
  | case1 key keys v fields ih =>
    obtain rfl | h := List.mem_cons.1 h
    · simp
    · simp [ih h]
  | case2 key keys fields ih => simp [ih h]
  | case3 => cases h

theorem filter_eq_nil_of_ne {entries : List (String × Json)} {key : String}
    (h : ∀ e ∈ entries, e.1 ≠ key) : entries.filter (·.1 == key) = [] :=
  List.filter_eq_nil_iff.2 fun e he => by simpa using h e he

/-- The fields are found one after the other; `before` holds the entries of those found already,
whose keys do not come again. -/
theorem mapM_valueOf?_present {keys : List String} (hkeys : keys.Nodup) :
    ∀ {fields : List (Option Json)}, fields.length = keys.length →
      ∀ {before : List (String × Json)}, (∀ e ∈ before, e.1 ∉ keys) →
        keys.mapM (valueOf? (before ++ present keys fields)) = some fields := by
  -- What stands before grows by each field that is there, so the induction is for all of it.
  induction keys with
  | nil =>
    intro fields hlength before _
    rw [List.eq_nil_of_length_eq_zero hlength]
    rfl
  | cons key keys ih =>
    intro fields hlength before hbefore
    obtain ⟨hkey, hkeys⟩ := List.nodup_cons.1 hkeys
    have hothers (fields : List (Option Json)) :
        (present keys fields).filter (·.1 == key) = [] := by
      refine filter_eq_nil_of_ne fun e he heq => hkey ?_
      rw [← heq]
      exact (mem_present he).1
    have hprevious : before.filter (·.1 == key) = [] :=
      filter_eq_nil_of_ne fun e he heq => hbefore e he (by simp [heq])
    have hbefore' : ∀ e ∈ before, e.1 ∉ keys := fun e he h =>
      hbefore e he (List.mem_cons_of_mem key h)
    cases fields with
    | nil => cases hlength
    | cons field fields =>
      replace hlength : fields.length = keys.length := Nat.succ.inj hlength
      have hfield : valueOf? (before ++ present (key :: keys) (field :: fields)) key =
          some field := by
        cases field <;> simp [present, valueOf?, hprevious, hothers]
      rw [List.mapM_cons, hfield]
      cases field with
      | none =>
        rw [present, ih hkeys hlength hbefore']
        rfl
      | some v =>
        have hbefore'' : ∀ e ∈ before ++ [(key, v)], e.1 ∉ keys := by
          intro e he
          obtain he | he := List.mem_append.1 he
          · exact hbefore' e he
          · rw [List.mem_singleton.1 he]
            exact hkey
        rw [present, List.append_cons, ih hkeys hlength hbefore'']
        rfl

/-- **A record written without its absent fields is read as all of its fields.** -/
theorem fields?_present {keys : List String} (hkeys : keys.Nodup) {fields : List (Option Json)}
    (hlength : fields.length = keys.length) :
    fields? keys (record (present keys fields)) = some fields := by
  rw [fields?_record]
  have hnone : ∀ e ∈ ([] : List (String × Json)), e.1 ∉ keys := by simp
  exact mapM_valueOf?_present hkeys hlength hnone

theorem plain_record_present {keys : List String} {fields : List (Option Json)}
    (h : ∀ v, some v ∈ fields → Plain v) : Plain (record (present keys fields)) :=
  .record fun e he => h e.2 (mem_present he).2

/-! ## Named alternatives -/

theorem variant?_record (name : String) (content : Json) :
    variant? (record [(name, content)]) = some (name, some content) := by
  simp [record, variant?, unescape?_escape]

theorem variant?_ofString (name : String) : variant? (ofString name) = some (name, none) := by
  simp [ofString, variant?, unescape?_escape]

theorem bareVariant?_ofString (name : String) : bareVariant? (ofString name) = some name := by
  rw [bareVariant?, variant?_ofString]

end QueryCriteria.Json
