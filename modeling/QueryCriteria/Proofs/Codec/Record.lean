import QueryCriteria.Codec.Record
import QueryCriteria.Proofs.Json.Access
import QueryCriteria.Proofs.Time.Iso
import QueryCriteria.Proofs.Value.Alike

/-!
# Records are read as they were written

* `Value.isTransferable` — values whose document says all there is to say about them.
* `Value.ofJson?_toJson` — such a value is read back; only a zero decimal loses its sign.
* `Criterion.fields`, `Header.fields` — the fields of a record in the order of its keys, of which its
  document has those that are not absent.
* `Criterion.ofJson?_toJson`, `Header.ofJson?_toJson` — records and headers through documents.
* `documents_read_as_written` — both through the text of a document.
-/

namespace QueryCriteria

open Json (Plain)

/-! ## Values -/

namespace Value

/-- Whether a value is neither a floating-point number nor in a leap second. -/
def isTransferable : Value → Bool
  | .float _ => false
  | .dateTime t => !t.inLeapSecond
  | _ => true

/-- The value without the sign of a zero decimal. -/
def unsignedZero : Value → Value
  | .decimal d => .decimal d.unsignedZero
  | v => v

theorem scale?_unsignedZero (v : Value) : v.unsignedZero.scale? = v.scale? := by
  cases v <;> rfl

theorem same_unsignedZero {v : Value} (h : v.isTransferable = true) :
    v.unsignedZero.same v = true := by
  cases v with
  | decimal d => exact d.sameNumber_unsignedZero
  | float x => cases h
  | _ => simp [unsignedZero, same]

theorem sameAll_unsignedZero {values : List Value} (h : ∀ v ∈ values, v.isTransferable = true) :
    sameAll (values.map unsignedZero) values = true := by
  induction values with
  | nil => rfl
  | cons v vs ih =>
    have hv := same_unsignedZero (h v List.mem_cons_self)
    have hvs := ih fun w hw => h w (List.mem_cons_of_mem v hw)
    simp [sameAll, hv, hvs]

theorem plain_tagged {kind : String} {content : Json} (h : Plain content) :
    Plain (tagged kind content) :=
  .record fun e he => by
    rw [List.mem_singleton.1 he]
    exact h

theorem plain_toJson {v : Value} (h : v.isTransferable = true) : Plain v.toJson := by
  cases v with
  | null => exact .text _
  | bool b => exact plain_tagged (.bool b)
  | int i => exact plain_tagged (.integer _)
  | uint n => exact plain_tagged (.integer _)
  | float x => cases h
  | decimal d => exact plain_tagged (.text _)
  | text s => exact plain_tagged (.text _)
  | enum code => exact plain_tagged (.text _)
  | date d => exact plain_tagged (.text _)
  | dateTime t => exact plain_tagged (.text _)

theorem ofJson?_tagged (kind : String) (content : Json) :
    ofJson? (tagged kind content) = ofTagged? kind content := by
  rw [ofJson?, tagged, Json.variant?_record]

theorem ofJson?_toJson {v : Value} (h : v.isTransferable = true) :
    ofJson? v.toJson = some v.unsignedZero := by
  cases v with
  | null => simp [toJson, ofJson?, Json.variant?_ofString, unsignedZero]
  | bool b => simp [toJson, ofJson?_tagged, ofTagged?, unsignedZero]
  | int i =>
    have hbounds : leastInt64 ≤ i.toInt ∧ i.toInt ≤ greatestInt64 :=
      ⟨i.le_toInt, Int.le_of_lt_add_one i.toInt_lt⟩
    have hread := Json.asInteger?_ofInteger (by decide) (by decide) hbounds
    simp [toJson, ofJson?_tagged, ofTagged?, hread, unsignedZero]
  | uint n =>
    have hbounds : 0 ≤ (n.toNat : Int) ∧ (n.toNat : Int) ≤ greatestUInt64 :=
      ⟨Int.natCast_nonneg _, Int.le_of_lt_add_one (Int.ofNat_lt.2 n.toNat_lt)⟩
    have hread := Json.asInteger?_ofInteger (by decide) (by decide) hbounds
    simp [toJson, ofJson?_tagged, ofTagged?, hread, unsignedZero]
  | float x => cases h
  | decimal d => simp [toJson, ofJson?_tagged, ofTagged?, unsignedZero, Decimal.ofText?_text]
  | text s => simp [toJson, ofJson?_tagged, ofTagged?, unsignedZero]
  | enum code => simp [toJson, ofJson?_tagged, ofTagged?, unsignedZero]
  | date d => simp [toJson, ofJson?_tagged, ofTagged?, unsignedZero, Date.ofText?_text]
  | dateTime t =>
    have hleap : t.inLeapSecond = false := by simpa [isTransferable] using h
    simp [toJson, ofJson?_tagged, ofTagged?, unsignedZero, DateTime.ofText?_text hleap]

end Value

/-! ## Fields of records -/

/-- A list as a field, absent when it is empty. -/
def listField {α : Type} (toJson : α → Json) (items : List α) : Option Json :=
  if items.isEmpty then none else some (.array (items.map toJson))

theorem readOr_listField {α β : Type} {read : Json → Option β} {toJson : α → Json} {f : α → β}
    {items : List α} (h : ∀ x ∈ items, read (toJson x) = some (f x)) :
    readOr [] (Json.asListOf? read) (listField toJson items) = some (items.map f) := by
  cases items with
  | nil => rfl
  | cons x xs => exact Json.asListOf?_array h

theorem plain_of_listField {α : Type} {toJson : α → Json} {items : List α}
    (h : ∀ x ∈ items, Plain (toJson x)) {v : Json} (hv : some v = listField toJson items) :
    Plain v := by
  unfold listField at hv
  split_ifs at hv with hempty
  cases hv
  refine .array fun w hw => ?_
  obtain ⟨x, hx, rfl⟩ := List.mem_map.1 hw
  exact h x hx

/-! ## Criteria -/

namespace Criterion

/-- The fields of a record, in the order of its keys. -/
def fields (c : Criterion) : List (Option Json) :=
  [some (.ofString c.field), some (.ofString c.operator), listField Value.toJson c.values]

theorem toJson_eq_present (c : Criterion) :
    c.toJson = .record (Json.present ["field", "operator", "values"] c.fields) := by
  unfold toJson fields listEntry listField
  split_ifs <;> rfl

theorem plain_toJson {c : Criterion} (h : ∀ v ∈ c.values, v.isTransferable = true) :
    Plain c.toJson := by
  rw [toJson_eq_present]
  refine Json.plain_record_present fun v hv => ?_
  simp only [fields, List.mem_cons, Option.some.injEq, List.not_mem_nil, or_false] at hv
  obtain rfl | rfl | hv := hv
  · exact .text _
  · exact .text _
  · exact plain_of_listField (fun x hx => Value.plain_toJson (h x hx)) hv

theorem ofJson?_toJson {c : Criterion} (h : ∀ v ∈ c.values, v.isTransferable = true) :
    ofJson? c.toJson = some { c with values := c.values.map Value.unsignedZero } := by
  have hkeys : ["field", "operator", "values"].Nodup := by decide
  have hlength : c.fields.length = ["field", "operator", "values"].length := rfl
  have hvalues := readOr_listField fun v hv => Value.ofJson?_toJson (h v hv)
  rw [ofJson?, toJson_eq_present, Json.fields?_present hkeys hlength]
  simp [fields, hvalues]

end Criterion

/-! ## Headers -/

theorem Capability.ofJson?_toJson (c : Capability) : Capability.ofJson? c.toJson = some c := by
  rw [toJson, ofJson?, Json.bareVariant?_ofString, Option.bind_some]
  cases c <;> rfl

namespace Header

/-- The fields of a header, in the order of its keys. -/
def fields (h : Header) : List (Option Json) :=
  [some (.ofString h.name), some (.ofString h.text), some (.ofInteger h.slots.toNat),
    h.multivalued.map .bool, some (.bool h.nullCheck), listField Capability.toJson h.types,
    listField Capability.toJson h.excluded]

theorem toJson_eq_present (h : Header) : h.toJson = .record (Json.present keys h.fields) := by
  unfold toJson fields listEntry listField
  cases h.multivalued <;> split_ifs <;> rfl

theorem plain_toJson (h : Header) : Plain h.toJson := by
  rw [toJson_eq_present]
  refine Json.plain_record_present fun v hv => ?_
  have htypes (types : List Capability) (hv : some v = listField Capability.toJson types) :
      Plain v := plain_of_listField (fun c _ => .text c.name) hv
  simp only [fields, List.mem_cons, Option.some.injEq, List.not_mem_nil, or_false] at hv
  obtain rfl | rfl | rfl | hv | rfl | hv | hv := hv
  · exact .text _
  · exact .text _
  · exact .integer _
  · obtain ⟨b, -, rfl⟩ := Option.map_eq_some_iff.1 hv.symm
    exact .bool b
  · exact .bool _
  · exact htypes _ hv
  · exact htypes _ hv

theorem ofJson?_toJson (h : Header) : ofJson? h.toJson = some h := by
  have hkeys : keys.Nodup := by decide
  have hlength : h.fields.length = keys.length := rfl
  have hbounds : 0 ≤ (h.slots.toNat : Int) ∧ (h.slots.toNat : Int) ≤ 255 :=
    ⟨Int.natCast_nonneg _, Int.le_of_lt_add_one (Int.ofNat_lt.2 h.slots.toNat_lt)⟩
  have hslots : readOr 0 (Json.asInteger? 0 255) (some (.ofInteger h.slots.toNat)) =
      some (h.slots.toNat : Int) :=
    Json.asInteger?_ofInteger (by decide) (by decide) hbounds
  have hmultivalued : readOr none multivalued? (h.multivalued.map .bool) = some h.multivalued := by
    cases h.multivalued <;> rfl
  have hnullCheck : readOr false Json.asBool? (some (.bool h.nullCheck)) = some h.nullCheck := rfl
  have htypes (types : List Capability) :
      readOr [] (Json.asListOf? Capability.ofJson?) (listField Capability.toJson types) =
        some types := by
    simpa using readOr_listField fun c (_ : c ∈ types) => Capability.ofJson?_toJson c
  rw [ofJson?, toJson_eq_present, Json.fields?_present hkeys hlength]
  simp [fields, hslots, hmultivalued, hnullCheck, htypes]

end Header

/-! ## Through the text of a document -/

/-- **Records and headers are read back from the compact text of their documents.**  A record
without floating-point numbers and leap seconds comes back with the same field and operator and
the same values, decimals with their scale; a header comes back as it was. -/
theorem documents_read_as_written (c : Criterion)
    (hvalues : ∀ v ∈ c.values, v.isTransferable = true) (h : Header) :
    (∃ c', (Json.parse? c.toJson.text).bind Criterion.ofJson? = some c' ∧ c'.same c = true ∧
      c'.values.map Value.scale? = c.values.map Value.scale?) ∧
    (Json.parse? h.toJson.text).bind Header.ofJson? = some h := by
  have hcriterion := Json.parse?_text (Criterion.plain_toJson hvalues)
  have hheader := Json.parse?_text h.plain_toJson
  refine ⟨⟨{ c with values := c.values.map Value.unsignedZero }, ?_, ?_, ?_⟩, ?_⟩
  · rw [hcriterion, Option.bind_some, Criterion.ofJson?_toJson hvalues]
  · simp [Criterion.same, Value.sameAll_unsignedZero hvalues]
  · simp [Value.scale?_unsignedZero]
  · rw [hheader, Option.bind_some, Header.ofJson?_toJson]

/-- A record with everything that is hard to write: quotes, backslashes and control characters, both
limits of integers, trailing zeros and a negative zero, the first and the last year, a fraction. -/
def intricateCriterion : Criterion where
  field := "a\"b\\c\n\x01"
  operator := "IN"
  values :=
    [.null, .bool true, .int Int64.minValue, .uint 18446744073709551615,
      .decimal ⟨true, 1500, 3, by decide, by decide⟩, .decimal ⟨true, 0, 28, by decide, by decide⟩,
      .text "\t", .enum "", .date ⟨firstDay, by decide, by decide⟩,
      .dateTime ⟨⟨lastDay, by decide, by decide⟩, 86399, 5000000, by decide, by decide⟩]

/-- A header with an optional field of each kind. -/
def intricateHeader : Header where
  name := "\""
  text := ""
  slots := 255
  multivalued := some false
  types := [.enumerated]

theorem intricate_documents_read_as_written :
    (∀ v ∈ intricateCriterion.values, v.isTransferable = true) ∧
    (∃ c', (Json.parse? intricateCriterion.toJson.text).bind Criterion.ofJson? = some c' ∧
      c'.same intricateCriterion = true ∧
      c'.values.map Value.scale? = intricateCriterion.values.map Value.scale?) ∧
    (Json.parse? intricateHeader.toJson.text).bind Header.ofJson? = some intricateHeader := by
  have hvalues : ∀ v ∈ intricateCriterion.values, v.isTransferable = true := by decide
  exact ⟨hvalues, documents_read_as_written intricateCriterion hvalues intricateHeader⟩

end QueryCriteria
