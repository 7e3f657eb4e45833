import QueryCriteria.Json.Number
import QueryCriteria.Proofs.Json.Quoted
import QueryCriteria.Proofs.Text.Digit

/-!
# Documents are read as they were written

* `Plain` — documents built from truth values, integers, texts, arrays and records.
* `Delimited`, `Readable` — what follows a value inside a document, and that a value is read back
  in front of it.
* `number?_integer`, `items?_render`, `entries?_render` — the parts of a document, read in front of
  what follows them.
* `Plain.readable`, `parse?_text` — a plain document is read back from its compact text.
-/

namespace QueryCriteria.Json

/-- Documents of truth values, integers, texts, arrays and records. -/
inductive Plain : Json → Prop where
  | null : Plain .null
  | bool (b : Bool) : Plain (.bool b)
  | integer (i : Int) : Plain (ofInteger i)
  | text (s : String) : Plain (ofString s)
  | array {items : List Json} (hitems : ∀ v ∈ items, Plain v) : Plain (.array items)
  | record {entries : List (String × Json)} (hentries : ∀ e ∈ entries, Plain e.2) :
    Plain (record entries)

/-- What may follow a value in a compact document: its end, or a character that ends the value. -/
def Delimited (s : List Char) : Prop :=
  ∀ c, s.head? = some c → c = ',' ∨ c = ']' ∨ c = '}'

/-- A document that is read back, with enough fuel, in front of whatever may follow it. -/
def Readable (j : Json) : Prop :=
  ∀ fuel rest, j.render.length ≤ fuel → Delimited rest →
    value? fuel (j.render ++ rest) = some (j, rest)

theorem delimited_nil : Delimited [] := by
  intro c hc
  cases hc

theorem delimited_cons {c : Char} (h : c = ',' ∨ c = ']' ∨ c = '}') (s : List Char) :
    Delimited (c :: s) := by
  intro d hd
  cases hd
  exact h

theorem Delimited.noDigitHead {s : List Char} (h : Delimited s) : Text.NoDigitHead s := by
  intro c hc
  obtain rfl | rfl | rfl := h c hc <;> rfl

theorem skip_cons {c : Char} (h : isSpace c = false) (s : List Char) : skip (c :: s) = c :: s := by
  rw [skip, List.dropWhile_cons_of_neg (by rw [h]; decide)]

/-! ## Numbers -/

theorem digits?_append {ds rest : List Char} (hds : Text.AllDigits ds) (hne : ds ≠ [])
    (hrest : Text.NoDigitHead rest) : digits? (ds ++ rest) = some (ds, rest) := by
  have hempty : ds.isEmpty = false := List.isEmpty_eq_false_iff.2 hne
  simp only [digits?, Text.takeWhile_isDigit_append hds hrest,
    Text.dropWhile_isDigit_append hds hrest, hempty, Bool.false_eq_true, if_false]

/-- The digits of a number have no leading zero to stand alone. -/
theorem whole?_digits (n : Nat) {rest : List Char} (hrest : Text.NoDigitHead rest) :
    whole? (Text.digits n ++ rest) = some (Text.digits n, rest) := by
  obtain rfl | hpos := Nat.eq_zero_or_pos n
  · rfl
  · have hread := digits?_append (Text.allDigits_digits n) (Text.digits_ne_nil n) hrest
    obtain ⟨c, s, hcs, -⟩ := (Text.allDigits_digits n).exists_cons (Text.digits_ne_nil n)
    have hzero : c ≠ '0' := by
      intro hc
      exact Text.head?_digits_ne_zero hpos (by rw [hcs, hc]; rfl)
    rw [hcs, List.cons_append] at hread ⊢
    rw [whole?]
    · exact hread
    · intro _ hc
      exact hzero (List.cons.inj hc).1

theorem fraction?_delimited {s : List Char} (h : Delimited s) : fraction? s = some ([], s) := by
  rw [fraction?.eq_def]
  split
  · rcases h '.' rfl with h | h | h <;> cases h
  · rfl

theorem exponent?_delimited {s : List Char} (h : Delimited s) : exponent? s = some ([], s) := by
  cases s with
  | nil => rfl
  | cons c s =>
    obtain rfl | rfl | rfl := h c rfl <;> rfl

theorem number?_integer (i : Int) {rest : List Char} (hrest : Delimited rest) :
    number? (Text.integer i ++ rest) = some (Text.integer i, rest) := by
  have hwhole := whole?_digits i.natAbs hrest.noDigitHead
  have hfraction := fraction?_delimited hrest
  have hexponent := exponent?_delimited hrest
  unfold Text.integer
  split_ifs with hneg
  · simp [number?, hwhole, hfraction, hexponent]
  · obtain ⟨c, s, hcs, hdigit⟩ :=
      (Text.allDigits_digits i.natAbs).exists_cons (Text.digits_ne_nil _)
    have hminus : c ≠ '-' := Text.ne_of_isDigit hdigit rfl
    rw [hcs] at hwhole ⊢
    simp only [List.cons_append] at hwhole ⊢
    simp [number?, hminus, hwhole, hfraction, hexponent]

/-- The first character of an integer. -/
theorem exists_integer_eq_cons (i : Int) :
    ∃ c s, Text.integer i = c :: s ∧ (c = '-' ∨ c.isDigit = true) := by
  unfold Text.integer
  split_ifs with hneg
  · exact ⟨'-', _, rfl, .inl rfl⟩
  · obtain ⟨c, s, hcs, hdigit⟩ :=
      (Text.allDigits_digits i.natAbs).exists_cons (Text.digits_ne_nil _)
    exact ⟨c, s, hcs, .inr hdigit⟩

theorem isSpace_of_number {c : Char} (hc : c = '-' ∨ c.isDigit = true) : isSpace c = false := by
  obtain rfl | hdigit := hc
  · rfl
  · rw [Bool.eq_false_iff]
    intro hspace
    simp only [isSpace, Bool.or_eq_true, beq_iff_eq] at hspace
    rcases hspace with ((rfl | rfl) | rfl) | rfl <;> cases hdigit

theorem value?_number {s lexeme tail : List Char} {c : Char} (hc : c = '-' ∨ c.isDigit = true)
    (hnumber : number? (c :: s) = some (lexeme, tail)) (fuel : Nat) :
    value? (fuel + 1) (c :: s) = some (.number lexeme, tail) := by
  rw [value?, skip_cons (isSpace_of_number hc)]
  -- A sign or a digit begins no document of another kind.
  split <;> simp_all

/-! ## Values -/

theorem renderItems_eq (items : List Json) : renderItems items = items.map render := by
  induction items with
  | nil => rfl
  | cons v vs ih => rw [renderItems, ih, List.map_cons]

theorem renderEntries_eq (entries : List (List Char × Json)) :
    renderEntries entries = entries.map fun e => quoted e.1 ++ ':' :: e.2.render := by
  induction entries with
  | nil => rfl
  | cons e entries ih => rw [renderEntries, ih, List.map_cons]

/-- A plain document begins with neither a space nor a closing bracket. -/
theorem Plain.exists_cons {j : Json} (h : Plain j) :
    ∃ c s, j.render = c :: s ∧ isSpace c = false ∧ c ≠ ']' := by
  cases h with
  | null => exact ⟨'n', _, rfl, rfl, by decide⟩
  | bool b =>
    cases b with
    | false => exact ⟨'f', _, rfl, rfl, by decide⟩
    | true => exact ⟨'t', _, rfl, rfl, by decide⟩
  | integer i =>
    obtain ⟨c, s, hcs, hc⟩ := exists_integer_eq_cons i
    refine ⟨c, s, hcs, isSpace_of_number hc, ?_⟩
    rintro rfl
    rcases hc with hc | hc <;> cases hc
  | text s => exact ⟨'"', _, rfl, rfl, by decide⟩
  | array hitems => exact ⟨'[', _, rfl, rfl, by decide⟩
  | record hentries => exact ⟨'{', _, rfl, rfl, by decide⟩

theorem items?_last {fuel : Nat} {s tail : List Char} {v : Json}
    (hv : value? fuel s = some (v, ']' :: tail)) : items? (fuel + 1) s = some ([v], tail) := by
  simp [items?, hv, skip_cons, isSpace]

theorem items?_more {fuel : Nat} {s more tail : List Char} {v : Json} {vs : List Json}
    (hv : value? fuel s = some (v, ',' :: more)) (hvs : items? fuel more = some (vs, tail)) :
    items? (fuel + 1) s = some (v :: vs, tail) := by
  simp [items?, hv, hvs, skip_cons, isSpace]

theorem items?_render {items : List Json} (hne : items ≠ []) (hread : ∀ v ∈ items, Readable v) :
    ∀ fuel rest, ([','].intercalate (items.map render)).length < fuel →
      items? fuel ([','].intercalate (items.map render) ++ ']' :: rest) = some (items, rest) := by
  induction items with
  | nil => exact absurd rfl hne
  | cons v vs ih =>
    intro fuel rest hfuel
    obtain ⟨fuel, rfl⟩ : ∃ f, fuel = f + 1 := ⟨fuel - 1, by omega⟩
    have hv := hread v List.mem_cons_self fuel
    cases vs with
    | nil =>
      simp only [List.map_cons, List.map_nil, List.intercalate_singleton] at hfuel ⊢
      exact items?_last (hv _ (by omega) (delimited_cons (by simp) rest))
    | cons w ws =>
      have ih := ih (by simp) (fun x hx => hread x (List.mem_cons_of_mem v hx)) fuel rest
      simp only [List.map_cons, List.intercalate_cons_cons, List.append_assoc,
        List.length_append, List.length_cons, List.singleton_append] at hfuel ih ⊢
      exact items?_more (hv _ (by omega) (delimited_cons (by simp) _)) (ih (by omega))

/-- The text of an entry whose key is given as a text. -/
def entryText (e : String × Json) : List Char :=
  quoted (escape e.1.toList) ++ ':' :: e.2.render

theorem entryText_append (e : String × Json) (s : List Char) :
    entryText e ++ s = '"' :: (escape e.1.toList ++ '"' :: ':' :: (e.2.render ++ s)) := by
  simp [entryText, quoted]

theorem length_render_lt_entryText (e : String × Json) :
    e.2.render.length < (entryText e).length := by
  simp only [entryText, quoted, List.length_append, List.length_cons]
  omega

theorem entries?_last {fuel : Nat} {e : String × Json} {s tail : List Char}
    (hv : value? fuel (e.2.render ++ s) = some (e.2, '}' :: tail)) :
    entries? (fuel + 1) (entryText e ++ s) = some ([(escape e.1.toList, e.2)], tail) := by
  simp [entryText_append, entries?, rawString?_escape, hv, skip_cons, isSpace]

theorem entries?_more {fuel : Nat} {e : String × Json} {s more tail : List Char}
    {es : List (List Char × Json)}
    (hv : value? fuel (e.2.render ++ s) = some (e.2, ',' :: more))
    (hes : entries? fuel more = some (es, tail)) :
    entries? (fuel + 1) (entryText e ++ s) = some ((escape e.1.toList, e.2) :: es, tail) := by
  simp [entryText_append, entries?, rawString?_escape, hv, hes, skip_cons, isSpace]

theorem entries?_render {entries : List (String × Json)} (hne : entries ≠ [])
    (hread : ∀ e ∈ entries, Readable e.2) :
    ∀ fuel rest, ([','].intercalate (entries.map entryText)).length < fuel →
      entries? fuel ([','].intercalate (entries.map entryText) ++ '}' :: rest) =
        some (entries.map fun e => (escape e.1.toList, e.2), rest) := by
  induction entries with
  | nil => exact absurd rfl hne
  | cons e es ih =>
    intro fuel rest hfuel
    obtain ⟨fuel, rfl⟩ : ∃ f, fuel = f + 1 := ⟨fuel - 1, by omega⟩
    have hv := hread e List.mem_cons_self fuel
    have hlength := length_render_lt_entryText e
    cases es with
    | nil =>
      simp only [List.map_cons, List.map_nil, List.intercalate_singleton] at hfuel ⊢
      exact entries?_last (hv _ (by omega) (delimited_cons (by simp) rest))
    | cons f fs =>
      have ih := ih (by simp) (fun x hx => hread x (List.mem_cons_of_mem e hx)) fuel rest
      simp only [List.map_cons, List.intercalate_cons_cons, List.append_assoc,
        List.length_append, List.length_cons, List.singleton_append] at hfuel ih ⊢
      exact entries?_more (hv _ (by omega) (delimited_cons (by simp) _)) (ih (by omega))

/-! ## Whole documents -/

theorem render_record (entries : List (String × Json)) :
    (record entries).render = bracketed '{' '}' (entries.map entryText) := by
  rw [record, render, renderEntries_eq, List.map_map]
  rfl

theorem exists_intercalate_cons (separator first : List Char) (others : List (List Char)) :
    ∃ s, separator.intercalate (first :: others) = first ++ s := by
  cases others with
  | nil => exact ⟨[], by simp⟩
  | cons second others => exact ⟨_, by rw [List.intercalate_cons_cons, List.append_assoc]⟩

theorem value?_array {fuel : Nat} {c : Char} {s tail : List Char} {items : List Json}
    (hspace : isSpace c = false) (hbracket : c ≠ ']')
    (hitems : items? fuel (c :: s) = some (items, tail)) :
    value? (fuel + 1) ('[' :: c :: s) = some (.array items, tail) := by
  simp [value?, skip_cons, isSpace, skip_cons hspace, hbracket, hitems]

theorem value?_object {fuel : Nat} {s tail : List Char} {entries : List (List Char × Json)}
    (hentries : entries? fuel ('"' :: s) = some (entries, tail)) :
    value? (fuel + 1) ('{' :: '"' :: s) = some (.object entries, tail) := by
  simp [value?, skip_cons, isSpace, hentries]

/-- No plain document is empty, so that there is some fuel for it. -/
theorem Plain.readable_of_succ {j : Json} (hj : Plain j)
    (h : ∀ fuel rest, j.render.length ≤ fuel + 1 → Delimited rest →
      value? (fuel + 1) (j.render ++ rest) = some (j, rest)) : Readable j := by
  intro fuel rest hfuel hrest
  obtain ⟨c, s, hcs, -⟩ := hj.exists_cons
  cases fuel with
  | zero => simp [hcs] at hfuel
  | succ fuel => exact h fuel rest hfuel hrest

theorem Plain.readable {j : Json} (h : Plain j) : Readable j := by
  -- Each value is read for all fuels and in front of all texts, as what holds it reads on behind it.
  induction h with
  | null =>
    refine Plain.null.readable_of_succ fun fuel rest _ _ => ?_
    simp [render, value?, skip_cons, isSpace]
  | bool b =>
    refine (Plain.bool b).readable_of_succ fun fuel rest _ _ => ?_
    cases b <;> simp [render, value?, skip_cons, isSpace]
  | integer i =>
    refine (Plain.integer i).readable_of_succ fun fuel rest _ hrest => ?_
    have hnumber := number?_integer i hrest
    obtain ⟨c, s, hcs, hc⟩ := exists_integer_eq_cons i
    simp only [ofInteger, render, hcs, List.cons_append] at hnumber ⊢
    exact value?_number hc hnumber fuel
  | text s =>
    refine (Plain.text s).readable_of_succ fun fuel rest _ _ => ?_
    simp [ofString, render, quoted, value?, rawString?_escape, skip_cons, isSpace]
  | @array items hitems ih =>
    refine (Plain.array hitems).readable_of_succ fun fuel rest hfuel _ => ?_
    simp only [render, renderItems_eq, bracketed, List.cons_append, List.append_assoc,
      List.nil_append, List.length_cons, List.length_append, List.length_nil] at hfuel ⊢
    cases items with
    | nil => rfl
    | cons v vs =>
      have hread := items?_render (List.cons_ne_nil v vs) ih fuel rest (by omega)
      obtain ⟨c, s, hcs, hspace, hbracket⟩ := (hitems v List.mem_cons_self).exists_cons
      obtain ⟨t, ht⟩ := exists_intercalate_cons [','] v.render (vs.map render)
      rw [List.map_cons, ht, hcs] at hread ⊢
      exact value?_array hspace hbracket hread
  | @record entries hentries ih =>
    refine (Plain.record hentries).readable_of_succ fun fuel rest hfuel _ => ?_
    simp only [render_record, bracketed, List.cons_append, List.append_assoc,
      List.nil_append, List.length_cons, List.length_append, List.length_nil] at hfuel ⊢
    cases entries with
    | nil => rfl
    | cons e es =>
      have hread := entries?_render (List.cons_ne_nil e es) ih fuel rest (by omega)
      obtain ⟨t, ht⟩ := exists_intercalate_cons [','] (entryText e) (es.map entryText)
      rw [List.map_cons, ht, List.append_assoc, entryText_append] at hread ⊢
      exact value?_object hread

/-- **A plain document is read back from its compact text.** -/
theorem parse?_text {j : Json} (h : Plain j) : parse? j.text = some j := by
  have hread := h.readable (j.render.length + 1) [] (by omega) delimited_nil
  rw [List.append_nil] at hread
  rw [parse?, text, String.toList_ofList, hread]
  rfl

end QueryCriteria.Json
