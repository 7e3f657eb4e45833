import QueryCriteria.Proofs.Text.Blank
import QueryCriteria.Range.RelativeDate

/-!
# Relative-date tokens

The grammar of tokens is stated by what writes them, and the reader is tied to it.

* `RelativeDate.Shape.text`, `RelativeDate.Shape.WellFormed` — the text of a token taken apart, and
  what its codes and its amount are made of.
* `RelativeDate.shape?_eq_some_iff` — taking apart is the inverse of writing.
* `Period.ofCode?_eq_some_iff` — a period has one code.
* `RelativeDate.Amount`, `RelativeDate.Token` — a signed amount of whatever length, and a token
  whose codes are period codes; `Token.text` writes it.
* `RelativeDate.Token.relativeDate?`, `RelativeDate.Token.instant?` — the relative date and the
  instant a token means; none where the amount is no integer of 64 bits, or the instant lies outside
  the calendar.
* `RelativeDate.parse_token` — such a token is read as what it means, or is out of range; it never
  has a bad code.
-/

namespace QueryCriteria

theorem Period.ofCode?_code (p : Period) : ofCode? p.code = some p := by
  cases p <;> decide

theorem Period.ofCode?_eq_some_iff {c : Char} {p : Period} : ofCode? c = some p ↔ c = p.code := by
  constructor
  · intro h
    have hcode := List.find?_some h
    simp only [beq_iff_eq] at hcode
    exact hcode.symm
  · rintro rfl
    exact p.ofCode?_code

theorem Period.isWord_code (p : Period) : Text.isWord p.code = true := by
  cases p <;> decide

namespace RelativeDate

/-! ## Tokens taken apart -/

/-- The base of a token as it is written. -/
def baseText : Option (Edge × Char) → List Char
  | none => ['c', 't']
  | some (.start, code) => ['b', 'o', code]
  | some (.finish, code) => ['e', 'o', code]

/-- The offset of a token as it is written. -/
def offsetText : Option (List Char × Char) → List Char
  | none => []
  | some (amount, code) => amount ++ [code]

/-- A sign and one or more digits, of whatever script. -/
def IsAmount (s : List Char) : Prop :=
  ∃ sign ds, (sign = '+' ∨ sign = '-') ∧ ds ≠ [] ∧ (∀ d ∈ ds, Text.isDigit d = true) ∧
    s = sign :: ds

/-- The parts of an offset are a signed amount and a word character. -/
def IsOffset (offset : Option (List Char × Char)) : Prop :=
  ∀ o, offset = some o → IsAmount o.1 ∧ Text.isWord o.2 = true

/-- The text of a token taken apart. -/
def Shape.text (shape : Shape) : List Char :=
  baseText shape.base ++ offsetText shape.offset

/-- The codes of a token taken apart are word characters, and its amount is signed digits. -/
structure Shape.WellFormed (shape : Shape) : Prop where
  base : ∀ b, shape.base = some b → Text.isWord b.2 = true
  offset : IsOffset shape.offset

theorem offsetShape?_offsetText {offset : Option (List Char × Char)} (h : IsOffset offset) :
    offsetShape? (offsetText offset) = some offset := by
  cases offset with
  | none => rfl
  | some o =>
    obtain ⟨amount, code⟩ := o
    obtain ⟨⟨sign, ds, hsign, hds, hdigits, rfl⟩, hcode⟩ := h (amount, code) rfl
    have hall : ds.all Text.isDigit = true := List.all_eq_true.2 hdigits
    have hne : ds.isEmpty = false := List.isEmpty_eq_false_iff.2 hds
    simp only [offsetText, List.cons_append, offsetShape?, List.getLast?_concat,
      List.dropLast_concat]
    rcases hsign with rfl | rfl <;> simp [hall, hne, hcode]

theorem offsetText_of_offsetShape? {s : List Char} {offset : Option (List Char × Char)}
    (h : offsetShape? s = some offset) : offsetText offset = s ∧ IsOffset offset := by
  cases s with
  | nil =>
    simp only [offsetShape?, Option.some.injEq] at h
    subst h
    exact ⟨rfl, fun o ho => by cases ho⟩
  | cons sign body =>
    cases hlast : body.getLast? with
    | none => simp [offsetShape?, hlast] at h
    | some code =>
      obtain ⟨ds, rfl⟩ := List.getLast?_eq_some_iff.1 hlast
      simp only [offsetShape?, hlast, List.dropLast_concat] at h
      split at h
      · rename_i hparts
        simp only [Bool.and_eq_true, Bool.or_eq_true, beq_iff_eq, Bool.not_eq_true',
          List.isEmpty_eq_false_iff, List.all_eq_true] at hparts
        obtain ⟨⟨⟨hsign, hds⟩, hdigits⟩, hcode⟩ := hparts
        simp only [Option.some.injEq] at h
        subst h
        refine ⟨by simp [offsetText], fun o ho => ?_⟩
        cases ho
        exact ⟨⟨sign, ds, hsign, hds, hdigits, rfl⟩, hcode⟩
      · cases h

theorem offsetShape?_eq_some_iff {s : List Char} {offset : Option (List Char × Char)} :
    offsetShape? s = some offset ↔ offsetText offset = s ∧ IsOffset offset := by
  constructor
  · exact offsetText_of_offsetShape?
  · rintro ⟨rfl, h⟩
    exact offsetShape?_offsetText h

/-- What follows the base of a token is its offset. -/
theorem of_map_offsetShape? {base : Option (Edge × Char)} {rest : List Char} {shape : Shape}
    (hbase : ∀ b, base = some b → Text.isWord b.2 = true)
    (h : (offsetShape? rest).map (fun offset => ⟨base, offset⟩) = some shape) :
    shape.text = baseText base ++ rest ∧ shape.WellFormed := by
  obtain ⟨offset, hoffset, rfl⟩ := Option.map_eq_some_iff.1 h
  obtain ⟨rfl, hparts⟩ := offsetShape?_eq_some_iff.1 hoffset
  exact ⟨rfl, hbase, hparts⟩

/-- **Taking a token apart is the inverse of writing one.** -/
theorem shape?_eq_some_iff {s : List Char} {shape : Shape} :
    shape? s = some shape ↔ shape.text = s ∧ shape.WellFormed := by
  constructor
  · intro h
    unfold shape? at h
    split at h
    · exact of_map_offsetShape? (fun b hb => by cases hb) h
    · split at h
      · rename_i hcode
        exact of_map_offsetShape? (fun b hb => by cases hb; exact hcode) h
      · cases h
    · split at h
      · rename_i hcode
        exact of_map_offsetShape? (fun b hb => by cases hb; exact hcode) h
      · cases h
    · cases h
  · rintro ⟨rfl, hbase, hoffset⟩
    obtain ⟨base, offset⟩ := shape
    have hread := offsetShape?_offsetText hoffset
    rcases base with _ | ⟨_ | _, code⟩
    · simp [shape?, Shape.text, baseText, hread]
    · simp [shape?, Shape.text, baseText, hread, hbase _ rfl]
    · simp [shape?, Shape.text, baseText, hread, hbase _ rfl]

/-! ## Tokens with period codes -/

/-- A sign and one or more digits, of whatever script and number. -/
structure Amount where
  text : List Char
  isAmount : IsAmount text

/-- The integer of 64 bits that an amount stands for, if it stands for one. -/
def Amount.value? (a : Amount) : Option Int64 :=
  Literal.int64? a.text

/-- A token whose codes are period codes. -/
structure Token where
  base : Option (Edge × Period)
  offset : Option (Amount × Period)

namespace Token

/-- A token taken apart. -/
def shape (t : Token) : Shape where
  base := t.base.map fun b => (b.1, b.2.code)
  offset := t.offset.map fun o => (o.1.text, o.2.code)

/-- A token as it is written. -/
def text (t : Token) : List Char :=
  t.shape.text

/-- The relative date a token stands for, if its amount is an integer of 64 bits. -/
def relativeDate? (t : Token) : Option RelativeDate :=
  match t.offset with
  | none => some ⟨String.ofList t.text, t.base, none⟩
  | some (amount, p) =>
    amount.value?.map fun n => ⟨String.ofList t.text, t.base, some (n.toInt, p)⟩

/-- The instant a token means, if its amount is an integer and the instant lies in the calendar. -/
def instant? (t : Token) (ctx : Context) : Option DateTime :=
  t.relativeDate?.bind (·.resolve? ctx)

theorem wellFormed_shape (t : Token) : t.shape.WellFormed where
  base b hb := by
    obtain ⟨base, -, rfl⟩ := Option.map_eq_some_iff.1 hb
    exact base.2.isWord_code
  offset o ho := by
    obtain ⟨offset, -, rfl⟩ := Option.map_eq_some_iff.1 ho
    exact ⟨offset.1.isAmount, offset.2.isWord_code⟩

theorem shape?_text (t : Token) : shape? t.text = some t.shape :=
  shape?_eq_some_iff.2 ⟨rfl, t.wellFormed_shape⟩

/-- A text is a token exactly when it can be taken apart and all its codes are period codes. -/
theorem exists_text_iff {s : List Char} :
    (∃ t : Token, t.text = s) ↔
      ∃ shape, shape? s = some shape ∧
        (∀ b, shape.base = some b → (Period.ofCode? b.2).isSome = true) ∧
        ∀ o, shape.offset = some o → (Period.ofCode? o.2).isSome = true := by
  constructor
  · rintro ⟨t, rfl⟩
    refine ⟨t.shape, t.shape?_text, fun b hb => ?_, fun o ho => ?_⟩
    · obtain ⟨base, -, rfl⟩ := Option.map_eq_some_iff.1 hb
      simp [Period.ofCode?_code]
    · obtain ⟨offset, -, rfl⟩ := Option.map_eq_some_iff.1 ho
      simp [Period.ofCode?_code]
  · rintro ⟨⟨base, offset⟩, hshape, hbase, hoffset⟩
    obtain ⟨rfl, hparts⟩ := shape?_eq_some_iff.1 hshape
    -- A token is put together from the periods of the codes, each part apart.
    have hbase' : ∃ b : Option (Edge × Period), b.map (fun b => (b.1, b.2.code)) = base := by
      cases base with
      | none => exact ⟨none, rfl⟩
      | some b =>
        obtain ⟨p, hp⟩ := Option.isSome_iff_exists.1 (hbase b rfl)
        exact ⟨some (b.1, p), by rw [Option.map_some, ← Period.ofCode?_eq_some_iff.1 hp]⟩
    have hoffset' : ∃ o : Option (Amount × Period), o.map (fun o => (o.1.text, o.2.code)) = offset := by
      cases offset with
      | none => exact ⟨none, rfl⟩
      | some o =>
        obtain ⟨p, hp⟩ := Option.isSome_iff_exists.1 (hoffset o rfl)
        exact ⟨some (⟨o.1, (hparts.offset o rfl).1⟩, p),
          by rw [Option.map_some, ← Period.ofCode?_eq_some_iff.1 hp]⟩
    obtain ⟨b, rfl⟩ := hbase'
    obtain ⟨o, rfl⟩ := hoffset'
    exact ⟨⟨b, o⟩, rfl⟩

end Token

/-! ## Reading -/

theorem periodOf_code (p : Period) (input : String) :
    periodOf (String.singleton p.code) input = .ok p := by
  simp [periodOf, Period.ofCode?_code]

/-- **A token is read as the relative date it stands for**, or is out of range where its amount is
no integer of 64 bits. -/
theorem parse_token (t : Token) :
    parse (String.ofList t.text) =
      match t.relativeDate? with
      | some r => .ok (some r)
      | none => .error (.offsetOutOfRange (String.ofList t.text)) := by
  have hbase : readBase (String.ofList t.text) t.shape.base = .ok t.base := by
    cases hb : t.base with
    | none => simp [Token.shape, hb, readBase]
    | some b => simp [Token.shape, hb, readBase, periodOf_code, Except.map]
  unfold parse
  rw [String.toList_ofList, t.shape?_text]
  simp only [hbase, bind, Except.bind]
  cases ho : t.offset with
  | none => simp [Token.relativeDate?, Token.shape, ho, readOffset, pure, Except.pure]
  | some o =>
    cases hn : Literal.int64? o.1.text with
    | none => simp [Token.relativeDate?, Amount.value?, Token.shape, ho, readOffset, hn]
    | some n =>
      simp [Token.relativeDate?, Amount.value?, Token.shape, ho, readOffset, hn, periodOf_code,
        Except.map, pure, Except.pure]

theorem text_of_relativeDate? {t : Token} {r : RelativeDate} (h : t.relativeDate? = some r) :
    r.text = String.ofList t.text := by
  unfold Token.relativeDate? at h
  split at h
  · cases h
    rfl
  · obtain ⟨n, -, rfl⟩ := Option.map_eq_some_iff.1 h
    rfl

end RelativeDate

end QueryCriteria
