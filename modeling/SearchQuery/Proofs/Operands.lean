import Mathlib.Data.List.Basic
import Mathlib.Data.Set.Function
import Mathlib.Tactic.Push
import SearchQuery.Comparison

/-! # Operands

  What each operator takes, told without the functions that test it. `Operator.Takes`
  lists the operands of every group of operators, and `Operator.Rejects` lists the other
  values, each with the reason that is given.

  A comparison is nothing but an operator and an operand that it takes: testing an operand
  gives exactly the comparison with this operator and this operand, if there is one. So
  nothing is lost, and no two pairs give the same comparison.
-/

namespace SearchQuery

/-! ### Contracts -/

/-- Whether a value is a scalar or a date. -/
def Value.IsScalar : Value → Prop
  | .array _ | .object _ => False
  | _ => True

/-- Whether a value is a number or a date. -/
inductive Value.IsQuantity : Value → Prop where
  | number (n : Number) : IsQuantity (.number n)
  | date (t : Timestamp) : IsQuantity (.date t)

/-- Whether two values can be the bounds of a range: two numbers of any kinds, two dates, or
    two strings. -/
inductive Value.AreBounds : Value → Value → Prop where
  | numbers (lower upper : Number) : AreBounds (.number lower) (.number upper)
  | dates (lower upper : Timestamp) : AreBounds (.date lower) (.date upper)
  | strings (lower upper : String) : AreBounds (.string lower) (.string upper)

namespace Operator

/-- The operands that an operator takes. -/
inductive Takes : Operator → Value → Prop where
  | scalar (op : Equality) {v : Value} (h : v.IsScalar) : Takes (.equality op) v
  | quantity (op : Order) {v : Value} (h : v.IsQuantity) : Takes (.order op) v
  | scalars (op : Membership) {items : List Value} (h : ∀ v ∈ items, v.IsScalar) :
      Takes (.membership op) (.array items)
  | flag (op : State) (b : Bool) : Takes (.state op) (.bool b)
  | bounds {lower upper : Value} (h : Value.AreBounds lower upper) :
      Takes .between (.array [lower, upper])
  | string (op : StringTest) (s : String) : Takes (.stringTest op) (.string s)

/-- The values that an operator does not take, and why. The number of bounds counts before
    their types. -/
inductive Rejects : Operator → Value → QueryError → Prop where
  | scalar (op : Equality) {v : Value} (h : ¬ v.IsScalar) :
      Rejects (.equality op) v (.typeMismatch (.equality op) .scalar)
  | quantity (op : Order) {v : Value} (h : ¬ v.IsQuantity) :
      Rejects (.order op) v (.typeMismatch (.order op) .numberOrDate)
  | array (op : Membership) {v : Value} (h : ∀ items, v ≠ .array items) :
      Rejects (.membership op) v (.typeMismatch (.membership op) .array)
  | scalars (op : Membership) {items : List Value} (h : ∃ v ∈ items, ¬ v.IsScalar) :
      Rejects (.membership op) (.array items) (.typeMismatch (.membership op) .scalarItems)
  | flag (op : State) {v : Value} (h : ∀ b, v ≠ .bool b) :
      Rejects (.state op) v (.typeMismatch (.state op) .flag)
  | range {v : Value} (h : ∀ items, v ≠ .array items) :
      Rejects .between v (.typeMismatch .between .array)
  | length {items : List Value} (h : items.length ≠ 2) :
      Rejects .between (.array items) (.invalidRange .length)
  | bounds {lower upper : Value} (h : ¬ Value.AreBounds lower upper) :
      Rejects .between (.array [lower, upper]) (.invalidRange .types)
  | string (op : StringTest) {v : Value} (h : ∀ s, v ≠ .string s) :
      Rejects (.stringTest op) v (.typeMismatch (.stringTest op) .string)

end Operator

/-! ### Reading parts of operands -/

namespace Literal

theorem ofValue?_eq_some_iff {v : Value} {l : Literal} : ofValue? v = some l ↔ l.toValue = v := by
  constructor
  · intro h
    cases v with
    | array items => cases h
    | object fields => cases h
    | _ =>
      cases h
      rfl
  · intro h
    rw [← h]
    exact l.ofValue?_toValue

theorem ofValue?_eq_none_iff {v : Value} : ofValue? v = none ↔ ¬ v.IsScalar := by
  cases v <;> simp [ofValue?, Value.IsScalar]

/-- A list of literals is read item by item, in order. -/
theorem mapM_ofValue?_eq_some_iff {items : List Value} {ls : List Literal} :
    items.mapM ofValue? = some ls ↔ ls.map toValue = items := by
  induction items generalizing ls with
  | nil => simp [eq_comm]
  | cons v items ih =>
    rw [List.mapM_cons]
    simp only [Option.bind_eq_bind, Option.bind_eq_some_iff, Option.pure_def, Option.some_inj,
      ofValue?_eq_some_iff, ih, List.map_eq_cons_iff]
    constructor
    · intro h
      obtain ⟨l, hl, ls', hls, heq⟩ := h
      exact ⟨l, ls', heq.symm, hl, hls⟩
    · intro h
      obtain ⟨l, ls', heq, hl, hls⟩ := h
      exact ⟨l, hl, ls', hls, heq.symm⟩

theorem mapM_ofValue?_eq_none_iff {items : List Value} :
    items.mapM ofValue? = none ↔ ∃ v ∈ items, ¬ v.IsScalar := by
  induction items with
  | nil => simp
  | cons v items ih =>
    simp only [List.mem_cons, exists_eq_or_imp]
    rw [List.mapM_cons, ← ih, ← ofValue?_eq_none_iff]
    cases ofValue? v with
    | none => simp
    | some l => cases items.mapM ofValue? <;> simp

end Literal

theorem Quantity.ofValue?_eq_some_iff {v : Value} {q : Quantity} :
    ofValue? v = some q ↔ q.toLiteral.toValue = v := by
  constructor
  · intro h
    cases v with
    | number n =>
      cases h
      rfl
    | date t =>
      cases h
      rfl
    | _ => cases h
  · intro h
    rw [← h]
    cases q <;> rfl

theorem Quantity.ofValue?_eq_none_iff {v : Value} : ofValue? v = none ↔ ¬ v.IsQuantity := by
  constructor
  · intro h hquantity
    cases hquantity with
    | number n => cases h
    | date t => cases h
  · intro h
    cases v with
    | number n => exact absurd (.number n) h
    | date t => exact absurd (.date t) h
    | _ => rfl

namespace Range

theorem ofItems_eq_ok_iff {items : List Value} {range : Range} :
    ofItems items = .ok range ↔ [range.lower.toValue, range.upper.toValue] = items := by
  constructor
  · intro h
    unfold ofItems at h
    split at h
    · cases h
      rfl
    · cases h
      rfl
    · cases h
      rfl
    · cases h
    · cases h
  · intro h
    rw [← h]
    cases range <;> rfl

theorem ofItems_of_areBounds {lower upper : Value} (h : Value.AreBounds lower upper) :
    ∃ range, ofItems [lower, upper] = .ok range := by
  cases h with
  | numbers lo hi => exact ⟨numbers lo hi, rfl⟩
  | dates lo hi => exact ⟨dates lo hi, rfl⟩
  | strings lo hi => exact ⟨strings lo hi, rfl⟩

theorem ofItems_of_not_areBounds {lower upper : Value} (h : ¬ Value.AreBounds lower upper) :
    ofItems [lower, upper] = .error .types := by
  cases hread : ofItems [lower, upper] with
  | ok range =>
    -- the literals of a range have one type
    have hitems := ofItems_eq_ok_iff.mp hread
    cases range with
    | numbers lo hi =>
      cases hitems
      exact absurd (.numbers lo hi) h
    | dates lo hi =>
      cases hitems
      exact absurd (.dates lo hi) h
    | strings lo hi =>
      cases hitems
      exact absurd (.strings lo hi) h
  | error e =>
    unfold ofItems at hread
    split at hread
    · cases hread
    · cases hread
    · cases hread
    · exact hread.symm
    · next hlength => exact absurd rfl (hlength lower upper)

/-- The number of bounds is tested before their types. -/
theorem ofItems_of_length_ne {items : List Value} (h : items.length ≠ 2) :
    ofItems items = .error .length := by
  match items with
  | [] | [_] | _ :: _ :: _ :: _ => simp [ofItems]
  | [_, _] => exact absurd rfl h

end Range

/-! ### Testing operands -/

theorem Value.bool?_eq_some_iff {v : Value} {b : Bool} : v.bool? = some b ↔ .bool b = v := by
  cases v <;> simp [bool?, eq_comm]

theorem Value.bool?_eq_none_iff {v : Value} : v.bool? = none ↔ ∀ b, v ≠ .bool b := by
  cases v <;> simp [bool?]

theorem Value.string?_eq_some_iff {v : Value} {s : String} : v.string? = some s ↔ .string s = v := by
  cases v <;> simp [string?, eq_comm]

theorem Value.string?_eq_none_iff {v : Value} : v.string? = none ↔ ∀ s, v ≠ .string s := by
  cases v <;> simp [string?]

theorem Value.items?_eq_some_iff {v : Value} {items : List Value} :
    v.items? = some items ↔ .array items = v := by
  cases v <;> simp [items?, eq_comm]

theorem Value.items?_eq_none_iff {v : Value} : v.items? = none ↔ ∀ items, v ≠ .array items := by
  cases v <;> simp [items?]

namespace Comparison

theorem require_eq_ok_iff {α : Type} {op : Operator} {expected : Requirement} {a? : Option α}
    {a : α} : require op expected a? = .ok a ↔ a? = some a := by
  cases a? <;> simp [require]

theorem require_of_none {α : Type} (op : Operator) (expected : Requirement) {a? : Option α}
    (h : a? = none) : require op expected a? = .error (.typeMismatch op expected) := by
  rw [h]
  rfl

theorem literals_eq_ok_iff {op : Operator} {v : Value} {ls : List Literal} :
    literals op v = .ok ls ↔ .array (ls.map Literal.toValue) = v := by
  unfold literals
  simp only [bind_eq_ok_iff, require_eq_ok_iff, Literal.mapM_ofValue?_eq_some_iff,
    Value.items?_eq_some_iff]
  constructor
  · intro h
    obtain ⟨items, hitems, hls⟩ := h
    rw [hls, hitems]
  · intro h
    exact ⟨_, h, rfl⟩

theorem range_eq_ok_iff {v : Value} {r : Range} :
    range v = .ok r ↔ .array [r.lower.toValue, r.upper.toValue] = v := by
  unfold range
  simp only [bind_eq_ok_iff, require_eq_ok_iff, mapError_eq_ok_iff, Range.ofItems_eq_ok_iff,
    Value.items?_eq_some_iff]
  constructor
  · intro h
    obtain ⟨items, hitems, hbounds⟩ := h
    rw [hbounds, hitems]
  · intro h
    exact ⟨_, h, rfl⟩

/-- Testing an operand gives the comparison with this operator and this operand. -/
theorem ofOperand_eq_ok_iff {op : Operator} {v : Value} {c : Comparison} :
    ofOperand op v = .ok c ↔ c.operator = op ∧ c.operand = v := by
  constructor
  · intro h
    cases op with
    | equality op =>
      obtain ⟨l, hread, rfl⟩ := map_eq_ok_iff.mp h
      exact ⟨rfl, Literal.ofValue?_eq_some_iff.mp (require_eq_ok_iff.mp hread)⟩
    | order op =>
      obtain ⟨q, hread, rfl⟩ := map_eq_ok_iff.mp h
      exact ⟨rfl, Quantity.ofValue?_eq_some_iff.mp (require_eq_ok_iff.mp hread)⟩
    | membership op =>
      obtain ⟨ls, hread, rfl⟩ := map_eq_ok_iff.mp h
      exact ⟨rfl, literals_eq_ok_iff.mp hread⟩
    | state op =>
      obtain ⟨b, hread, rfl⟩ := map_eq_ok_iff.mp h
      exact ⟨rfl, Value.bool?_eq_some_iff.mp (require_eq_ok_iff.mp hread)⟩
    | between =>
      obtain ⟨r, hread, rfl⟩ := map_eq_ok_iff.mp h
      exact ⟨rfl, range_eq_ok_iff.mp hread⟩
    | stringTest op =>
      obtain ⟨s, hread, rfl⟩ := map_eq_ok_iff.mp h
      exact ⟨rfl, Value.string?_eq_some_iff.mp (require_eq_ok_iff.mp hread)⟩
  · intro h
    obtain ⟨rfl, rfl⟩ := h
    cases c with
    | equality op l =>
      exact map_eq_ok_iff.mpr ⟨l, require_eq_ok_iff.mpr (Literal.ofValue?_eq_some_iff.mpr rfl), rfl⟩
    | order op q =>
      exact map_eq_ok_iff.mpr ⟨q, require_eq_ok_iff.mpr (Quantity.ofValue?_eq_some_iff.mpr rfl), rfl⟩
    | membership op ls => exact map_eq_ok_iff.mpr ⟨ls, literals_eq_ok_iff.mpr rfl, rfl⟩
    | state op b => rfl
    | between r => exact map_eq_ok_iff.mpr ⟨r, range_eq_ok_iff.mpr rfl, rfl⟩
    | stringTest op s => rfl

end Comparison

/-! ### Contracts decide -/

namespace Operator

/-- An operator takes a value or rejects it for one of the reasons. -/
theorem takes_or_rejects (op : Operator) (v : Value) : op.Takes v ∨ ∃ e, op.Rejects v e := by
  cases op with
  | equality op =>
    by_cases h : v.IsScalar
    · exact .inl (.scalar op h)
    · exact .inr ⟨_, .scalar op h⟩
  | order op =>
    by_cases h : v.IsQuantity
    · exact .inl (.quantity op h)
    · exact .inr ⟨_, .quantity op h⟩
  | membership op =>
    by_cases harray : ∃ items, v = .array items
    · obtain ⟨items, rfl⟩ := harray
      by_cases h : ∀ v ∈ items, v.IsScalar
      · exact .inl (.scalars op h)
      · push Not at h
        exact .inr ⟨_, .scalars op h⟩
    · push Not at harray
      exact .inr ⟨_, .array op harray⟩
  | state op =>
    by_cases h : ∃ b, v = .bool b
    · obtain ⟨b, rfl⟩ := h
      exact .inl (.flag op b)
    · push Not at h
      exact .inr ⟨_, .flag op h⟩
  | between =>
    by_cases harray : ∃ items, v = .array items
    · obtain ⟨items, rfl⟩ := harray
      by_cases hlength : items.length = 2
      · obtain ⟨lower, upper, rfl⟩ := List.length_eq_two.mp hlength
        by_cases h : Value.AreBounds lower upper
        · exact .inl (.bounds h)
        · exact .inr ⟨_, .bounds h⟩
      · exact .inr ⟨_, .length hlength⟩
    · push Not at harray
      exact .inr ⟨_, .range harray⟩
  | stringTest op =>
    by_cases h : ∃ s, v = .string s
    · obtain ⟨s, rfl⟩ := h
      exact .inl (.string op s)
    · push Not at h
      exact .inr ⟨_, .string op h⟩

/-- What an operator takes makes a comparison. -/
theorem Takes.exists_ofOperand {op : Operator} {v : Value} (h : op.Takes v) :
    ∃ c, Comparison.ofOperand op v = .ok c := by
  simp only [Comparison.ofOperand_eq_ok_iff]
  cases h with
  | scalar op hscalar =>
    obtain ⟨l, hl⟩ := Option.ne_none_iff_exists'.mp fun hnone =>
      Literal.ofValue?_eq_none_iff.mp hnone hscalar
    exact ⟨.equality op l, rfl, Literal.ofValue?_eq_some_iff.mp hl⟩
  | quantity op hquantity =>
    obtain ⟨q, hq⟩ := Option.ne_none_iff_exists'.mp fun hnone =>
      Quantity.ofValue?_eq_none_iff.mp hnone hquantity
    exact ⟨.order op q, rfl, Quantity.ofValue?_eq_some_iff.mp hq⟩
  | @scalars op items hscalars =>
    have hread : items.mapM Literal.ofValue? ≠ none := by
      rw [Ne, Literal.mapM_ofValue?_eq_none_iff]
      push Not
      exact hscalars
    obtain ⟨ls, hls⟩ := Option.ne_none_iff_exists'.mp hread
    exact ⟨.membership op ls, rfl, congrArg Value.array (Literal.mapM_ofValue?_eq_some_iff.mp hls)⟩
  | flag op b => exact ⟨.state op b, rfl, rfl⟩
  | bounds hbounds =>
    obtain ⟨r, hr⟩ := Range.ofItems_of_areBounds hbounds
    exact ⟨.between r, rfl, congrArg Value.array (Range.ofItems_eq_ok_iff.mp hr)⟩
  | string op s => exact ⟨.stringTest op s, rfl, rfl⟩

/-- What an operator rejects makes none, for the reason that is given. -/
theorem Rejects.ofOperand_eq {op : Operator} {v : Value} {e : QueryError} (h : op.Rejects v e) :
    Comparison.ofOperand op v = .error e := by
  cases h with
  | scalar op hscalar =>
    have hnone := Literal.ofValue?_eq_none_iff.mpr hscalar
    rw [Comparison.ofOperand, Comparison.require_of_none _ _ hnone]
    rfl
  | quantity op hquantity =>
    have hnone := Quantity.ofValue?_eq_none_iff.mpr hquantity
    rw [Comparison.ofOperand, Comparison.require_of_none _ _ hnone]
    rfl
  | array op harray =>
    have hnone := Value.items?_eq_none_iff.mpr harray
    rw [Comparison.ofOperand, Comparison.literals, Comparison.require_of_none _ _ hnone]
    rfl
  | scalars op hscalars =>
    have hnone := Literal.mapM_ofValue?_eq_none_iff.mpr hscalars
    show Comparison.membership op <$> Comparison.require _ _ _ = _
    rw [Comparison.require_of_none _ _ hnone]
    rfl
  | flag op hflag =>
    have hnone := Value.bool?_eq_none_iff.mpr hflag
    rw [Comparison.ofOperand, Comparison.require_of_none _ _ hnone]
    rfl
  | range harray =>
    have hnone := Value.items?_eq_none_iff.mpr harray
    rw [Comparison.ofOperand, Comparison.range, Comparison.require_of_none _ _ hnone]
    rfl
  | length hlength =>
    show Comparison.between <$> (Range.ofItems _).mapError QueryError.invalidRange = _
    rw [Range.ofItems_of_length_ne hlength]
    rfl
  | bounds hbounds =>
    show Comparison.between <$> (Range.ofItems _).mapError QueryError.invalidRange = _
    rw [Range.ofItems_of_not_areBounds hbounds]
    rfl
  | string op hstring =>
    have hnone := Value.string?_eq_none_iff.mpr hstring
    rw [Comparison.ofOperand, Comparison.require_of_none _ _ hnone]
    rfl

end Operator

/-- Comparisons and operands that are taken are one and the same. A value makes a comparison
    exactly if the operator takes it; the comparison has this operator and this operand, so
    testing is one-to-one from the pairs that are taken onto all comparisons. Any other value
    fails for the reason for which the operator rejects it. -/
theorem Comparison.ofOperand_bijOn :
    (∀ op v, (∃ c, ofOperand op v = .ok c) ↔ op.Takes v) ∧
    (∀ op v c, ofOperand op v = .ok c ↔ c.operator = op ∧ c.operand = v) ∧
    Set.BijOn (fun pair : Operator × Value => ofOperand pair.1 pair.2)
      {pair | pair.1.Takes pair.2} (Set.range Except.ok) ∧
    (∀ op v e, ofOperand op v = .error e ↔ op.Rejects v e) := by
  have htakes : ∀ op v, (∃ c, ofOperand op v = .ok c) ↔ op.Takes v := by
    intro op v
    refine ⟨?_, Operator.Takes.exists_ofOperand⟩
    intro h
    obtain ⟨c, hc⟩ := h
    rcases op.takes_or_rejects v with htakes | ⟨e, hrejects⟩
    · exact htakes
    · rw [hrejects.ofOperand_eq] at hc
      cases hc
  refine ⟨htakes, fun op v c => ofOperand_eq_ok_iff, ⟨?_, ?_, ?_⟩, ?_⟩
  · -- every pair that is taken makes a comparison
    intro pair hpair
    obtain ⟨c, hc⟩ := (htakes pair.1 pair.2).mpr hpair
    exact ⟨c, hc.symm⟩
  · -- the comparison tells the pair
    intro pair hpair pair' hpair' heq
    obtain ⟨c, hc⟩ := (htakes pair.1 pair.2).mpr hpair
    have hc' : ofOperand pair'.1 pair'.2 = .ok c := by
      rw [← hc]
      exact heq.symm
    obtain ⟨hop, hv⟩ := ofOperand_eq_ok_iff.mp hc
    obtain ⟨hop', hv'⟩ := ofOperand_eq_ok_iff.mp hc'
    exact Prod.ext (hop.symm.trans hop') (hv.symm.trans hv')
  · -- every comparison comes from its own operator and operand
    intro result hresult
    obtain ⟨c, rfl⟩ := hresult
    have hc : ofOperand c.operator c.operand = .ok c := ofOperand_eq_ok_iff.mpr ⟨rfl, rfl⟩
    exact ⟨(c.operator, c.operand), (htakes _ _).mp ⟨c, hc⟩, hc⟩
  · intro op v e
    refine ⟨?_, Operator.Rejects.ofOperand_eq⟩
    intro h
    rcases op.takes_or_rejects v with htaken | ⟨e', hrejects⟩
    · obtain ⟨c, hc⟩ := htaken.exists_ofOperand
      rw [hc] at h
      cases h
    · rw [hrejects.ofOperand_eq] at h
      cases h
      exact hrejects

end SearchQuery
