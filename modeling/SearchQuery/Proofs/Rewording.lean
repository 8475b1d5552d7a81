import Mathlib.Data.List.Forall2
import SearchQuery.Filter

/-! # Shorthands and spellings

  A document can say one thing in several ways. A bare scalar under a field stands for
  an equality, and a bare array for a membership; an operator has a token and a
  symbol; and the key of a box is spelled in two ways. `Filter.Rewording` relates two
  documents that differ in such places only, at any depth and in any number of them.
  Both compile to the same text, or fail for the same reason.

  What is read differs: a bare scalar and an equality are different conditions. So the
  induction compares reading followed by writing, part by part.
-/

namespace SearchQuery

/-! ### Rewording -/

/-- Two spellings that stand for one another: the two of one operator. A text that
    spells no operator stands for itself only. -/
inductive Operator.Respelling : String → String → Prop where
  | same (spelling : String) : Respelling spelling spelling
  | symbol (op : Operator) : Respelling op.token op.symbol
  | token (op : Operator) : Respelling op.symbol op.token

/-- Two keys of clauses that stand for one another: the two of a box. -/
inductive ClauseKey.Respelling : String → String → Prop where
  | same (key : String) : Respelling key key
  | box {key key' : String} (hkey : key ∈ GeoBoundingBox.keys) (hkey' : key' ∈ GeoBoundingBox.keys) :
      Respelling key key'

/-- Two entries of an operator object: their keys stand for one another, and they have
    the same operand, or both none. -/
structure Operator.EntryRewording (entry entry' : String × Option Value) : Prop where
  spelling : Operator.Respelling entry.1 entry'.1
  operand : entry.2 = entry'.2

/-- Two values of a field that say the same about it. -/
inductive Condition.Rewording : Value → Value → Prop where
  | same (v : Value) : Rewording v v
  /-- A bare scalar or date, and an equality written out. -/
  | equals (l : Literal) :
      Rewording l.toValue (.object [((Operator.equality .eq).token, some l.toValue)])
  /-- A bare array, and a membership written out. -/
  | oneOf (items : List Value) :
      Rewording (.array items) (.object [((Operator.membership .isIn).token, some (.array items))])
  /-- Two operator objects. -/
  | operators {fields fields' : Fields Value}
      (hfields : List.Forall₂ Operator.EntryRewording fields fields') :
      Rewording (.object fields) (.object fields')

mutual

/-- Two documents that say the same in other words. -/
inductive Filter.Rewording : Value → Value → Prop where
  /-- What is not reworded, be it a document or not. -/
  | same (v : Value) : Filter.Rewording v v
  | array {items items' : List Value} (hitems : Filter.ItemsRewording items items') :
      Filter.Rewording (.array items) (.array items')
  | object {fields fields' : List (String × Option Value)}
      (hfields : Clause.FieldsRewording fields fields') :
      Filter.Rewording (.object fields) (.object fields')

/-- Two lists of documents, reworded one by one. -/
inductive Filter.ItemsRewording : List Value → List Value → Prop where
  | nil : Filter.ItemsRewording [] []
  | cons {v v' : Value} {items items' : List Value} (hitem : Filter.Rewording v v')
      (hitems : Filter.ItemsRewording items items') :
      Filter.ItemsRewording (v :: items) (v' :: items')

/-- The entries of two documents, reworded one by one. -/
inductive Clause.FieldsRewording :
    List (String × Option Value) → List (String × Option Value) → Prop where
  | nil : Clause.FieldsRewording [] []
  | absent {key key' : String} {fields fields' : List (String × Option Value)}
      (hkey : ClauseKey.Respelling key key') (hfields : Clause.FieldsRewording fields fields') :
      Clause.FieldsRewording ((key, none) :: fields) ((key', none) :: fields')
  | present {key key' : String} {v v' : Value} {fields fields' : List (String × Option Value)}
      (hkey : ClauseKey.Respelling key key') (hvalue : Clause.ValueRewording key v v')
      (hfields : Clause.FieldsRewording fields fields') :
      Clause.FieldsRewording ((key, some v) :: fields) ((key', some v') :: fields')

/-- Two values under a key. -/
inductive Clause.ValueRewording : String → Value → Value → Prop where
  | same (key : String) (v : Value) : Clause.ValueRewording key v v
  | group (connective : Connective) {members members' : List Value}
      (hmembers : Filter.ItemsRewording members members') :
      Clause.ValueRewording connective.key (.array members) (.array members')
  | field {name : String} (hname : name ∉ reservedKeys) {v v' : Value}
      (hvalue : Condition.Rewording v v') : Clause.ValueRewording name v v'

end

/-! ### Spellings of operators and boxes -/

theorem Operator.ofString?_token (op : Operator) : Operator.ofString? op.token = some op := by
  cases op with
  | between => decide
  | _ op => cases op <;> decide

theorem Operator.ofString?_symbol (op : Operator) : Operator.ofString? op.symbol = some op := by
  cases op with
  | between => decide
  | _ op => cases op <;> decide

theorem Operator.Respelling.ofString?_eq {spelling spelling' : String}
    (h : Operator.Respelling spelling spelling') :
    Operator.ofString? spelling' = Operator.ofString? spelling := by
  cases h with
  | same => rfl
  | symbol op => rw [Operator.ofString?_token, Operator.ofString?_symbol]
  | token op => rw [Operator.ofString?_token, Operator.ofString?_symbol]

theorem ClauseKey.ofString_box {key : String} (h : key ∈ GeoBoundingBox.keys) :
    ClauseKey.ofString key = .box := by
  simp only [GeoBoundingBox.keys, List.mem_cons, List.not_mem_nil, or_false] at h
  rcases h with rfl | rfl
  · decide
  · decide

theorem ClauseKey.Respelling.ofString_eq {key key' : String} (h : ClauseKey.Respelling key key') :
    ClauseKey.ofString key' = ClauseKey.ofString key := by
  cases h with
  | same => rfl
  | box hkey hkey' => rw [ClauseKey.ofString_box hkey, ClauseKey.ofString_box hkey']

/-! ### Conditions -/

namespace Comparison

/-- An unknown spelling stands for itself only, so it is the same one in the error. -/
theorem ofSpelling_respelling {spelling spelling' : String}
    (h : Operator.Respelling spelling spelling') (v : Value) :
    ofSpelling spelling' v = ofSpelling spelling v := by
  have hop := h.ofString?_eq
  cases h with
  | same => rfl
  | symbol op => simp only [ofSpelling, hop, Operator.ofString?_token]
  | token op => simp only [ofSpelling, hop, Operator.ofString?_symbol]

theorem ofSpelling_token (op : Operator) (v : Value) : ofSpelling op.token v = ofOperand op v := by
  simp only [ofSpelling, Operator.ofString?_token]

end Comparison

namespace Condition

/-- An object of one operator has the comparison of this operator. -/
theorem ofValue_singleton (op : Operator) (v : Value) :
    ofValue (.object [(op.token, some v)]) =
      (Comparison.ofOperand op v).map fun c => operators [c] := by
  simp only [ofValue, Fields.present, List.filterMap_cons, Option.map_some, List.filterMap_nil,
    List.mapM_cons, List.mapM_nil, Comparison.ofSpelling_token]
  cases Comparison.ofOperand op v <;> rfl

theorem ofValue_toValue (l : Literal) : ofValue l.toValue = .ok (equals l) := by
  cases l <;> rfl

theorem ofOperand_eq (l : Literal) :
    Comparison.ofOperand (.equality .eq) l.toValue = .ok (.equality .eq l) := by
  simp only [Comparison.ofOperand, Literal.ofValue?_toValue]
  rfl

/-- Entries that stand for one another are read to the same comparisons. -/
theorem mapM_respelling {fields fields' : Fields Value}
    (h : List.Forall₂ Operator.EntryRewording fields fields') :
    ((Fields.present fields').mapM fun (spelling, operand) =>
        Comparison.ofSpelling spelling operand) =
      (Fields.present fields).mapM fun (spelling, operand) =>
        Comparison.ofSpelling spelling operand := by
  induction h with
  | nil => rfl
  | @cons entry entry' fields fields' hentry _ ih =>
    obtain ⟨spelling, operand?⟩ := entry
    obtain ⟨spelling', operand?'⟩ := entry'
    obtain ⟨hspelling, hoperand⟩ := hentry
    cases hoperand
    cases operand? with
    | none => exact ih
    | some operand =>
      have hhead := Comparison.ofSpelling_respelling hspelling operand
      simp only [Fields.present, List.filterMap_cons, Option.map_some, List.mapM_cons] at ih ⊢
      rw [ih, hhead]

/-- Values that say the same have the same comparisons, or the same error. -/
theorem Rewording.comparisons_eq {v v' : Value} (h : Condition.Rewording v v') :
    (ofValue v').map comparisons = (ofValue v).map comparisons := by
  cases h with
  | same => rfl
  | equals l =>
    rw [ofValue_singleton, ofOperand_eq, ofValue_toValue]
    rfl
  | oneOf items =>
    rw [ofValue_singleton]
    simp only [Comparison.ofOperand, ofValue]
    cases Comparison.literals (.membership .isIn) (.array items) <;> rfl
  | operators hfields => simp only [ofValue, mapM_respelling hfields]

end Condition

/-! ### Reading followed by writing -/

theorem ClauseKey.ofString_group (connective : Connective) :
    ClauseKey.ofString connective.key = .group connective := by
  cases connective <;> decide

theorem Filter.map_text_array (items : List Value) :
    (Filter.ofValue (.array items)).map Filter.text =
      ((Filter.ofItems items).map Filter.texts).map joinAnd := by
  simp only [Filter.ofValue]
  cases Filter.ofItems items <;> rfl

theorem Filter.map_text_object (fields : Fields Value) :
    (Filter.ofValue (.object fields)).map Filter.text =
      ((Clause.ofFields fields).map Clause.texts).map joinAnd := by
  simp only [Filter.ofValue]
  cases Clause.ofFields fields <;> rfl

theorem Filter.map_texts_cons (v : Value) (items : List Value) :
    (Filter.ofItems (v :: items)).map Filter.texts = (do
      let text ← (Filter.ofValue v).map Filter.text
      let texts ← (Filter.ofItems items).map Filter.texts
      return text :: texts) := by
  simp only [Filter.ofItems]
  cases Filter.ofValue v with
  | error e => rfl
  | ok filter => cases Filter.ofItems items <;> rfl

theorem Clause.map_texts_cons (key : String) (v : Value) (fields : Fields Value) :
    (Clause.ofFields ((key, some v) :: fields)).map Clause.texts = (do
      let text ← (Clause.ofEntry (ClauseKey.ofString key) v).map Clause.text
      let texts ← (Clause.ofFields fields).map Clause.texts
      return text :: texts) := by
  simp only [Clause.ofFields]
  cases Clause.ofEntry (ClauseKey.ofString key) v with
  | error e => rfl
  | ok clause => cases Clause.ofFields fields <;> rfl

/-- The text of a group depends on the texts of its members only. -/
theorem Clause.map_text_group (connective : Connective) (members : List Value) :
    (Clause.ofEntry (.group connective) (.array members)).map Clause.text =
      ((Filter.ofItems members).map Filter.texts).map
        (match connective with | .and => joinAnd | .or => joinOr) := by
  simp only [Clause.ofEntry]
  cases Filter.ofItems members with
  | error e => rfl
  | ok filters => cases connective <;> rfl

/-- The text of a field's clause depends on the comparisons only. -/
theorem Clause.map_text_field (name : String) (v : Value) :
    (Clause.ofEntry (.field name) v).map Clause.text =
      ((Condition.ofValue v).map Condition.comparisons).map fun comparisons =>
        String.intercalate " AND " (comparisons.map (Comparison.text name)) := by
  simp only [Clause.ofEntry]
  cases Condition.ofValue v <;> rfl

/-! ### Documents -/

mutual

/-- Documents that say the same have the same text, or the same error. -/
theorem Filter.Rewording.text_eq : ∀ {v v' : Value}, Filter.Rewording v v' →
    (Filter.ofValue v').map Filter.text = (Filter.ofValue v).map Filter.text
  | _, _, .same _ => rfl
  | _, _, .array hitems => by
    have htexts := hitems.texts_eq
    rw [Filter.map_text_array, Filter.map_text_array, htexts]
  | _, _, .object hfields => by
    have htexts := hfields.texts_eq
    rw [Filter.map_text_object, Filter.map_text_object, htexts]

theorem Filter.ItemsRewording.texts_eq : ∀ {items items' : List Value},
    Filter.ItemsRewording items items' →
    (Filter.ofItems items').map Filter.texts = (Filter.ofItems items).map Filter.texts
  | _, _, .nil => rfl
  | _, _, .cons hitem hitems => by
    have hhead := hitem.text_eq
    have htail := hitems.texts_eq
    rw [Filter.map_texts_cons, Filter.map_texts_cons, hhead, htail]

theorem Clause.FieldsRewording.texts_eq : ∀ {fields fields' : List (String × Option Value)},
    Clause.FieldsRewording fields fields' →
    (Clause.ofFields fields').map Clause.texts = (Clause.ofFields fields).map Clause.texts
  | _, _, .nil => rfl
  | _, _, .absent _ hfields => hfields.texts_eq
  | _, _, .present hkey hvalue hfields => by
    have hhead := hvalue.text_eq
    have htail := hfields.texts_eq
    rw [Clause.map_texts_cons, Clause.map_texts_cons, hkey.ofString_eq, hhead, htail]

/-- The key tells how a value is read, so the values are compared under one key. -/
theorem Clause.ValueRewording.text_eq : ∀ {key : String} {v v' : Value},
    Clause.ValueRewording key v v' →
    (Clause.ofEntry (ClauseKey.ofString key) v').map Clause.text =
      (Clause.ofEntry (ClauseKey.ofString key) v).map Clause.text
  | _, _, _, .same _ _ => rfl
  | _, _, _, .group connective hmembers => by
    have htexts := hmembers.texts_eq
    rw [ClauseKey.ofString_group, Clause.map_text_group, Clause.map_text_group, htexts]
  | _, _, _, .field hname hvalue => by
    rw [ClauseKey.ofString_of_not_mem hname, Clause.map_text_field, Clause.map_text_field,
      hvalue.comparisons_eq]

end

/-- Shorthands and spellings have no effect: a reworded document compiles to the same
    text, or fails with the same error. -/
theorem compileFilter_rewording {v v' : Value} (h : Filter.Rewording v v') :
    compileFilter v' = compileFilter v :=
  h.text_eq

/-- A group with shorthands, a box, and an operator object with an unknown operator behind
    a faulty operand. -/
theorem compileFilter_rewording_group :
    compileFilter (.object [
        ("$or", some (.array [
          .object [("name", some (.object [("$eq", some (.string "John"))]))],
          .object [("tags", some (.object [("$in", some (.array [.null]))]))]])),
        ("$geoBoundingBox", none),
        ("age", some (.object [("<=", none), (">", some (.string "a")), ("near", some .null)]))]) =
      compileFilter (.object [
        ("$or", some (.array [
          .object [("name", some (.string "John"))],
          .object [("tags", some (.array [.null]))]])),
        ("$geoRoundingBox", none),
        ("age", some (.object [("$lte", none), ("$gt", some (.string "a")), ("near", some .null)]))]) := by
  have hgroup := Filter.ItemsRewording.cons
    (.object (.present (.same "name") (.field (by decide) (.equals (.string "John"))) .nil))
    (.cons (.object (.present (.same "tags") (.field (by decide) (.oneOf [.null])) .nil)) .nil)
  have hage : Condition.Rewording
      (.object [("$lte", none), ("$gt", some (.string "a")), ("near", some .null)])
      (.object [("<=", none), (">", some (.string "a")), ("near", some .null)]) :=
    .operators (.cons ⟨.symbol (.order .lte), rfl⟩ (.cons ⟨.symbol (.order .gt), rfl⟩
      (.cons ⟨.same "near", rfl⟩ .nil)))
  refine compileFilter_rewording (.object (.present (.same "$or") (.group .or hgroup)
    (.absent (.box ?_ ?_) (.present (.same "age") (.field ?_ hage) .nil)))) <;> decide

end SearchQuery
