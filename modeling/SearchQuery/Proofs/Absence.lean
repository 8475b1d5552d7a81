import SearchQuery.Filter
import SearchQuery.SortOrder

/-! # Absent entries

  An entry of an object may be absent: its key is there, but it has no value.
  `Value.prune` takes such entries out of a value, at any depth. Every compiler
  gives on the pruned value what it gives on the value itself, be it a text or
  an error.

  A compiler meets an object in one of two ways: it goes through the entries that
  are present, or it asks for the value of a key. Both are settled once, by
  `Fields.present_prune` and `Fields.get?_prune`; what remains is an induction
  over the documents.
-/

namespace SearchQuery

/-! ### Pruning -/

namespace Value

mutual

/-- A value without its absent entries, at any depth. -/
def prune : Value → Value
  | array items => array (pruneItems items)
  | object fields => object (pruneFields fields)
  | v => v

def pruneItems : List Value → List Value
  | [] => []
  | v :: vs => prune v :: pruneItems vs

def pruneFields : List (String × Option Value) → List (String × Option Value)
  | [] => []
  | (_, none) :: fields => pruneFields fields
  | (key, some v) :: fields => (key, some (prune v)) :: pruneFields fields

end

theorem pruneItems_eq_map (items : List Value) : pruneItems items = items.map prune := by
  induction items with
  | nil => rfl
  | cons v vs ih => simp [pruneItems, ih]

theorem bool?_prune (v : Value) : v.prune.bool? = v.bool? := by
  cases v <;> rfl

theorem string?_prune (v : Value) : v.prune.string? = v.string? := by
  cases v <;> rfl

theorem double?_prune (v : Value) : v.prune.double? = v.double? := by
  cases v <;> rfl

theorem items?_prune (v : Value) : v.prune.items? = v.items?.map (List.map prune) := by
  cases v with
  | array items => simp [prune, items?, pruneItems_eq_map]
  | _ => rfl

theorem fields?_prune (v : Value) : v.prune.fields? = v.fields?.map pruneFields := by
  cases v <;> rfl

end Value

open Value (prune pruneItems pruneFields)

/-! ### The two ways to meet an object -/

theorem Fields.present_prune (fields : Fields Value) :
    Fields.present (pruneFields fields) =
      (Fields.present fields).map fun (key, v) => (key, v.prune) := by
  induction fields with
  | nil => rfl
  | cons entry fields ih =>
    obtain ⟨key, v?⟩ := entry
    cases v? with
    | none => simpa [pruneFields, Fields.present] using ih
    | some v => simpa [pruneFields, Fields.present] using ih

theorem Fields.get?_prune (fields : Fields Value) (key : String) :
    Fields.get? (pruneFields fields) key = (Fields.get? fields key).map prune := by
  -- an absent entry is never what a look-up finds, so only the others count
  unfold Fields.get?
  rw [Fields.present_prune, Entries.lookup_map]

/-! ### Operands and conditions -/

theorem Literal.ofValue?_prune (v : Value) : Literal.ofValue? v.prune = Literal.ofValue? v := by
  cases v <;> rfl

theorem Quantity.ofValue?_prune (v : Value) :
    Quantity.ofValue? v.prune = Quantity.ofValue? v := by
  cases v <;> rfl

/-- Pruning an item of a range neither changes its type nor makes it another bound. -/
theorem Range.ofItems_prune (items : List Value) :
    Range.ofItems (items.map prune) = Range.ofItems items := by
  match items with
  | [] => rfl
  | [lo] => cases lo <;> rfl
  | [lo, hi] => cases lo <;> cases hi <;> rfl
  | _ :: _ :: _ :: _ => simp [Range.ofItems]

namespace Comparison

theorem literals_prune (op : Operator) (v : Value) :
    literals op v.prune = literals op v := by
  unfold literals
  rw [Value.items?_prune]
  cases v.items? with
  | none => rfl
  | some items =>
    -- an item that is no scalar is none without its absent entries either
    have hscalars : (items.map prune).mapM Literal.ofValue? = items.mapM Literal.ofValue? := by
      rw [List.mapM_map]
      congr 1
      funext item
      exact Literal.ofValue?_prune item
    show require op .scalarItems ((items.map prune).mapM Literal.ofValue?) = _
    rw [hscalars]
    rfl

theorem range_prune (v : Value) : range v.prune = range v := by
  unfold range
  rw [Value.items?_prune]
  cases v.items? with
  | none => rfl
  | some items =>
    show (Range.ofItems (items.map prune)).mapError QueryError.invalidRange = _
    rw [Range.ofItems_prune]
    rfl

theorem ofOperand_prune (op : Operator) (v : Value) :
    ofOperand op v.prune = ofOperand op v := by
  cases op <;>
    simp only [ofOperand, Literal.ofValue?_prune, Quantity.ofValue?_prune, literals_prune,
      range_prune, Value.bool?_prune, Value.string?_prune]

theorem ofSpelling_prune (spelling : String) (v : Value) :
    ofSpelling spelling v.prune = ofSpelling spelling v := by
  unfold ofSpelling
  cases Operator.ofString? spelling with
  | none => rfl
  | some op => exact ofOperand_prune op v

end Comparison

theorem Condition.ofValue_prune (v : Value) : Condition.ofValue v.prune = Condition.ofValue v := by
  cases v with
  | array items =>
    show oneOf <$> Comparison.literals _ (prune (.array items)) = _
    rw [Comparison.literals_prune]
    rfl
  | object fields =>
    -- an absent operator is not read, so its key need not be an operator
    simp only [prune, Condition.ofValue, Fields.present_prune, List.mapM_map,
      Function.comp_def, Comparison.ofSpelling_prune]
  | _ => rfl

/-! ### Places -/

open GeoError (fieldsAt numberAt)

/-- What stands at a path is an object before pruning exactly when it is one after. -/
theorem GeoError.fieldsAt_prune (path : String) (v? : Option Value) :
    fieldsAt path (v?.map prune) = (fieldsAt path v?).map pruneFields := by
  cases v? with
  | none => rfl
  | some v => cases v <;> rfl

theorem GeoError.numberAt_prune (path : String) (fields : Fields Value) (key : String) :
    numberAt path (pruneFields fields) key = numberAt path fields key := by
  unfold numberAt
  rw [Fields.get?_prune]
  cases Fields.get? fields key with
  | none => rfl
  | some v => simp only [Option.map_some, Option.bind_some, Value.double?_prune]

theorem GeoPoint.ofFields_prune (path : String) (fields : Fields Value) :
    GeoPoint.ofFields path (pruneFields fields) = GeoPoint.ofFields path fields := by
  simp only [GeoPoint.ofFields, GeoError.numberAt_prune]

theorem GeoPoint.ofValue_prune (path : String) (v : Value) :
    GeoPoint.ofValue path v.prune = GeoPoint.ofValue path v := by
  have hfields := GeoError.fieldsAt_prune path (some v)
  unfold GeoPoint.ofValue
  rw [show some v.prune = (some v).map prune from rfl, hfields]
  cases fieldsAt path (some v) with
  | error e => rfl
  | ok fields => exact GeoPoint.ofFields_prune path fields

theorem GeoRadius.ofValue_prune (v : Value) : GeoRadius.ofValue v.prune = GeoRadius.ofValue v := by
  have hfields := GeoError.fieldsAt_prune GeoRadius.key (some v)
  unfold GeoRadius.ofValue
  rw [show some v.prune = (some v).map prune from rfl, hfields]
  cases fieldsAt GeoRadius.key (some v) with
  | error e => rfl
  | ok fields =>
    show (do
      let center ← GeoPoint.ofFields GeoRadius.key (pruneFields fields)
      let distance ← numberAt GeoRadius.key (pruneFields fields) "distanceInMeters"
      return GeoRadius.mk center distance) = _
    rw [GeoPoint.ofFields_prune, GeoError.numberAt_prune]
    rfl

theorem GeoBoundingBox.ofValue_prune (v : Value) :
    GeoBoundingBox.ofValue v.prune = GeoBoundingBox.ofValue v := by
  -- the parts are met in the order of the reader, so the first error is the same one
  unfold GeoBoundingBox.ofValue
  rw [show some v.prune = (some v).map prune from rfl, GeoError.fieldsAt_prune]
  cases fieldsAt GeoBoundingBox.path (some v) with
  | error e => rfl
  | ok fields =>
    simp only [Except.map, bind, Except.bind, Fields.get?_prune, GeoError.fieldsAt_prune]
    cases fieldsAt (GeoError.member GeoBoundingBox.path "topRight")
        (Fields.get? fields "topRight") with
    | error e => rfl
    | ok topRight =>
      cases fieldsAt (GeoError.member GeoBoundingBox.path "bottomLeft")
          (Fields.get? fields "bottomLeft") with
      | error e => rfl
      | ok bottomLeft => simp only [GeoPoint.ofFields_prune]

/-! ### Filters -/

mutual

theorem Filter.ofValue_prune : ∀ v : Value, Filter.ofValue v.prune = Filter.ofValue v
  | .array items => by
    simp only [prune, Filter.ofValue, Filter.ofItems_prune items]
  | .object fields => by
    simp only [prune, Filter.ofValue, Clause.ofFields_prune fields]
  | .null | .bool _ | .number _ | .string _ | .date _ => rfl

theorem Filter.ofItems_prune : ∀ items : List Value,
    Filter.ofItems (pruneItems items) = Filter.ofItems items
  | [] => rfl
  | v :: vs => by
    simp only [pruneItems, Filter.ofItems, Filter.ofValue_prune v, Filter.ofItems_prune vs]

theorem Clause.ofFields_prune : ∀ fields : List (String × Option Value),
    Clause.ofFields (pruneFields fields) = Clause.ofFields fields
  | [] => rfl
  | (_, none) :: fields => by
    simp only [pruneFields, Clause.ofFields, Clause.ofFields_prune fields]
  | (key, some v) :: fields => by
    simp only [pruneFields, Clause.ofFields, Clause.ofEntry_prune _ v, Clause.ofFields_prune fields]

theorem Clause.ofEntry_prune : ∀ (key : ClauseKey) (v : Value),
    Clause.ofEntry key v.prune = Clause.ofEntry key v
  | .group _, .array items => by
    simp only [prune, Clause.ofEntry, Filter.ofItems_prune items]
  | .group _, .object _ | .group _, .null | .group _, .bool _ | .group _, .number _
  | .group _, .string _ | .group _, .date _ => rfl
  | .radius, v => by simp only [Clause.ofEntry, GeoRadius.ofValue_prune]
  | .box, v => by simp only [Clause.ofEntry, GeoBoundingBox.ofValue_prune]
  | .field _, v => by simp only [Clause.ofEntry, Condition.ofValue_prune]

end

/-! ### Sort orders -/

theorem Direction.valueText_prune (v : Value) :
    Direction.valueText v.prune = Direction.valueText v := by
  cases v <;> rfl

theorem Direction.ofValue_prune (v : Value) : Direction.ofValue v.prune = Direction.ofValue v := by
  simp only [Direction.ofValue, Direction.valueText_prune]

theorem SortTerm.ofPoint_prune (v : Value) : SortTerm.ofPoint v.prune = SortTerm.ofPoint v := by
  -- the direction is looked up by key, and null stays null
  have hdirection : v.prune.fields?.bind (Fields.get? · "direction") =
      (v.fields?.bind (Fields.get? · "direction")).map prune := by
    rw [Value.fields?_prune]
    cases v.fields? with
    | none => rfl
    | some fields => exact Fields.get?_prune fields "direction"
  unfold SortTerm.ofPoint
  rw [GeoPoint.ofValue_prune, hdirection]
  congr 1
  funext point
  cases v.fields?.bind (Fields.get? · "direction") with
  | none => rfl
  | some d => cases d <;> rfl

theorem SortTerm.ofEntry_prune (key : String) (v : Value) :
    SortTerm.ofEntry key v.prune = SortTerm.ofEntry key v := by
  simp only [SortTerm.ofEntry, SortTerm.ofPoint_prune, Direction.ofValue_prune]

theorem SortOrder.ofValue_prune (v : Value) : SortOrder.ofValue v.prune = SortOrder.ofValue v := by
  cases v with
  | object fields =>
    simp only [prune, SortOrder.ofValue, Fields.present_prune, List.mapM_map,
      Function.comp_def, SortTerm.ofEntry_prune]
  | _ => rfl

/-! ### The compilers -/

/-- Absent entries have no effect: on the pruned value every compiler gives the same
    text, the same tokens or the same error. -/
theorem compile_prune (v : Value) (field spelling : String) :
    compileFilter v.prune = compileFilter v ∧
    compileSelector field v.prune = compileSelector field v ∧
    compileComparison field spelling v.prune = compileComparison field spelling v ∧
    compileSort (some v.prune) = compileSort (some v) ∧
    compileGeoRadius v.prune = compileGeoRadius v ∧
    compileGeoBoundingBox v.prune = compileGeoBoundingBox v := by
  refine ⟨?_, ?_, ?_, ?_, ?_, ?_⟩
  · simp only [compileFilter, Filter.ofValue_prune]
  · simp only [compileSelector, Condition.ofValue_prune]
  · simp only [compileComparison, Predicate.ofSpelling, Comparison.ofSpelling_prune]
  · simp only [compileSort, SortOrder.ofValue_prune]
  · simp only [compileGeoRadius, GeoRadius.ofValue_prune]
  · simp only [compileGeoBoundingBox, GeoBoundingBox.ofValue_prune]

end SearchQuery
