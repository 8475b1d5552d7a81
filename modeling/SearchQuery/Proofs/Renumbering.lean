import SearchQuery.Proofs.Rewording
import SearchQuery.SortOrder

/-! # Documents with other numbers

  All that is ever done with a number is to write it, as it is or as the double nearest to
  it. So if a change of numbers keeps these two texts, no compiler tells a document from the
  one whose numbers are changed.

  What is read does differ, down to the coordinates of a point. So reading is compared
  together with writing, part by part.
-/

namespace SearchQuery

/-! ### Changed numbers -/

/-- Whether a change of numbers keeps what is written for them, as they are and as doubles. -/
structure Number.KeepsTexts (f : Number → Number) : Prop where
  text : ∀ n, (f n).text = n.text
  text_toDouble : ∀ n, (f n).toDouble.text = n.toDouble.text

namespace Value

mutual

/-- A value whose numbers are changed, at any depth. -/
def mapNumbers (f : Number → Number) : Value → Value
  | number n => number (f n)
  | array items => array (mapItems f items)
  | object fields => object (mapFields f fields)
  | v => v

def mapItems (f : Number → Number) : List Value → List Value
  | [] => []
  | v :: vs => mapNumbers f v :: mapItems f vs

def mapFields (f : Number → Number) : List (String × Option Value) → List (String × Option Value)
  | [] => []
  | (key, none) :: fields => (key, none) :: mapFields f fields
  | (key, some v) :: fields => (key, some (mapNumbers f v)) :: mapFields f fields

end

variable (f : Number → Number)

theorem mapItems_eq_map (items : List Value) : mapItems f items = items.map (mapNumbers f) := by
  induction items with
  | nil => rfl
  | cons v vs ih => simp [mapItems, ih]

theorem bool?_mapNumbers (v : Value) : (v.mapNumbers f).bool? = v.bool? := by
  cases v <;> rfl

theorem string?_mapNumbers (v : Value) : (v.mapNumbers f).string? = v.string? := by
  cases v <;> rfl

theorem items?_mapNumbers (v : Value) :
    (v.mapNumbers f).items? = v.items?.map (List.map (mapNumbers f)) := by
  cases v with
  | array items => simp [mapNumbers, items?, mapItems_eq_map]
  | _ => rfl

theorem fields?_mapNumbers (v : Value) :
    (v.mapNumbers f).fields? = v.fields?.map (mapFields f) := by
  cases v <;> rfl

variable {f}

theorem text_double?_mapNumbers (hf : Number.KeepsTexts f) (v : Value) :
    (v.mapNumbers f).double?.map Double.text = v.double?.map Double.text := by
  cases v with
  | number n => exact congrArg some (hf.text_toDouble n)
  | _ => rfl

end Value

open Value (mapNumbers mapItems mapFields)

theorem Fields.present_mapFields (f : Number → Number) (fields : Fields Value) :
    Fields.present (mapFields f fields) =
      (Fields.present fields).map fun (key, v) => (key, v.mapNumbers f) := by
  induction fields with
  | nil => rfl
  | cons entry fields ih =>
    obtain ⟨key, v?⟩ := entry
    cases v? with
    | none => simpa [mapFields, Fields.present] using ih
    | some v => simpa [mapFields, Fields.present] using ih

theorem Fields.get?_mapFields (f : Number → Number) (fields : Fields Value) (key : String) :
    Fields.get? (mapFields f fields) key = (Fields.get? fields key).map (mapNumbers f) := by
  unfold Fields.get?
  rw [Fields.present_mapFields, Entries.lookup_map]

open GeoError (fieldsAt numberAt)

theorem GeoError.fieldsAt_mapNumbers (f : Number → Number) (path : String) (v? : Option Value) :
    fieldsAt path (v?.map (mapNumbers f)) = (fieldsAt path v?).map (mapFields f) := by
  cases v? with
  | none => rfl
  | some v => cases v <;> rfl

/-! ### Reading and writing in parts -/

/-- Members may be changed one by one while they are read. -/
theorem map_mapM {m : Type → Type} [Monad m] [LawfulMonad m] {α β γ : Type} (g : β → γ)
    (f : α → m β) (items : List α) :
    List.map g <$> items.mapM f = items.mapM fun a => g <$> f a := by
  induction items with
  | nil => simp
  | cons a items ih => simp [List.mapM_cons, ← ih]

/-- Two results in a row that are written part by part are written alike if their parts are. -/
theorem map_pair_congr {ε α β γ δ ζ η : Type} {r s : Except ε α} {r' s' : Except ε β}
    {f : α → β → γ} {text : γ → η} {a : α → δ} {b : β → ζ} (write : δ → ζ → η)
    (hwrite : ∀ x y, text (f x y) = write (a x) (b y)) (h : r.map a = s.map a)
    (h' : r'.map b = s'.map b) :
    (do let x ← r; let y ← r'; return f x y : Except ε γ).map text =
      (do let x ← s; let y ← s'; return f x y : Except ε γ).map text := by
  have hparts : ∀ (r : Except ε α) (r' : Except ε β),
      (do let x ← r; let y ← r'; return f x y : Except ε γ).map text =
        (do let x ← r.map a; let y ← r'.map b; return write x y) := by
    intro r r'
    cases r with
    | error e => rfl
    | ok x =>
      cases r' with
      | error e => rfl
      | ok y => exact congrArg Except.ok (hwrite x y)
  rw [hparts, hparts, h, h']

/-- Present entries are read one by one, so a reader that gives what is written alike for
    each value gives it for all of them. -/
theorem Fields.map_mapM_mapFields {f : Number → Number} {α : Type}
    {read : String → Value → Except QueryError α} {text : α → String}
    (h : ∀ key v, (read key (v.mapNumbers f)).map text = (read key v).map text)
    (fields : Fields Value) :
    ((Fields.present (mapFields f fields)).mapM fun (key, v) => read key v).map (List.map text) =
      ((Fields.present fields).mapM fun (key, v) => read key v).map (List.map text) := by
  have hmap := map_mapM text fun (entry : String × Value) => read entry.1 entry.2
  calc ((Fields.present (mapFields f fields)).mapM fun (key, v) => read key v).map (List.map text)
      = (Fields.present (mapFields f fields)).mapM fun entry => (read entry.1 entry.2).map text :=
        hmap _
    _ = (Fields.present fields).mapM fun entry =>
          (read entry.1 (entry.2.mapNumbers f)).map text := by
        rw [Fields.present_mapFields]
        exact List.mapM_map
    _ = (Fields.present fields).mapM fun entry => (read entry.1 entry.2).map text := by
        simp only [h]
    _ = ((Fields.present fields).mapM fun (key, v) => read key v).map (List.map text) :=
        (hmap _).symm

namespace Comparison

/-- What an operand is required to be is asked before it is written. -/
theorem map_require {α β : Type} (f : α → β) (op : Operator) (expected : Requirement)
    (a? : Option α) : (require op expected a?).map f = require op expected (a?.map f) := by
  cases a? <;> rfl

end Comparison

namespace Condition

/-- What stands after the field in each of the comparisons. -/
def conditions (c : Condition) : List String := c.comparisons.map Comparison.condition

theorem text_eq (field : String) (c : Condition) :
    c.text field = String.intercalate " AND " (c.conditions.map (field ++ " " ++ ·)) := by
  rw [conditions, List.map_map]
  rfl

end Condition

theorem Clause.map_text_radius (v : Value) :
    (Clause.ofEntry .radius v).map Clause.text = compileGeoRadius v := by
  simp only [Clause.ofEntry, compileGeoRadius]
  cases GeoRadius.ofValue v <;> rfl

theorem Clause.map_text_box (v : Value) :
    (Clause.ofEntry .box v).map Clause.text = compileGeoBoundingBox v := by
  simp only [Clause.ofEntry, compileGeoBoundingBox]
  cases GeoBoundingBox.ofValue v <;> rfl

theorem Clause.map_text_selector (name : String) (v : Value) :
    (Clause.ofEntry (.field name) v).map Clause.text = compileSelector name v := by
  simp only [Clause.ofEntry, compileSelector]
  cases Condition.ofValue v <;> rfl

namespace SortTerm

/-- The direction that stands beside the coordinates of a point. -/
def pointDirection (v : Value) : Except QueryError Direction :=
  match v.fields?.bind (Fields.get? · "direction") with
  | none | some .null => .ok .asc
  | some direction => Direction.ofValue direction

theorem ofPoint_eq (v : Value) :
    ofPoint v = (do
      let point ← (GeoPoint.ofValue geoPointKey v).mapError .invalidGeo
      let direction ← pointDirection v
      return geoPoint point direction) := by
  unfold ofPoint pointDirection
  congr 1
  funext point
  cases v.fields?.bind (Fields.get? · "direction") with
  | none => rfl
  | some direction => cases direction <;> rfl

end SortTerm

/-! ### Operands and conditions -/

section

variable {f : Number → Number} (hf : Number.KeepsTexts f)
include hf

theorem Literal.text_mapNumbers (v : Value) :
    (Literal.ofValue? (v.mapNumbers f)).map Literal.text =
      (Literal.ofValue? v).map Literal.text := by
  cases v with
  | number n => exact congrArg some (hf.text n)
  | _ => rfl

theorem Literal.texts_mapNumbers (items : List Value) :
    ((items.map (mapNumbers f)).mapM Literal.ofValue?).map (List.map Literal.text) =
      (items.mapM Literal.ofValue?).map (List.map Literal.text) := by
  have hmap := map_mapM Literal.text Literal.ofValue?
  calc ((items.map (mapNumbers f)).mapM Literal.ofValue?).map (List.map Literal.text)
      = (items.map (mapNumbers f)).mapM fun v => (Literal.ofValue? v).map Literal.text := hmap _
    _ = items.mapM fun v => (Literal.ofValue? (v.mapNumbers f)).map Literal.text := List.mapM_map
    _ = items.mapM fun v => (Literal.ofValue? v).map Literal.text := by
        simp only [Literal.text_mapNumbers hf]
    _ = (items.mapM Literal.ofValue?).map (List.map Literal.text) := (hmap items).symm

namespace Comparison

theorem map_listText_literals (op : Operator) (v : Value) :
    (literals op (v.mapNumbers f)).map Literal.listText = (literals op v).map Literal.listText := by
  unfold literals
  rw [Value.items?_mapNumbers]
  cases v.items? with
  | none => rfl
  | some items =>
    have htexts := congrArg (Option.map fun texts => "[" ++ String.intercalate ", " texts ++ "]")
      (Literal.texts_mapNumbers hf items)
    rw [Option.map_map, Option.map_map] at htexts
    show (require op .scalarItems ((items.map (mapNumbers f)).mapM Literal.ofValue?)).map
        Literal.listText =
      (require op .scalarItems (items.mapM Literal.ofValue?)).map Literal.listText
    rw [map_require, map_require]
    exact congrArg (require op .scalarItems) htexts

/-- Bounds keep their types, and are written one by one. -/
theorem map_condition_ofItems (items : List Value) :
    (Range.ofItems (items.map (mapNumbers f))).map (condition ∘ between) =
      (Range.ofItems items).map (condition ∘ between) := by
  match items with
  | [] => rfl
  | [lo] => cases lo <;> rfl
  | _ :: _ :: _ :: _ => simp [Range.ofItems]
  | [lo, hi] =>
    cases lo with
    | number m =>
      cases hi with
      | number n =>
        show Except.ok ((f m).text ++ " TO " ++ (f n).text) = _
        rw [hf.text m, hf.text n]
        rfl
      | _ => rfl
    | _ => cases hi <;> rfl

theorem map_condition_between (v : Value) :
    (ofOperand .between (v.mapNumbers f)).map condition = (ofOperand .between v).map condition := by
  simp only [ofOperand, range, Value.items?_mapNumbers]
  cases v.items? with
  | none => rfl
  | some items =>
    have hparts : ∀ r : Except RangeError Range,
        (between <$> r.mapError QueryError.invalidRange).map condition =
          (r.map (condition ∘ between)).mapError QueryError.invalidRange := by
      intro r
      cases r <;> rfl
    have hrange := congrArg (Except.mapError QueryError.invalidRange)
      (map_condition_ofItems hf items)
    rw [← hparts, ← hparts] at hrange
    exact hrange

theorem map_condition_ofOperand (op : Operator) (v : Value) :
    (ofOperand op (v.mapNumbers f)).map condition = (ofOperand op v).map condition := by
  cases op with
  | equality e =>
    cases v with
    | number n =>
      show Except.ok ((Operator.equality e).symbol ++ " " ++ (f n).text) = _
      rw [hf.text n]
      rfl
    | _ => rfl
  | order o =>
    cases v with
    | number n =>
      show Except.ok ((Operator.order o).symbol ++ " " ++ (f n).text) = _
      rw [hf.text n]
      rfl
    | _ => rfl
  | membership m =>
    have hlist := congrArg (Except.map (m.keyword ++ " " ++ ·))
      (map_listText_literals hf (.membership m) v)
    have hparts : ∀ r : Except QueryError (List Literal),
        (membership m <$> r).map condition =
          (r.map Literal.listText).map (m.keyword ++ " " ++ ·) := by
      intro r
      cases r <;> rfl
    rw [ofOperand, ofOperand, hparts, hparts, hlist]
  | state s => rw [ofOperand, ofOperand, Value.bool?_mapNumbers]
  | between => exact map_condition_between hf v
  | stringTest t => rw [ofOperand, ofOperand, Value.string?_mapNumbers]

theorem map_condition_ofSpelling (spelling : String) (v : Value) :
    (ofSpelling spelling (v.mapNumbers f)).map condition =
      (ofSpelling spelling v).map condition := by
  unfold ofSpelling
  cases Operator.ofString? spelling with
  | none => rfl
  | some op => exact map_condition_ofOperand hf op v

end Comparison

namespace Condition

theorem map_conditions_ofValue (v : Value) :
    (ofValue (v.mapNumbers f)).map conditions = (ofValue v).map conditions := by
  cases v with
  | number n =>
    show Except.ok ["= " ++ (f n).text] = _
    rw [hf.text n]
    rfl
  | array items =>
    have hparts : ∀ r : Except QueryError (List Literal),
        (oneOf <$> r).map conditions =
          (r.map Literal.listText).map fun list => ["IN " ++ list] := by
      intro r
      cases r <;> rfl
    show (oneOf <$> Comparison.literals _ (mapNumbers f (.array items))).map conditions = _
    rw [hparts, Comparison.map_listText_literals hf, ← hparts]
    rfl
  | object fields =>
    have hparts : ∀ r : Except QueryError (List Comparison),
        (operators <$> r).map conditions = r.map (List.map Comparison.condition) := by
      intro r
      cases r <;> rfl
    show (operators <$> (Fields.present (mapFields f fields)).mapM fun (spelling, operand) =>
      Comparison.ofSpelling spelling operand).map conditions = _
    rw [hparts, Fields.map_mapM_mapFields (Comparison.map_condition_ofSpelling hf), ← hparts]
    rfl
  | _ => rfl

theorem map_text_ofValue (field : String) (v : Value) :
    (ofValue (v.mapNumbers f)).map (text field) = (ofValue v).map (text field) := by
  have htext : text field =
      (fun texts => String.intercalate " AND " (texts.map (field ++ " " ++ ·))) ∘ conditions :=
    funext (text_eq field)
  have hmap : ∀ r : Except QueryError Condition, r.map (text field) =
      (r.map conditions).map fun texts =>
        String.intercalate " AND " (texts.map (field ++ " " ++ ·)) := by
    intro r
    rw [htext]
    cases r <;> rfl
  rw [hmap, hmap, map_conditions_ofValue hf]

end Condition

/-! ### Places -/

theorem GeoError.map_text_numberAt (path : String) (fields : Fields Value) (key : String) :
    (numberAt path (mapFields f fields) key).map Double.text =
      (numberAt path fields key).map Double.text := by
  unfold numberAt
  rw [Fields.get?_mapFields]
  cases Fields.get? fields key with
  | none => rfl
  | some v =>
    have htext := v.text_double?_mapNumbers hf
    simp only [Option.map_some, Option.bind_some]
    cases hx : (v.mapNumbers f).double? with
    | none =>
      rw [hx] at htext
      rw [Option.map_eq_none_iff.mp htext.symm]
    | some x =>
      rw [hx] at htext
      obtain ⟨y, hy, hxy⟩ := Option.map_eq_some_iff.mp htext.symm
      rw [hy]
      exact congrArg Except.ok hxy.symm

theorem GeoPoint.map_text_ofFields (path : String) (fields : Fields Value) :
    (GeoPoint.ofFields path (mapFields f fields)).map GeoPoint.text =
      (GeoPoint.ofFields path fields).map GeoPoint.text :=
  map_pair_congr (fun lat lng => lat ++ ", " ++ lng) (fun _ _ => rfl)
    (GeoError.map_text_numberAt hf path fields "lat")
    (GeoError.map_text_numberAt hf path fields "lng")

theorem GeoPoint.map_text_ofValue (path : String) (v : Value) :
    (GeoPoint.ofValue path (v.mapNumbers f)).map GeoPoint.text =
      (GeoPoint.ofValue path v).map GeoPoint.text := by
  have hfields := GeoError.fieldsAt_mapNumbers f path (some v)
  unfold GeoPoint.ofValue
  rw [show some (v.mapNumbers f) = (some v).map (mapNumbers f) from rfl, hfields]
  cases fieldsAt path (some v) with
  | error e => rfl
  | ok fields => exact GeoPoint.map_text_ofFields hf path fields

theorem GeoRadius.map_text_ofValue (v : Value) :
    (GeoRadius.ofValue (v.mapNumbers f)).map GeoRadius.text =
      (GeoRadius.ofValue v).map GeoRadius.text := by
  have hfields := GeoError.fieldsAt_mapNumbers f GeoRadius.key (some v)
  unfold GeoRadius.ofValue
  rw [show some (v.mapNumbers f) = (some v).map (mapNumbers f) from rfl, hfields]
  cases fieldsAt GeoRadius.key (some v) with
  | error e => rfl
  | ok fields =>
    exact map_pair_congr (fun center distance => "_geoRadius(" ++ center ++ ", " ++ distance ++ ")")
      (fun _ _ => rfl) (GeoPoint.map_text_ofFields hf GeoRadius.key fields)
      (GeoError.map_text_numberAt hf GeoRadius.key fields "distanceInMeters")

theorem GeoBoundingBox.map_text_ofValue (v : Value) :
    (GeoBoundingBox.ofValue (v.mapNumbers f)).map GeoBoundingBox.text =
      (GeoBoundingBox.ofValue v).map GeoBoundingBox.text := by
  have hfields := GeoError.fieldsAt_mapNumbers f GeoBoundingBox.path (some v)
  unfold GeoBoundingBox.ofValue
  rw [show some (v.mapNumbers f) = (some v).map (mapNumbers f) from rfl, hfields]
  cases fieldsAt GeoBoundingBox.path (some v) with
  | error e => rfl
  | ok fields =>
    simp only [Except.map, bind, Except.bind, Fields.get?_mapFields,
      GeoError.fieldsAt_mapNumbers]
    cases fieldsAt (GeoError.member GeoBoundingBox.path "topRight")
        (Fields.get? fields "topRight") with
    | error e => rfl
    | ok topRight =>
      cases fieldsAt (GeoError.member GeoBoundingBox.path "bottomLeft")
          (Fields.get? fields "bottomLeft") with
      | error e => rfl
      | ok bottomLeft =>
        exact map_pair_congr (fun topRight bottomLeft =>
            "_geoBoundingBox([" ++ topRight ++ "], [" ++ bottomLeft ++ "])")
          (fun _ _ => rfl) (GeoPoint.map_text_ofFields hf _ topRight)
          (GeoPoint.map_text_ofFields hf _ bottomLeft)

theorem compileGeoRadius_mapNumbers (v : Value) :
    compileGeoRadius (v.mapNumbers f) = compileGeoRadius v := by
  unfold compileGeoRadius
  rw [GeoRadius.map_text_ofValue hf]

theorem compileGeoBoundingBox_mapNumbers (v : Value) :
    compileGeoBoundingBox (v.mapNumbers f) = compileGeoBoundingBox v := by
  unfold compileGeoBoundingBox
  rw [GeoBoundingBox.map_text_ofValue hf]

theorem compileSelector_mapNumbers (field : String) (v : Value) :
    compileSelector field (v.mapNumbers f) = compileSelector field v :=
  Condition.map_text_ofValue hf field v

/-! ### Comparisons and sort orders -/

theorem compileComparison_mapNumbers (field spelling : String) (v : Value) :
    compileComparison field spelling (v.mapNumbers f) = compileComparison field spelling v := by
  have hparts : ∀ r : Except QueryError Comparison,
      (r.map (Predicate.mk field)).map Predicate.text =
        (r.map Comparison.condition).map (field ++ " " ++ ·) := by
    intro r
    cases r <;> rfl
  unfold compileComparison Predicate.ofSpelling
  rw [hparts, hparts, Comparison.map_condition_ofSpelling hf]

/-- A direction is read from a text, which has no sign of zero, and so is the text that the
    error keeps. -/
theorem Direction.ofValue_mapNumbers (v : Value) :
    Direction.ofValue (v.mapNumbers f) = Direction.ofValue v := by
  have htext : Direction.valueText (v.mapNumbers f) = Direction.valueText v := by
    cases v with
    | number n => exact hf.text n
    | _ => rfl
  simp only [Direction.ofValue, htext]

namespace SortTerm

theorem pointDirection_mapNumbers (v : Value) :
    pointDirection (v.mapNumbers f) = pointDirection v := by
  have hdirection : (v.mapNumbers f).fields?.bind (Fields.get? · "direction") =
      (v.fields?.bind (Fields.get? · "direction")).map (mapNumbers f) := by
    rw [Value.fields?_mapNumbers]
    cases v.fields? with
    | none => rfl
    | some fields => exact Fields.get?_mapFields f fields "direction"
  unfold pointDirection
  rw [hdirection]
  cases v.fields?.bind (Fields.get? · "direction") with
  | none => rfl
  | some direction =>
    cases direction with
    | null => rfl
    | _ => exact Direction.ofValue_mapNumbers hf _

theorem map_text_ofPoint (v : Value) :
    (ofPoint (v.mapNumbers f)).map text = (ofPoint v).map text := by
  have hpoint := congrArg (Except.mapError QueryError.invalidGeo)
    (GeoPoint.map_text_ofValue hf geoPointKey v)
  have hparts : ∀ r : Except GeoError GeoPoint,
      (r.map GeoPoint.text).mapError QueryError.invalidGeo =
        (r.mapError QueryError.invalidGeo).map GeoPoint.text := by
    intro r
    cases r <;> rfl
  rw [hparts, hparts] at hpoint
  rw [ofPoint_eq, ofPoint_eq, pointDirection_mapNumbers hf]
  exact map_pair_congr (b := Direction.text)
    (fun point direction => "_geoPoint(" ++ point ++ "):" ++ direction) (fun _ _ => rfl) hpoint rfl

theorem map_text_ofEntry (key : String) (v : Value) :
    (ofEntry key (v.mapNumbers f)).map text = (ofEntry key v).map text := by
  unfold ofEntry
  by_cases hkey : key = geoPointKey
  · rw [if_pos hkey, if_pos hkey, map_text_ofPoint hf]
  · rw [if_neg hkey, if_neg hkey, Direction.ofValue_mapNumbers hf]

end SortTerm

theorem compileSort_mapNumbers (v : Value) :
    compileSort (some (v.mapNumbers f)) = compileSort (some v) := by
  cases v with
  | object fields =>
    have hparts : ∀ r : Except QueryError (List SortTerm),
        (SortOrder.mk <$> r).map SortOrder.tokens = r.map (List.map SortTerm.text) := by
      intro r
      cases r <;> rfl
    show (SortOrder.mk <$> (Fields.present (mapFields f fields)).mapM fun (key, v) =>
      SortTerm.ofEntry key v).map SortOrder.tokens = _
    rw [hparts, Fields.map_mapM_mapFields (SortTerm.map_text_ofEntry hf), ← hparts]
    rfl
  | _ => rfl

end

/-! ### Filters -/

mutual

/-- A filter compiles to the same text, or fails for the same reason. -/
theorem compileFilter_mapNumbers {f : Number → Number} (hf : Number.KeepsTexts f) :
    ∀ v : Value, compileFilter (v.mapNumbers f) = compileFilter v
  | .array items => by
    have htexts := Filter.map_texts_mapItems hf items
    show (Filter.ofValue (.array (mapItems f items))).map Filter.text =
      (Filter.ofValue (.array items)).map Filter.text
    rw [Filter.map_text_array, Filter.map_text_array, htexts]
  | .object fields => by
    have htexts := Clause.map_texts_mapFields hf fields
    show (Filter.ofValue (.object (mapFields f fields))).map Filter.text =
      (Filter.ofValue (.object fields)).map Filter.text
    rw [Filter.map_text_object, Filter.map_text_object, htexts]
  | .null | .bool _ | .number _ | .string _ | .date _ => rfl

theorem Filter.map_texts_mapItems {f : Number → Number} (hf : Number.KeepsTexts f) :
    ∀ items : List Value,
    (Filter.ofItems (mapItems f items)).map Filter.texts =
      (Filter.ofItems items).map Filter.texts
  | [] => rfl
  | v :: items => by
    have hhead : (Filter.ofValue (v.mapNumbers f)).map Filter.text =
        (Filter.ofValue v).map Filter.text := compileFilter_mapNumbers hf v
    have htail := Filter.map_texts_mapItems hf items
    rw [mapItems, Filter.map_texts_cons, Filter.map_texts_cons, hhead, htail]

theorem Clause.map_texts_mapFields {f : Number → Number} (hf : Number.KeepsTexts f) :
    ∀ fields : List (String × Option Value),
    (Clause.ofFields (mapFields f fields)).map Clause.texts =
      (Clause.ofFields fields).map Clause.texts
  | [] => rfl
  | (_, none) :: fields => Clause.map_texts_mapFields hf fields
  | (key, some v) :: fields => by
    have hhead := Clause.map_text_mapNumbers hf (ClauseKey.ofString key) v
    have htail := Clause.map_texts_mapFields hf fields
    rw [mapFields, Clause.map_texts_cons, Clause.map_texts_cons, hhead, htail]

theorem Clause.map_text_mapNumbers {f : Number → Number} (hf : Number.KeepsTexts f) :
    ∀ (key : ClauseKey) (v : Value),
    (Clause.ofEntry key (v.mapNumbers f)).map Clause.text =
      (Clause.ofEntry key v).map Clause.text
  | .group connective, .array items => by
    have htexts := Filter.map_texts_mapItems hf items
    rw [mapNumbers, Clause.map_text_group, Clause.map_text_group, htexts]
  | .group _, .object _ | .group _, .null | .group _, .bool _ | .group _, .number _
  | .group _, .string _ | .group _, .date _ => rfl
  | .radius, v => by
    rw [Clause.map_text_radius, Clause.map_text_radius, compileGeoRadius_mapNumbers hf]
  | .box, v => by
    rw [Clause.map_text_box, Clause.map_text_box, compileGeoBoundingBox_mapNumbers hf]
  | .field name, v => by
    rw [Clause.map_text_selector, Clause.map_text_selector, compileSelector_mapNumbers hf]

end

/-- Documents that are the same once their numbers are changed compile alike: to the same text
    or the same tokens, or with the same error. -/
theorem compile_eq_of_mapNumbers_eq {f : Number → Number} (hf : Number.KeepsTexts f) {v w : Value}
    (h : v.mapNumbers f = w.mapNumbers f) (field spelling : String) :
    compileFilter v = compileFilter w ∧
    compileSelector field v = compileSelector field w ∧
    compileComparison field spelling v = compileComparison field spelling w ∧
    compileSort (some v) = compileSort (some w) ∧
    compileGeoRadius v = compileGeoRadius w ∧
    compileGeoBoundingBox v = compileGeoBoundingBox w := by
  refine ⟨?_, ?_, ?_, ?_, ?_, ?_⟩
  · rw [← compileFilter_mapNumbers hf v, h, compileFilter_mapNumbers hf]
  · rw [← compileSelector_mapNumbers hf field v, h, compileSelector_mapNumbers hf]
  · rw [← compileComparison_mapNumbers hf field spelling v, h, compileComparison_mapNumbers hf]
  · rw [← compileSort_mapNumbers hf v, h, compileSort_mapNumbers hf]
  · rw [← compileGeoRadius_mapNumbers hf v, h, compileGeoRadius_mapNumbers hf]
  · rw [← compileGeoBoundingBox_mapNumbers hf v, h, compileGeoBoundingBox_mapNumbers hf]

end SearchQuery
