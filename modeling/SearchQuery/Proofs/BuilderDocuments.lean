import SearchQuery.Builder.Basic

/-! # Builders and documents

  What a builder adds call by call can be said by a document as well: a comparison
  is an entry of an entry, a group is an array under its key, and a place is an
  object of coordinates. The chain of calls and the array of the documents give
  the same result, the same text or the same first error.

  The two ways share only the comparisons and the joining of fragments. A builder
  makes texts at once, from left to right; a document is read as a whole before
  anything is written. So the proof relates them expression by expression, with
  the reading of a document followed by its text on one side.
-/

namespace SearchQuery

/-! ### The document of a place -/

namespace GeoPoint

/-- The object of the coordinates of a point. -/
def document (p : GeoPoint) : Value :=
  .object [("lat", some (.number (.double p.lat))), ("lng", some (.number (.double p.lng)))]

end GeoPoint

namespace GeoRadius

/-- The object of the center and the distance of a circle. -/
def document (r : GeoRadius) : Value :=
  .object [("lat", some (.number (.double r.center.lat))),
    ("lng", some (.number (.double r.center.lng))),
    ("distanceInMeters", some (.number (.double r.distance)))]

theorem ofValue_document (r : GeoRadius) : GeoRadius.ofValue r.document = .ok r := by
  rfl

end GeoRadius

namespace GeoBoundingBox

/-- The object of the corners of a box. -/
def document (b : GeoBoundingBox) : Value :=
  .object [("topRight", some b.topRight.document), ("bottomLeft", some b.bottomLeft.document)]

theorem ofValue_document (b : GeoBoundingBox) : GeoBoundingBox.ofValue b.document = .ok b := by
  rfl

end GeoBoundingBox

/-! ### The document of an expression -/

namespace Expression

mutual

/-- The document that says what an expression says. A fragment that is taken as it is
    says nothing that a document could. -/
def document : Expression → Value
  | compare field spelling operand =>
    .object [(field, some (.object [(spelling, some operand)]))]
  | and members => .object [(Connective.and.key, some (.array (documents members)))]
  | or members => .object [(Connective.or.key, some (.array (documents members)))]
  | radius r => .object [(GeoRadius.key, some r.document)]
  | box b => .object [(GeoBoundingBox.path, some b.document)]
  | fragment _ => .null

def documents : List Expression → List Value
  | [] => []
  | e :: es => document e :: documents es

end

mutual

/-- Whether an expression is made of comparisons of fields, of groups and of places:
    it has no fragment that is taken as it is, and no reserved key stands for a
    field. -/
def IsStructured : Expression → Prop
  | compare field _ _ => field ∉ reservedKeys
  | and members => AreStructured members
  | or members => AreStructured members
  | radius _ => True
  | box _ => True
  | fragment _ => False

def AreStructured : List Expression → Prop
  | [] => True
  | e :: es => IsStructured e ∧ AreStructured es

end

end Expression

/-! ### One fragment -/

/-- An object of one clause has the text of this clause. -/
theorem Filter.text_singleton (clause : Clause) :
    Filter.text (.clauses [clause]) = clause.text := by
  simp only [Filter.text, Clause.texts, joinAnd_singleton]

/-- A document of one entry compiles as this entry does. -/
theorem compileFilter_singleton (key : String) (v : Value) :
    compileFilter (.object [(key, some v)]) =
      (Clause.ofEntry (ClauseKey.ofString key) v).map Clause.text := by
  unfold compileFilter
  simp only [Filter.ofValue, Clause.ofFields]
  cases Clause.ofEntry (ClauseKey.ofString key) v with
  | error e => rfl
  | ok clause => exact congrArg Except.ok (Filter.text_singleton clause)

/-! ### Expressions compile as their documents -/

namespace Expression

theorem compile_compare {field : String} (h : field ∉ reservedKeys) (spelling : String)
    (operand : Value) :
    compileFilter (document (compare field spelling operand)) =
      compileComparison field spelling operand := by
  show compileFilter (.object [(field, some (.object [(spelling, some operand)]))]) = _
  rw [compileFilter_singleton, ClauseKey.ofString_of_not_mem h]
  unfold compileComparison Predicate.ofSpelling
  simp only [Clause.ofEntry, Condition.ofValue, Fields.present, List.filterMap, Option.map_some,
    List.mapM_cons, List.mapM_nil]
  cases Comparison.ofSpelling spelling operand with
  | error e => rfl
  | ok c => simp [Except.map, bind, Except.bind, pure, Except.pure, Functor.map, Clause.text,
      Condition.text, Condition.comparisons, Predicate.text]

mutual

/-- The text of an expression's document is the fragment of the expression, and where
    one has no meaning the other has none for the same reason. -/
theorem compileFilter_document : ∀ e : Expression, e.IsStructured →
    compileFilter e.document = e.compile
  | compare field spelling operand, h => compile_compare h spelling operand
  | and members, h => by
    have hmembers := texts_documents members h
    show compileFilter (.object [(Connective.and.key, some (.array (documents members)))]) = _
    rw [compileFilter_singleton]
    simp only [compile, ← hmembers, show ClauseKey.ofString Connective.and.key = .group .and from rfl,
      Clause.ofEntry]
    cases Filter.ofItems (documents members) <;> rfl
  | or members, h => by
    have hmembers := texts_documents members h
    show compileFilter (.object [(Connective.or.key, some (.array (documents members)))]) = _
    rw [compileFilter_singleton]
    simp only [compile, ← hmembers, show ClauseKey.ofString Connective.or.key = .group .or from rfl,
      Clause.ofEntry]
    cases Filter.ofItems (documents members) <;> rfl
  | radius r, _ => by
    show compileFilter (.object [(GeoRadius.key, some r.document)]) = _
    rw [compileFilter_singleton]
    rfl
  | box b, _ => by
    show compileFilter (.object [(GeoBoundingBox.path, some b.document)]) = _
    rw [compileFilter_singleton]
    rfl

/-- The same for the members of a group, or for the calls of a chain. -/
theorem texts_documents : ∀ es : List Expression, AreStructured es →
    (Filter.ofItems (documents es)).map Filter.texts = compileAll es
  | [], _ => rfl
  | e :: es, ⟨he, hes⟩ => by
    -- an error of the first expression hides those of the others on both sides
    have hhead := compileFilter_document e he
    have htail := texts_documents es hes
    unfold compileFilter at hhead
    simp only [documents, Filter.ofItems, compileAll, ← hhead, ← htail]
    cases Filter.ofValue e.document with
    | error error => rfl
    | ok filter => cases Filter.ofItems (documents es) <;> rfl

end

/-- The array of the documents of expressions joins their fragments. -/
theorem compileFilter_documents {es : List Expression} (h : AreStructured es) :
    compileFilter (.array (documents es)) = (compileAll es).map joinAnd := by
  rw [← texts_documents es h]
  unfold compileFilter
  simp only [Filter.ofValue]
  cases Filter.ofItems (documents es) <;> rfl

theorem documents_eq_map (es : List Expression) : documents es = es.map document := by
  induction es with
  | nil => rfl
  | cons e es ih => simp [documents, ih]

theorem areStructured_iff (es : List Expression) :
    AreStructured es ↔ ∀ e ∈ es, e.IsStructured := by
  induction es with
  | nil => simp [AreStructured]
  | cons e es ih => simp [AreStructured, ih]

end Expression

/-! ### Chains of calls -/

namespace FilterBuilder

/-- A call that adds to a builder. -/
inductive Call where
  /-- Adds a comparison. -/
  | compare (field spelling : String) (operand : Value)
  /-- Adds an expression. -/
  | add (e : Expression)

namespace Call

/-- The builder after a call. -/
def apply (b : FilterBuilder) : Call → Except QueryError FilterBuilder
  | compare field spelling operand => b.compare field spelling operand
  | add e => b.add e

/-- The expression that a call adds. -/
def expression : Call → Expression
  | compare field spelling operand => .compare field spelling operand
  | add e => e

/-- The document of what a call adds. -/
def document (call : Call) : Value := call.expression.document

theorem apply_eq (b : FilterBuilder) (call : Call) :
    call.apply b = call.expression.compile.map b.push := by
  cases call <;> rfl

end Call

/-- The builder after one call upon the other. The first error ends the chain. -/
def chain (b : FilterBuilder) : List Call → Except QueryError FilterBuilder
  | [] => .ok b
  | call :: calls => do
    let b ← call.apply b
    chain b calls

/-- A chain adds the fragments of its calls, oldest first. -/
theorem fragments_chain (b : FilterBuilder) (calls : List Call) :
    (b.chain calls).map fragments =
      (Expression.compileAll (calls.map Call.expression)).map (b.fragments ++ ·) := by
  -- the builder grows with each call, so the induction is over all builders
  induction calls generalizing b with
  | nil => simp [chain, Expression.compileAll, Except.map]
  | cons call calls ih =>
    simp only [chain, Call.apply_eq, List.map_cons, Expression.compileAll]
    cases call.expression.compile with
    | error e => rfl
    | ok text =>
      show ((b.push text).chain calls).map fragments = _
      rw [ih (b.push text), fragments_push]
      cases Expression.compileAll (calls.map Call.expression) with
      | error e => rfl
      | ok texts => simp [Except.map, bind, Except.bind, pure, Except.pure]

/-- A chain of calls on the empty builder gives what the array of their documents
    gives: the same text, or the same error. -/
theorem build_chain_eq_compileFilter (calls : List Call)
    (h : ∀ call ∈ calls, call.expression.IsStructured) :
    (empty.chain calls).map build = compileFilter (.array (calls.map Call.document)) := by
  -- both sides join the fragments of the calls' expressions, made in the same order
  have hfragments := fragments_chain empty calls
  have hstructured : Expression.AreStructured (calls.map Call.expression) := by
    rw [Expression.areStructured_iff]
    intro e he
    obtain ⟨call, hcall, rfl⟩ := List.mem_map.mp he
    exact h call hcall
  have hdocuments : Expression.documents (calls.map Call.expression) = calls.map Call.document := by
    rw [Expression.documents_eq_map, List.map_map]
    rfl
  calc (empty.chain calls).map build
      = ((empty.chain calls).map fragments).map joinAnd := by
        cases empty.chain calls <;> rfl
    _ = (Expression.compileAll (calls.map Call.expression)).map joinAnd := by
        rw [hfragments]
        cases Expression.compileAll (calls.map Call.expression) <;> rfl
    _ = compileFilter (.array (calls.map Call.document)) := by
        rw [← hdocuments, Expression.compileFilter_documents hstructured]

/-- A chain with an empty group, and with an operator that does not exist behind it. -/
theorem build_chain_groups :
    (empty.chain [.compare "age" ">=" (.number (.signed 18)),
        .add (.or [.compare "name" "=" (.string "John"), .and [],
          .compare "size" "near" .null])]).map build =
      compileFilter (.array [
        .object [("age", some (.object [(">=", some (.number (.signed 18)))]))],
        .object [("$or", some (.array [
          .object [("name", some (.object [("=", some (.string "John"))]))],
          .object [("$and", some (.array []))],
          .object [("size", some (.object [("near", some .null)]))]]))]]) := by
  refine build_chain_eq_compileFilter [.compare "age" ">=" (.number (.signed 18)),
    .add (.or [.compare "name" "=" (.string "John"), .and [],
      .compare "size" "near" .null])] ?_
  simp [Call.expression, Expression.IsStructured, Expression.AreStructured, reservedKeys,
    Connective.key, GeoRadius.key, GeoBoundingBox.keys]

end FilterBuilder

end SearchQuery
