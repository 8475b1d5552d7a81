import SearchQuery.Filter

/-! # The first fault of a filter document

  A filter document is read part by part. `Value.nodes` lists these parts in the order
  of the text, each before what lies inside it: documents, groups, places, operators
  and operands. Every part is looked at by itself; `Filter.Node.fault?` says what is
  wrong with it, whatever lies inside or around it.

  A document compiles exactly if no part of it is at fault, and otherwise it fails for
  the fault of the first part that has one. What comes after that part has no effect.
-/

namespace SearchQuery

/-! ### The parts of a document -/

/-- A part of a filter document. -/
inductive Filter.Node where
  /-- A value that stands for a document. -/
  | document (v : Value)
  /-- The value of a group. -/
  | group (connective : Connective) (v : Value)
  /-- The value of a circle. -/
  | radius (v : Value)
  /-- The value of a box. -/
  | box (v : Value)
  /-- A key of an operator object. -/
  | spelling (text : String)
  /-- What an operator is applied to. -/
  | operand (op : Operator) (v : Value)

/-- What is wrong with a part itself. -/
def Filter.Node.fault? : Filter.Node → Option QueryError
  | .document (.array _) | .document (.object _) => none
  | .document _ => some (.invalidDocument .notObject)
  | .group _ (.array _) => none
  | .group connective _ => some (.invalidDocument (.groupNotArray connective))
  | .radius v => (errorOf? (GeoRadius.ofValue v)).map .invalidGeo
  | .box v => (errorOf? (GeoBoundingBox.ofValue v)).map .invalidGeo
  | .spelling text =>
    if Operator.ofString? text = none then some (.unsupportedOperator text) else none
  | .operand op v => errorOf? (Comparison.ofOperand op v)

/-- The parts of an entry of an operator object: its key, and its operand if the key
    spells an operator. -/
def Condition.entryNodes (entry : String × Value) : List Filter.Node :=
  .spelling entry.1 ::
    ((Operator.ofString? entry.1).map fun op => Filter.Node.operand op entry.2).toList

/-- The parts of a field's value. A value that is no operator object is an operand. -/
def Condition.nodes : Value → List Filter.Node
  | .array items => [.operand (.membership .isIn) (.array items)]
  | .object fields => (Fields.present fields).flatMap Condition.entryNodes
  | v => [.operand (.equality .eq) v]

mutual

/-- The parts of a document, depth first and from left to right. -/
def Value.nodes : Value → List Filter.Node
  | .array items => .document (.array items) :: itemsNodes items
  | .object fields => .document (.object fields) :: fieldsNodes fields
  | v => [.document v]

def Value.itemsNodes : List Value → List Filter.Node
  | [] => []
  | v :: vs => v.nodes ++ itemsNodes vs

/-- The parts of the entries that are present. -/
def Value.fieldsNodes : List (String × Option Value) → List Filter.Node
  | [] => []
  | (_, none) :: fields => fieldsNodes fields
  | (key, some v) :: fields => entryNodes (ClauseKey.ofString key) v ++ fieldsNodes fields

/-- The parts of what stands under a key. -/
def Value.entryNodes : ClauseKey → Value → List Filter.Node
  | .group connective, .array members => .group connective (.array members) :: itemsNodes members
  | .group connective, v => [.group connective v]
  | .radius, v => [.radius v]
  | .box, v => [.box v]
  | .field _, v => Condition.nodes v

end

open SearchQuery.Filter (Node)

/-- The fault of the first part that has one. -/
def firstFault? (nodes : List Node) : Option QueryError :=
  nodes.findSome? Node.fault?

theorem firstFault?_append (nodes nodes' : List Node) :
    firstFault? (nodes ++ nodes') = (firstFault? nodes).or (firstFault? nodes') :=
  List.findSome?_append

theorem firstFault?_singleton (node : Node) : firstFault? [node] = node.fault? := by
  simp [firstFault?]

/-- A part that is not at fault itself leaves it to those that follow. -/
theorem firstFault?_cons_of_sound {node : Node} (h : node.fault? = none) (nodes : List Node) :
    firstFault? (node :: nodes) = firstFault? nodes := by
  simp [firstFault?, h]

/-! ### Conditions -/

theorem Comparison.errorOf?_ofSpelling (spelling : String) (v : Value) :
    errorOf? (Comparison.ofSpelling spelling v) =
      firstFault? (Condition.entryNodes (spelling, v)) := by
  unfold Comparison.ofSpelling firstFault? Condition.entryNodes
  cases h : Operator.ofString? spelling with
  | none => simp [Node.fault?, h]
  | some op => simp [Node.fault?, h]

/-- The operators of an object are read in order. -/
theorem Condition.errorOf?_mapM (entries : Entries Value) :
    errorOf? (entries.mapM fun (spelling, operand) => Comparison.ofSpelling spelling operand) =
      firstFault? (entries.flatMap Condition.entryNodes) := by
  induction entries with
  | nil => rfl
  | cons entry entries ih =>
    obtain ⟨spelling, operand⟩ := entry
    rw [List.mapM_cons, errorOf?_pair, List.flatMap_cons, firstFault?_append, ih,
      Comparison.errorOf?_ofSpelling]

theorem Condition.errorOf?_ofValue (v : Value) :
    errorOf? (Condition.ofValue v) = firstFault? (Condition.nodes v) := by
  cases v with
  | array items =>
    have hoperand : Node.fault? (.operand (.membership .isIn) (.array items)) =
        errorOf? (Comparison.literals (.membership .isIn) (.array items)) :=
      errorOf?_map _ _
    rw [Condition.nodes, firstFault?_singleton, hoperand]
    exact errorOf?_map _ _
  | object fields =>
    have hentries := Condition.errorOf?_mapM (Fields.present fields)
    rw [Condition.nodes, ← hentries]
    exact errorOf?_map _ _
  | _ => rfl

/-! ### Documents -/

mutual

/-- Reading a document fails for the fault of its first part that has one. -/
theorem Filter.errorOf?_ofValue : ∀ v : Value, errorOf? (Filter.ofValue v) = firstFault? v.nodes
  | .array items => by
    have hitems := Filter.errorOf?_ofItems items
    rw [Value.nodes, firstFault?_cons_of_sound rfl, ← hitems]
    exact errorOf?_map _ _
  | .object fields => by
    have hfields := Clause.errorOf?_ofFields fields
    rw [Value.nodes, firstFault?_cons_of_sound rfl, ← hfields]
    exact errorOf?_map _ _
  | .null | .bool _ | .number _ | .string _ | .date _ => rfl

theorem Filter.errorOf?_ofItems : ∀ items : List Value,
    errorOf? (Filter.ofItems items) = firstFault? (Value.itemsNodes items)
  | [] => rfl
  | v :: vs => by
    have hhead := Filter.errorOf?_ofValue v
    have htail := Filter.errorOf?_ofItems vs
    rw [Filter.ofItems, errorOf?_pair, Value.itemsNodes, firstFault?_append, hhead, htail]

theorem Clause.errorOf?_ofFields : ∀ fields : List (String × Option Value),
    errorOf? (Clause.ofFields fields) = firstFault? (Value.fieldsNodes fields)
  | [] => rfl
  | (_, none) :: fields => Clause.errorOf?_ofFields fields
  | (key, some v) :: fields => by
    have hhead := Clause.errorOf?_ofEntry (ClauseKey.ofString key) v
    have htail := Clause.errorOf?_ofFields fields
    rw [Clause.ofFields, errorOf?_pair, Value.fieldsNodes, firstFault?_append, hhead, htail]

theorem Clause.errorOf?_ofEntry : ∀ (key : ClauseKey) (v : Value),
    errorOf? (Clause.ofEntry key v) = firstFault? (Value.entryNodes key v)
  | .group connective, .array members => by
    have hmembers := Filter.errorOf?_ofItems members
    rw [Value.entryNodes, firstFault?_cons_of_sound rfl, ← hmembers]
    exact errorOf?_map _ _
  | .group _, .object _ | .group _, .null | .group _, .bool _ | .group _, .number _
  | .group _, .string _ | .group _, .date _ => rfl
  | .radius, v => by
    rw [Clause.ofEntry, Value.entryNodes, firstFault?_singleton, Node.fault?, ← errorOf?_mapError]
    exact errorOf?_map _ _
  | .box, v => by
    rw [Clause.ofEntry, Value.entryNodes, firstFault?_singleton, Node.fault?, ← errorOf?_mapError]
    exact errorOf?_map _ _
  | .field _, v => by
    rw [Clause.ofEntry, Value.entryNodes, ← Condition.errorOf?_ofValue]
    exact errorOf?_map _ _

end

/-- The first fault of a document decides: compiling fails with the fault of the first
    part that has one, whatever comes after that part, and without such a part it
    succeeds. -/
theorem compileFilter_firstFault (v : Value) :
    (∀ e, compileFilter v = .error e ↔ ∃ before node after, v.nodes = before ++ node :: after ∧
      (∀ sound ∈ before, sound.fault? = none) ∧ node.fault? = some e) ∧
    ((∃ text, compileFilter v = .ok text) ↔ ∀ node ∈ v.nodes, node.fault? = none) ∧
    (∀ w before node after after', v.nodes = before ++ node :: after →
      w.nodes = before ++ node :: after' → node.fault? ≠ none →
      compileFilter w = compileFilter v) := by
  have herror : ∀ v, errorOf? (compileFilter v) = firstFault? v.nodes := by
    intro v
    rw [compileFilter, errorOf?_map, Filter.errorOf?_ofValue]
  refine ⟨?_, ?_, ?_⟩
  · intro e
    rw [← errorOf?_eq_some_iff, herror, firstFault?, List.findSome?_eq_some_iff]
    constructor
    · rintro ⟨before, node, after, hnodes, hfault, hsound⟩
      exact ⟨before, node, after, hnodes, hsound, hfault⟩
    · rintro ⟨before, node, after, hnodes, hsound, hfault⟩
      exact ⟨before, node, after, hnodes, hfault, hsound⟩
  · rw [← errorOf?_eq_none_iff, herror, firstFault?, List.findSome?_eq_none_iff]
  · intro w before node after after' hv hw hfault
    -- both walks have the same first fault, at this part or before it
    obtain ⟨e, he⟩ := Option.ne_none_iff_exists'.mp hfault
    have hfirst : ∀ rest, firstFault? (before ++ node :: rest) = (firstFault? before).or (some e) := by
      intro rest
      rw [firstFault?_append, firstFault?, firstFault?, List.findSome?_cons, he]
    have hsome : (firstFault? before).or (some e) ≠ none := by
      cases firstFault? before <;> simp
    obtain ⟨first, hfirst'⟩ := Option.ne_none_iff_exists'.mp hsome
    have hresult : ∀ u rest, u.nodes = before ++ node :: rest → compileFilter u = .error first := by
      intro u rest hu
      rw [← errorOf?_eq_some_iff, herror, hu, hfirst, hfirst']
    rw [hresult w after' hw, hresult v after hv]

end SearchQuery
