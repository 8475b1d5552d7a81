import SearchQuery.Proofs.BuilderDocuments
import SearchQuery.Proofs.Rewording

/-! # Conjunctions

  An object says that all of its entries hold, an array that all of its members do, and so
  does an and-group. `Filter.Regrouping` relates two documents that put the same conjuncts
  together in different ways: an object may be cut into the documents of its entries, a
  field's operators into one document each, and an array or an and-group may be opened
  inside another one. This may happen at any depth and any number of times. The members of
  an or-group are alternatives, so they may be regrouped each by itself, but none is opened.

  Documents that are regrouped compile to the same text, or fail for the same reason. The
  expression of several documents is told from the expressions of each of them, and it does
  not matter which of them are joined first.
-/

namespace SearchQuery

/-! ### Regrouping -/

/-- The documents of the entries that are present, one for each. -/
def Fields.documents (fields : Fields Value) : List Value :=
  (Fields.present fields).map fun (key, v) => .object [(key, some v)]

/-- The documents of the operators of a field that are present, one for each. -/
def Fields.operatorDocuments (name : String) (operators : Fields Value) : List Value :=
  (Fields.documents operators).map fun condition => .object [(name, some condition)]

/-- The document that consists of one group. -/
def Connective.document (connective : Connective) (members : List Value) : Value :=
  .object [(connective.key, some (.array members))]

mutual

/-- Two documents that put the same conjuncts together. -/
inductive Filter.Regrouping : Value → Value → Prop where
  | refl (v : Value) : Filter.Regrouping v v
  | symm {v v' : Value} (h : Filter.Regrouping v v') : Filter.Regrouping v' v
  | trans {v v' v'' : Value} (h : Filter.Regrouping v v') (h' : Filter.Regrouping v' v'') :
      Filter.Regrouping v v''
  /-- An object, and the array of the documents of its entries. -/
  | entries (fields : List (String × Option Value)) :
      Filter.Regrouping (.object fields) (.array (Fields.documents fields))
  /-- An object, and the and-group of the documents of its entries. -/
  | group (fields : List (String × Option Value)) :
      Filter.Regrouping (.object fields) (Connective.and.document (Fields.documents fields))
  /-- The operators of a field, and the array of the documents of each operator. -/
  | operators {name : String} (hname : name ∉ reservedKeys)
      (operators : List (String × Option Value)) :
      Filter.Regrouping (.object [(name, some (.object operators))])
        (.array (Fields.operatorDocuments name operators))
  /-- The members of an array. -/
  | array {members members' : List Value} (h : Filter.MembersRegrouping .and members members') :
      Filter.Regrouping (.array members) (.array members')
  /-- The groups among the entries of an object. -/
  | object {fields fields' : List (String × Option Value)}
      (h : Clause.FieldsRegrouping fields fields') :
      Filter.Regrouping (.object fields) (.object fields')

/-- Two lists of members that are joined by a connective. -/
inductive Filter.MembersRegrouping : Connective → List Value → List Value → Prop where
  | nil (connective : Connective) : Filter.MembersRegrouping connective [] []
  | cons {connective : Connective} {v v' : Value} {members members' : List Value}
      (h : Filter.Regrouping v v') (hs : Filter.MembersRegrouping connective members members') :
      Filter.MembersRegrouping connective (v :: members) (v' :: members')
  /-- An array is opened among conjuncts. -/
  | openArray (inner : List Value) {members members' : List Value}
      (hs : Filter.MembersRegrouping .and members members') :
      Filter.MembersRegrouping .and (.array inner :: members) (inner ++ members')
  /-- An and-group is opened among conjuncts. -/
  | openGroup (inner : List Value) {members members' : List Value}
      (hs : Filter.MembersRegrouping .and members members') :
      Filter.MembersRegrouping .and (Connective.and.document inner :: members) (inner ++ members')

/-- The entries of two objects: the same, but for the members of groups. -/
inductive Clause.FieldsRegrouping :
    List (String × Option Value) → List (String × Option Value) → Prop where
  | nil : Clause.FieldsRegrouping [] []
  | same (entry : String × Option Value) {fields fields' : List (String × Option Value)}
      (hs : Clause.FieldsRegrouping fields fields') :
      Clause.FieldsRegrouping (entry :: fields) (entry :: fields')
  | group {connective : Connective} {members members' : List Value}
      {fields fields' : List (String × Option Value)}
      (h : Filter.MembersRegrouping connective members members')
      (hs : Clause.FieldsRegrouping fields fields') :
      Clause.FieldsRegrouping ((connective.key, some (.array members)) :: fields)
        ((connective.key, some (.array members')) :: fields')

end

/-! ### Joining in parts -/

/-- What stands between the members of a group. -/
def Connective.separator : Connective → String
  | and => " AND "
  | or => " OR "

/-- The expression of a group, made from its joined members. -/
def Connective.enclose : Connective → String → String
  | and, joined => joined
  | or, joined => if joined.isEmpty then "" else "(" ++ joined ++ ")"

section Joining

variable (separator : String)

theorem joinFragments_cons (fragment : String) (fragments : List String) :
    joinFragments separator (fragment :: fragments) =
      joinFragments separator [fragment, joinFragments separator fragments] := by
  have happend := joinFragments_append separator [fragment] fragments
  rw [joinFragments_singleton] at happend
  exact happend

theorem joinFragments_empty_left (fragment : String) :
    joinFragments separator ["", fragment] = fragment := by
  have happend := joinFragments_append separator [] [fragment]
  rw [joinFragments_singleton] at happend
  exact happend.symm.trans (joinFragments_singleton separator fragment)

theorem joinFragments_assoc (first second third : String) :
    joinFragments separator [joinFragments separator [first, second], third] =
      joinFragments separator [first, joinFragments separator [second, third]] := by
  have happend := joinFragments_append separator [first, second] [third]
  rw [joinFragments_singleton] at happend
  rw [← happend, ← joinFragments_cons]
  rfl

/-- Joining the first of some texts with all others joined. -/
theorem map_joinFragments_cons (text : Except QueryError String)
    (texts : Except QueryError (List String)) :
    (do
      let text ← text
      let texts ← texts
      return text :: texts).map (joinFragments separator) = (do
      let text ← text
      let joined ← texts.map (joinFragments separator)
      return joinFragments separator [text, joined]) := by
  cases text with
  | error e => rfl
  | ok text =>
    cases texts with
    | error e => rfl
    | ok texts => exact congrArg Except.ok (joinFragments_cons separator text texts)

end Joining

/-! ### Expressions of several documents -/

/-- The expressions of several documents, joined one after the other. The first document that
    has no meaning decides. -/
def compileJoined (separator : String) : List Value → Except QueryError String
  | [] => .ok ""
  | v :: vs => do
    let text ← compileFilter v
    let joined ← compileJoined separator vs
    return joinFragments separator [text, joined]

section Documents

variable (separator : String)

theorem compileJoined_cons (v : Value) (vs : List Value) :
    compileJoined separator (v :: vs) = (do
      let text ← compileFilter v
      let joined ← compileJoined separator vs
      return joinFragments separator [text, joined]) := rfl

/-- Documents may be joined each part by itself first. -/
theorem compileJoined_append (vs ws : List Value) :
    compileJoined separator (vs ++ ws) = (do
      let text ← compileJoined separator vs
      let text' ← compileJoined separator ws
      return joinFragments separator [text, text']) := by
  induction vs with
  | nil =>
    show compileJoined separator ws = compileJoined separator ws >>= _
    cases compileJoined separator ws with
    | error e => rfl
    | ok text => exact congrArg Except.ok (joinFragments_empty_left separator text).symm
  | cons v vs ih =>
    rw [List.cons_append, compileJoined_cons, compileJoined_cons, ih]
    cases compileFilter v with
    | error e => rfl
    | ok text =>
      cases compileJoined separator vs with
      | error e => rfl
      | ok texts =>
        cases compileJoined separator ws with
        | error e => rfl
        | ok texts' => exact congrArg Except.ok (joinFragments_assoc separator text texts texts').symm

theorem map_texts_eq_compileJoined (vs : List Value) :
    ((Filter.ofItems vs).map Filter.texts).map (joinFragments separator) =
      compileJoined separator vs := by
  induction vs with
  | nil => rfl
  | cons v vs ih =>
    rw [Filter.map_texts_cons, map_joinFragments_cons, ih]
    rfl

theorem compileFilter_array (members : List Value) :
    compileFilter (.array members) = compileJoined " AND " members := by
  rw [← map_texts_eq_compileJoined]
  exact Filter.map_text_array members

/-- An object says what the documents of its entries say. -/
theorem compileFilter_object (fields : Fields Value) :
    compileFilter (.object fields) = compileJoined " AND " (Fields.documents fields) := by
  have htexts : ((Clause.ofFields fields).map Clause.texts).map joinAnd =
      compileJoined " AND " (Fields.documents fields) := by
    induction fields with
    | nil => rfl
    | cons entry fields ih =>
      obtain ⟨key, v?⟩ := entry
      match v? with
      | none => exact ih
      | some v =>
        have hjoin : joinAnd = joinFragments " AND " := rfl
        rw [hjoin] at ih ⊢
        rw [Clause.map_texts_cons, map_joinFragments_cons, ih, ← compileFilter_singleton]
        rfl
  rw [← htexts]
  exact Filter.map_text_object fields

/-- A group is the joined expression of its members. -/
theorem compileFilter_group (connective : Connective) (members : List Value) :
    compileFilter (connective.document members) =
      (compileJoined connective.separator members).map connective.enclose := by
  rw [Connective.document, compileFilter_singleton, ClauseKey.ofString_group,
    Clause.map_text_group, ← map_texts_eq_compileJoined]
  cases connective with
  | and => cases Filter.ofItems members <;> rfl
  | or => cases Filter.ofItems members <;> rfl

theorem compileFilter_and (members : List Value) :
    compileFilter (Connective.and.document members) = compileJoined " AND " members := by
  rw [compileFilter_group]
  show (compileJoined " AND " members).map id = _
  cases compileJoined " AND " members <;> rfl

/-- The document of one operator of a field is the comparison that it spells. -/
theorem compileFilter_operator {name : String} (hname : name ∉ reservedKeys) (spelling : String)
    (operand : Value) :
    compileFilter (.object [(name, some (.object [(spelling, some operand)]))]) =
      (Comparison.ofSpelling spelling operand).map (Comparison.text name) := by
  have hcompare := Expression.compile_compare hname spelling operand
  rw [compileComparison, Predicate.ofSpelling] at hcompare
  show compileFilter (Expression.document (.compare name spelling operand)) = _
  rw [hcompare]
  cases Comparison.ofSpelling spelling operand <;> rfl

/-- The comparisons of a field, joined one after the other. -/
theorem map_comparisons_eq_compileJoined {name : String} (hname : name ∉ reservedKeys)
    (entries : Entries Value) :
    (entries.mapM fun (spelling, operand) => Comparison.ofSpelling spelling operand).map
        (fun comparisons : List Comparison =>
          joinFragments " AND " (comparisons.map (Comparison.text name))) =
      compileJoined " AND " (entries.map fun (spelling, operand) =>
        .object [(name, some (.object [(spelling, some operand)]))]) := by
  induction entries with
  | nil => rfl
  | cons entry entries ih =>
    obtain ⟨spelling, operand⟩ := entry
    rw [List.mapM_cons, List.map_cons, compileJoined_cons]
    dsimp only
    rw [compileFilter_operator hname, ← ih]
    cases Comparison.ofSpelling spelling operand with
    | error e => rfl
    | ok c =>
      cases entries.mapM fun (spelling, operand) => Comparison.ofSpelling spelling operand with
      | error e => rfl
      | ok cs => exact congrArg Except.ok (joinFragments_cons _ _ _)

/-- A field says what the documents of its operators say. -/
theorem compileFilter_operators {name : String} (hname : name ∉ reservedKeys)
    (operators : Fields Value) :
    compileFilter (.object [(name, some (.object operators))]) =
      compileJoined " AND " (Fields.operatorDocuments name operators) := by
  -- no comparison is empty, so none of them is left out
  have hjoin : ∀ comparisons : List Comparison,
      String.intercalate " AND " (comparisons.map (Comparison.text name)) =
        joinFragments " AND " (comparisons.map (Comparison.text name)) := by
    intro comparisons
    refine (joinFragments_of_ne " AND " ?_).symm
    intro text htext
    obtain ⟨c, -, rfl⟩ := List.mem_map.mp htext
    simp [Comparison.text]
  have hcomparisons := map_comparisons_eq_compileJoined hname (Fields.present operators)
  rw [compileFilter_singleton, ClauseKey.ofString_of_not_mem hname, Clause.map_text_field]
  simp only [hjoin]
  rw [Fields.operatorDocuments, Fields.documents, List.map_map, Function.comp_def, ← hcomparisons]
  rw [Condition.ofValue]
  cases (Fields.present operators).mapM fun (spelling, operand) =>
    Comparison.ofSpelling spelling operand <;> rfl

end Documents

/-! ### Regrouped documents -/

mutual

/-- Regrouped documents have the same expression, or fail for the same reason. -/
theorem Filter.Regrouping.compile_eq : ∀ {v v' : Value}, Filter.Regrouping v v' →
    compileFilter v' = compileFilter v
  | _, _, .refl _ => rfl
  | _, _, .symm h => h.compile_eq.symm
  | _, _, .trans h h' => h'.compile_eq.trans h.compile_eq
  | _, _, .entries fields => by
    rw [compileFilter_array, compileFilter_object]
  | _, _, .group fields => by
    rw [compileFilter_and, compileFilter_object]
  | _, _, .operators hname operators => by
    rw [compileFilter_array, compileFilter_operators hname]
  | _, _, .array h => by
    have hmembers := h.compileJoined_eq
    rw [compileFilter_array, compileFilter_array]
    exact hmembers
  | _, _, .object h => by
    have hfields := h.compileJoined_eq
    rw [compileFilter_object, compileFilter_object, hfields]

theorem Filter.MembersRegrouping.compileJoined_eq :
    ∀ {connective : Connective} {members members' : List Value},
    Filter.MembersRegrouping connective members members' →
    compileJoined connective.separator members' = compileJoined connective.separator members
  | _, _, _, .nil _ => rfl
  | _, _, _, .cons h hs => by
    have hhead := h.compile_eq
    have htail := hs.compileJoined_eq
    rw [compileJoined_cons, compileJoined_cons, hhead, htail]
  | _, _, _, .openArray inner hs => by
    have htail := hs.compileJoined_eq
    rw [compileJoined_append, compileJoined_cons, htail, compileFilter_array]
    rfl
  | _, _, _, .openGroup inner hs => by
    have htail := hs.compileJoined_eq
    rw [compileJoined_append, compileJoined_cons, htail, compileFilter_and]
    rfl

theorem Clause.FieldsRegrouping.compileJoined_eq :
    ∀ {fields fields' : List (String × Option Value)}, Clause.FieldsRegrouping fields fields' →
    compileJoined " AND " (Fields.documents fields') = compileJoined " AND " (Fields.documents fields)
  | _, _, .nil => rfl
  | _, _, .same (key, none) hs => hs.compileJoined_eq
  | _, _, .same (key, some v) hs => by
    have htail := hs.compileJoined_eq
    show compileJoined " AND " (.object [(key, some v)] :: Fields.documents _) =
      compileJoined " AND " (.object [(key, some v)] :: Fields.documents _)
    rw [compileJoined_cons, compileJoined_cons, htail]
  | _, _, @Clause.FieldsRegrouping.group connective members members' _ _ h hs => by
    have hmembers := h.compileJoined_eq
    have htail := hs.compileJoined_eq
    show compileJoined " AND " (connective.document members' :: Fields.documents _) =
      compileJoined " AND " (connective.document members :: Fields.documents _)
    rw [compileJoined_cons, compileJoined_cons, compileFilter_group, compileFilter_group, hmembers,
      htail]

end

/-- Conjunctions flatten: a document that is regrouped, at any depth, compiles to the same
    text, or fails with the same error. An or-group has no such law: opening one of its members
    may give another text. -/
theorem compileFilter_regrouping :
    (∀ v v', Filter.Regrouping v v' → compileFilter v' = compileFilter v) ∧
    ∃ before inner after,
      compileFilter (Connective.or.document (before ++ .array inner :: after)) ≠
        compileFilter (Connective.or.document (before ++ (inner ++ after))) := by
  refine ⟨fun _ _ h => h.compile_eq, [], [.object [("a", some .null)], .object [("b", some .null)]],
    [], ?_⟩
  decide +kernel

/-- An or-group whose alternatives are regrouped, beside a field without operators: groups
    that say nothing vanish, and an absent entry with them. -/
theorem compileFilter_regrouping_nested :
    let age : Value := .object [(">=", some (.number (.signed 18))), ("<", none),
      ("!=", some .null)]
    let v : Value := .object [
      ("$or", some (.array [
        .object [("age", some age), ("name", none)],
        .array [.object [("$and", some (.array [.object []]))]],
        .object [("city", some (.string "Oslo"))]])),
      ("size", some (.object []))]
    let v' : Value := .array [
      .object [("$or", some (.array [
        .array [.object [("age", some (.object [(">=", some (.number (.signed 18)))]))],
          .object [("age", some (.object [("!=", some .null)]))]],
        .array [.object []],
        .object [("city", some (.string "Oslo"))]]))]]
    Filter.Regrouping v v' ∧ compileFilter v' = compileFilter v ∧
      compileFilter v = .ok "(age >= 18 AND age IS NOT NULL OR city = \"Oslo\")" := by
  intro age v v'
  have hage : Filter.Regrouping (.object [("age", some age), ("name", none)])
      (.array (Fields.operatorDocuments "age" [(">=", some (.number (.signed 18))), ("<", none),
        ("!=", some .null)])) := by
    -- the object of one present entry, its operators, and the two arrays made one
    refine .trans (.entries _) (.trans (.array (.cons (.operators (by decide) _) (.nil .and))) ?_)
    exact .array (.openArray _ (.nil .and))
  have hempty : Filter.Regrouping (.array [.object [("$and", some (.array [.object []]))]])
      (.array [.object []]) := .array (.openGroup [.object []] (.nil .and))
  have hsize : Filter.Regrouping (.object [("size", some (.object []))]) (.array []) :=
    .operators (by decide) []
  have hmembers := Filter.MembersRegrouping.cons hage (.cons hempty
    (.cons (.refl (.object [("city", some (.string "Oslo"))])) (.nil .or)))
  have hor := Clause.FieldsRegrouping.group hmembers .nil
  have h : Filter.Regrouping v v' := by
    refine .trans (.entries _) (.trans (.array (.cons (.object hor) (.cons hsize (.nil .and)))) ?_)
    exact .array (.cons (.refl _) (.openArray [] (.nil .and)))
  refine ⟨h, compileFilter_regrouping.1 v v' h, ?_⟩
  decide +kernel

end SearchQuery
