import SearchQuery.Filter
import SearchQuery.Proofs.Formula.Outline

/-! # The text of a filter means what the filter means

  The expression of a filter is empty if the filter has no predicate. Otherwise it
  is a formula of the grammar, the only one with this text and the one that the
  reader finds. Its leaves are the predicates of the filter in document order, and
  it is true under the same assignments of truth to them.

  The meaning of a filter is that of its outline: arrays, objects, objects of
  operators and and-groups are conjunctions, or-groups are disjunctions, and parts
  without a predicate are left out wherever they stand.
-/

namespace SearchQuery

/-! ### The outline of a filter -/

/-- The outline of a condition on a field. -/
def Condition.outline (field : String) (condition : Condition) : Outline :=
  .group .and (condition.comparisons.map fun c => .atom (.comparison ⟨field, c⟩))

mutual

def Filter.outline : Filter → Outline
  | .all members => .group .and (Filter.outlines members)
  | .clauses clauses => .group .and (Clause.outlines clauses)

def Filter.outlines : List Filter → List Outline
  | [] => []
  | filter :: filters => filter.outline :: Filter.outlines filters

def Clause.outline : Clause → Outline
  | .group connective members => .group connective (Filter.outlines members)
  | .radius radius => .atom (.radius radius)
  | .box box => .atom (.box box)
  | .field name condition => condition.outline name

def Clause.outlines : List Clause → List Outline
  | [] => []
  | clause :: clauses => clause.outline :: Clause.outlines clauses

end

namespace Filter

/-- The predicates of a filter, in document order. -/
def atoms (filter : Filter) : List Atom := filter.outline.atoms

/-- The truth of a filter whose predicates are numbered in document order; none if it
    has no predicate. -/
def truth? (assignment : Nat → Bool) (filter : Filter) : Option Bool :=
  filter.outline.truth? assignment 0

end Filter

/-! ### The text of the outline -/

theorem Outline.texts_comparisons (field : String) (comparisons : List Comparison) :
    Outline.texts (comparisons.map fun c => .atom (.comparison ⟨field, c⟩)) =
      comparisons.map (Comparison.text field) := by
  induction comparisons with
  | nil => rfl
  | cons c comparisons ih => simp [Outline.texts, Outline.text, Atom.text, Predicate.text, ih]

theorem Condition.text_outline (field : String) (condition : Condition) :
    (condition.outline field).text = condition.text field := by
  -- comparisons have texts, so the condition may join them without looking
  unfold Condition.outline Condition.text
  rw [Outline.text, Outline.texts_comparisons]
  refine joinFragments_of_ne " AND " ?_
  intro text htext
  obtain ⟨c, _, rfl⟩ := List.mem_map.mp htext
  simp [Comparison.text]

mutual

/-- A filter has the text of its outline. -/
theorem Filter.text_outline : ∀ filter : Filter, filter.outline.text = filter.text
  | .all members => by
    rw [Filter.outline, Outline.text, Filter.texts_outlines members, Filter.text]
    rfl
  | .clauses clauses => by
    rw [Filter.outline, Outline.text, Clause.texts_outlines clauses, Filter.text]
    rfl

theorem Filter.texts_outlines : ∀ filters : List Filter,
    Outline.texts (Filter.outlines filters) = Filter.texts filters
  | [] => rfl
  | filter :: filters => by
    rw [Filter.outlines, Outline.texts, Filter.text_outline filter,
      Filter.texts_outlines filters, Filter.texts]

theorem Clause.text_outline : ∀ clause : Clause, clause.outline.text = clause.text
  | .group .and members => by
    rw [Clause.outline, Outline.text, Filter.texts_outlines members, Clause.text]
    rfl
  | .group .or members => by
    rw [Clause.outline, Outline.text, Filter.texts_outlines members, Clause.text]
    rfl
  | .radius radius => rfl
  | .box box => rfl
  | .field name condition => condition.text_outline name

theorem Clause.texts_outlines : ∀ clauses : List Clause,
    Outline.texts (Clause.outlines clauses) = Clause.texts clauses
  | [] => rfl
  | clause :: clauses => by
    rw [Clause.outlines, Outline.texts, Clause.text_outline clause,
      Clause.texts_outlines clauses, Clause.texts]

end

/-! ### Reading the text of a filter -/

/-- Whether a formula is an expression of the grammar: nothing in it is empty, and its
    leaves are the texts of predicates of plain fields. -/
structure Formula.IsExpression (formula : Formula) : Prop where
  proper : Formula.IsProper formula
  leaves : ∀ leaf ∈ Formula.leaves formula, ∃ atom : Atom, atom.IsPlain ∧ atom.text = leaf

namespace Formula

theorem IsExpression.scansAsAtom {formula : Formula} (h : IsExpression formula) :
    ∀ leaf ∈ Formula.leaves formula, ScansAsAtom leaf := by
  intro leaf hleaf
  obtain ⟨atom, hplain, rfl⟩ := h.leaves leaf hleaf
  exact atom.scansAsAtom hplain

/-- The grammar is unambiguous. -/
theorem IsExpression.eq_of_text_eq {formula formula' : Formula} (h : IsExpression formula)
    (h' : IsExpression formula') (htext : Formula.text formula = Formula.text formula') :
    formula = formula' :=
  text_injOn h.proper h'.proper h.scansAsAtom h'.scansAsAtom htext

/-- Whether a formula is what a filter says: it has the filter's text and is what the
    text is read as, and it has the filter's predicates and the filter's truth. -/
structure Expresses (formula : Formula) (filter : Filter) : Prop where
  expression : IsExpression formula
  text : Formula.text formula = filter.text
  read : read? filter.text = some formula
  unique : ∀ other, IsExpression other → Formula.text other = filter.text → other = formula
  leaves : Formula.leaves formula = filter.atoms.map Atom.text
  truth : ∀ assignment, filter.truth? assignment = some (Formula.truth assignment 0 formula)

end Formula

namespace Filter

/-- The only alternative of the formula that a filter has. -/
def factors (filter : Filter) : Conjunction := filter.outline.factors

theorem text_eq (filter : Filter) : filter.text = Conjunction.text filter.factors := by
  rw [← filter.text_outline, Outline.text_eq]
  rfl

theorem leaves_factors (filter : Filter) :
    Conjunction.leaves filter.factors = filter.atoms.map Atom.text :=
  filter.outline.leaves_factors

theorem factors_eq_nil_iff (filter : Filter) : filter.factors = [] ↔ filter.atoms = [] :=
  filter.outline.factors_eq_nil_iff

theorem truth?_eq (assignment : Nat → Bool) (filter : Filter) :
    filter.truth? assignment = Conjunction.truth? assignment 0 filter.factors :=
  Outline.truth?_eq assignment filter.outline 0

/-- A filter without predicates has the empty text, and no other filter has. -/
theorem text_eq_empty_iff (filter : Filter) : filter.text = "" ↔ filter.atoms = [] := by
  rw [text_eq, Conjunction.text_eq_empty_iff, factors_eq_nil_iff]
  rw [leaves_factors]
  intro leaf hleaf
  obtain ⟨atom, _, rfl⟩ := List.mem_map.mp hleaf
  exact atom.text_ne_empty

theorem expresses_factors {filter : Filter}
    (hnames : ∀ predicate, Atom.comparison predicate ∈ filter.atoms →
      isPlainName predicate.field)
    (hatoms : filter.atoms ≠ []) : Formula.Expresses [filter.factors] filter := by
  have hne : filter.factors ≠ [] := by
    rw [ne_eq, factors_eq_nil_iff]
    exact hatoms
  have htext : Formula.text [filter.factors] = filter.text := by
    rw [Formula.text_singleton, text_eq]
  have hleaves : Formula.leaves [filter.factors] = filter.atoms.map Atom.text := by
    rw [Formula.leaves_singleton, leaves_factors]
  -- the leaves are texts of atoms because they are those of the filter's atoms
  have hexpression : Formula.IsExpression [filter.factors] := by
    refine ⟨⟨List.cons_ne_nil _ _, hne, filter.outline.areProper_factors, trivial⟩, ?_⟩
    intro leaf hleaf
    rw [hleaves] at hleaf
    obtain ⟨atom, hatom, rfl⟩ := List.mem_map.mp hleaf
    refine ⟨atom, ?_, rfl⟩
    cases atom with
    | comparison predicate => exact hnames predicate hatom
    | radius _ => trivial
    | box _ => trivial
  refine ⟨hexpression, htext, ?_, ?_, hleaves, ?_⟩
  · rw [← htext]
    exact Formula.read?_text hexpression.proper hexpression.scansAsAtom
  · intro other hother hsame
    exact hother.eq_of_text_eq hexpression (hsame.trans htext.symm)
  · intro assignment
    rw [truth?_eq, Conjunction.truth?, Formula.truth_singleton, if_neg (by simpa using hne)]

end Filter

/-- The expression of a filter document, if the document has one: the text is empty
    exactly if there is no predicate, and otherwise it is a formula that says what the
    filter says. -/
theorem compileFilter_faithful {document : Value} {filter : Filter}
    (hread : Filter.ofValue document = .ok filter)
    (hnames : ∀ predicate, Atom.comparison predicate ∈ filter.atoms →
      isPlainName predicate.field) :
    compileFilter document = .ok filter.text ∧
      (filter.text = "" ↔ filter.atoms = []) ∧
      (filter.atoms = [] → ∀ assignment, filter.truth? assignment = none) ∧
      (filter.atoms ≠ [] → ∃ formula, Formula.Expresses formula filter) := by
  refine ⟨?_, filter.text_eq_empty_iff, ?_, fun hatoms => ⟨_, Filter.expresses_factors hnames hatoms⟩⟩
  · unfold compileFilter
    rw [hread]
    rfl
  · intro hatoms assignment
    rw [Filter.truth?_eq, filter.factors_eq_nil_iff.mpr hatoms]
    rfl

/-- An or-group with a string that looks like an expression, and with an empty group. -/
theorem compileFilter_faithful_nested :
    ∃ formula, Formula.Expresses formula (.clauses [
      .group .or [.clauses [.field "name" (.equals (.string "a) OR (b"))],
        .clauses [.group .and []]],
      .field "age" (.operators [.order .gt (.number (.signed 18))])]) := by
  have hread : Filter.ofValue (.object [
      ("$or", some (.array [.object [("name", some (.string "a) OR (b"))],
        .object [("$and", some (.array []))]])),
      ("age", some (.object [("$gt", some (.number (.signed 18)))]))]) = .ok (.clauses [
      .group .or [.clauses [.field "name" (.equals (.string "a) OR (b"))],
        .clauses [.group .and []]],
      .field "age" (.operators [.order .gt (.number (.signed 18))])]) := by
    rfl
  refine (compileFilter_faithful hread ?_).2.2.2 ?_
  · intro predicate hmem
    simp only [Filter.atoms, Filter.outline, Filter.outlines, Clause.outline, Clause.outlines,
      Condition.outline, Condition.comparisons, Outline.atoms, Outline.atomsAll, List.map_cons,
      List.map_nil, List.append_nil, List.cons_append, List.nil_append, List.mem_cons,
      List.not_mem_nil, or_false, Atom.comparison.injEq] at hmem
    rcases hmem with rfl | rfl
    · decide
    · decide
  · simp [Filter.atoms, Filter.outline, Filter.outlines, Clause.outline, Clause.outlines,
      Condition.outline, Condition.comparisons, Outline.atoms, Outline.atomsAll]

end SearchQuery
