import SearchQuery.Fragment

/-! # Formulas

  The grammar of expressions. A formula is a row of alternatives with OR between
  them, an alternative is a row of factors with AND between them, and a factor is
  an atom or a formula in parentheses. So parentheses group and AND binds more
  tightly than OR.

  An atom is a text here; which texts are atoms is said elsewhere. Leaves are
  counted from left to right, and a formula has a truth value once each of its
  leaves has one, whether or not two leaves have the same text.
-/

namespace SearchQuery

/-- A part of a formula that no AND and no OR takes apart. -/
inductive Factor where
  | atom (text : String)
  /-- The alternatives stand in parentheses. -/
  | group (alternatives : List (List Factor))

/-- Factors that must all hold. -/
abbrev Conjunction := List Factor

/-- Conjunctions of which one must hold. -/
abbrev Formula := List Conjunction

/-! ### Texts -/

mutual

def Factor.text : Factor → String
  | .atom text => text
  | .group alternatives => "(" ++ String.intercalate " OR " (Formula.texts alternatives) ++ ")"

def Conjunction.texts : Conjunction → List String
  | [] => []
  | factor :: factors => factor.text :: Conjunction.texts factors

def Formula.texts : Formula → List String
  | [] => []
  | conjunction :: conjunctions =>
    String.intercalate " AND " (Conjunction.texts conjunction) :: Formula.texts conjunctions

end

def Conjunction.text (conjunction : Conjunction) : String :=
  String.intercalate " AND " (Conjunction.texts conjunction)

def Formula.text (formula : Formula) : String :=
  String.intercalate " OR " (Formula.texts formula)

theorem Conjunction.texts_eq_map (conjunction : Conjunction) :
    Conjunction.texts conjunction = conjunction.map Factor.text := by
  induction conjunction with
  | nil => rfl
  | cons factor factors ih => simp [Conjunction.texts, ih]

theorem Formula.texts_eq_map (formula : Formula) :
    Formula.texts formula = formula.map Conjunction.text := by
  induction formula with
  | nil => rfl
  | cons conjunction conjunctions ih => simp [Formula.texts, Conjunction.text, ih]

theorem Formula.text_singleton (conjunction : Conjunction) :
    Formula.text [conjunction] = Conjunction.text conjunction := by
  simp [Formula.text, Formula.texts, Conjunction.text]

/-! ### Leaves -/

mutual

/-- The texts of the atoms, from left to right. -/
def Factor.leaves : Factor → List String
  | .atom text => [text]
  | .group alternatives => Formula.leaves alternatives

def Conjunction.leaves : Conjunction → List String
  | [] => []
  | factor :: factors => factor.leaves ++ Conjunction.leaves factors

def Formula.leaves : Formula → List String
  | [] => []
  | conjunction :: conjunctions => Conjunction.leaves conjunction ++ Formula.leaves conjunctions

end

theorem Conjunction.leaves_append (factors factors' : Conjunction) :
    Conjunction.leaves (factors ++ factors') =
      Conjunction.leaves factors ++ Conjunction.leaves factors' := by
  induction factors with
  | nil => rfl
  | cons factor factors ih =>
    rw [List.cons_append, Conjunction.leaves, Conjunction.leaves, ih, List.append_assoc]

theorem Formula.leaves_singleton (conjunction : Conjunction) :
    Formula.leaves [conjunction] = Conjunction.leaves conjunction := by
  simp [Formula.leaves]

/-! ### Truth -/

mutual

/-- The truth of a factor whose leaves have the numbers from `start` on. -/
def Factor.truth (assignment : Nat → Bool) (start : Nat) : Factor → Bool
  | .atom _ => assignment start
  | .group alternatives => Formula.truth assignment start alternatives

def Conjunction.truth (assignment : Nat → Bool) (start : Nat) : Conjunction → Bool
  | [] => true
  | factor :: factors =>
    factor.truth assignment start &&
      Conjunction.truth assignment (start + factor.leaves.length) factors

def Formula.truth (assignment : Nat → Bool) (start : Nat) : Formula → Bool
  | [] => false
  | conjunction :: conjunctions =>
    Conjunction.truth assignment start conjunction ||
      Formula.truth assignment (start + (Conjunction.leaves conjunction).length) conjunctions

end

theorem Conjunction.truth_append (assignment : Nat → Bool) (start : Nat)
    (factors factors' : Conjunction) :
    Conjunction.truth assignment start (factors ++ factors') =
      (Conjunction.truth assignment start factors &&
        Conjunction.truth assignment (start + (Conjunction.leaves factors).length) factors') := by
  induction factors generalizing start with
  | nil => simp [Conjunction.truth, Conjunction.leaves]
  | cons factor factors ih =>
    rw [List.cons_append, Conjunction.truth, Conjunction.truth, ih, Conjunction.leaves,
      List.length_append, Bool.and_assoc, Nat.add_assoc]

theorem Formula.truth_singleton (assignment : Nat → Bool) (start : Nat)
    (conjunction : Conjunction) :
    Formula.truth assignment start [conjunction] =
      Conjunction.truth assignment start conjunction := by
  simp [Formula.truth]

/-! ### Proper formulas -/

mutual

/-- Whether no group and no alternative in a factor is empty. -/
def Factor.IsProper : Factor → Prop
  | .atom _ => True
  | .group alternatives => alternatives ≠ [] ∧ Formula.AreProper alternatives

def Conjunction.AreProper : Conjunction → Prop
  | [] => True
  | factor :: factors => factor.IsProper ∧ Conjunction.AreProper factors

def Formula.AreProper : Formula → Prop
  | [] => True
  | conjunction :: conjunctions =>
    conjunction ≠ [] ∧ Conjunction.AreProper conjunction ∧ Formula.AreProper conjunctions

end

/-- Whether a formula has an alternative, and neither an empty group nor an empty
    alternative anywhere. -/
def Formula.IsProper (formula : Formula) : Prop :=
  formula ≠ [] ∧ Formula.AreProper formula

theorem Conjunction.areProper_iff (conjunction : Conjunction) :
    Conjunction.AreProper conjunction ↔ ∀ factor ∈ conjunction, factor.IsProper := by
  induction conjunction with
  | nil => simp [Conjunction.AreProper]
  | cons factor factors ih => simp [Conjunction.AreProper, ih]

theorem Formula.areProper_iff (formula : Formula) :
    Formula.AreProper formula ↔
      ∀ conjunction ∈ formula, conjunction ≠ [] ∧ Conjunction.AreProper conjunction := by
  induction formula with
  | nil => simp [Formula.AreProper]
  | cons conjunction conjunctions ih => simp [Formula.AreProper, ih, and_assoc]

/-- What has parts, and all of them proper, has a leaf. -/
theorem Factor.leaves_ne_nil : ∀ factor : Factor, factor.IsProper → factor.leaves ≠ []
  | .atom _, _ => by simp [Factor.leaves]
  | .group ([] :: _), ⟨_, h, _⟩ => absurd rfl h
  | .group ((factor :: _) :: _), ⟨_, _, ⟨hfactor, _⟩, _⟩ => by
    have hleaves := Factor.leaves_ne_nil factor hfactor
    simp [Factor.leaves, Formula.leaves, Conjunction.leaves, hleaves]
  | .group [], ⟨h, _⟩ => absurd rfl h

theorem Conjunction.leaves_eq_nil_iff {conjunction : Conjunction}
    (h : Conjunction.AreProper conjunction) :
    Conjunction.leaves conjunction = [] ↔ conjunction = [] := by
  cases conjunction with
  | nil => simp [Conjunction.leaves]
  | cons factor factors =>
    have hleaves := Factor.leaves_ne_nil factor h.1
    simp [Conjunction.leaves, hleaves]

end SearchQuery
