import SearchQuery.Proofs.Formula.Atom

/-! # Outlines

  An outline is what a document says, without the shape in which it says it: atoms
  under connectives, at any depth, where a group may be empty.

  A group that holds no atom says nothing, and its parent goes on without it. So an
  outline has a truth value only if it has an atom, and its text is put together
  from the fragments that are not empty. Flattening turns an outline into the
  factors of a formula: an and-group lends its factors to its parent, an or-group
  is a factor with the parts that are left as its alternatives. The factors have
  the text, the leaves and the truth of the outline.
-/

namespace SearchQuery

/-- Atoms under connectives. -/
inductive Outline where
  | atom (atom : Atom)
  | group (connective : Connective) (members : List Outline)

/-! ### What an outline says -/

/-- The fragment of a group with these fragments. -/
def Connective.join : Connective → List String → String
  | and => joinAnd
  | or => joinOr

/-- The truth of two parts under a connective. -/
def Connective.apply : Connective → Bool → Bool → Bool
  | and, a, b => a && b
  | or, a, b => a || b

namespace Outline

mutual

def text : Outline → String
  | atom a => a.text
  | group connective members => connective.join (texts members)

def texts : List Outline → List String
  | [] => []
  | member :: members => member.text :: texts members

end

mutual

/-- The atoms, from left to right. -/
def atoms : Outline → List Atom
  | atom a => [a]
  | group _ members => atomsAll members

def atomsAll : List Outline → List Atom
  | [] => []
  | member :: members => member.atoms ++ atomsAll members

end

mutual

/-- The truth of an outline whose atoms have the numbers from `start` on; none if it
    has no atom. -/
def truth? (assignment : Nat → Bool) (start : Nat) : Outline → Option Bool
  | atom _ => some (assignment start)
  | group connective members => truthOfAll? connective assignment start members

/-- The truth of the members of a group. Those that have none are left out. -/
def truthOfAll? (connective : Connective) (assignment : Nat → Bool) (start : Nat) :
    List Outline → Option Bool
  | [] => none
  | member :: members =>
    Option.merge connective.apply (member.truth? assignment start)
      (truthOfAll? connective assignment (start + member.atoms.length) members)

end

end Outline

/-! ### Flattening -/

/-- The factor that stands for an or-group, if any alternative is left. -/
def Conjunction.ofAlternatives (conjunctions : List Conjunction) : Conjunction :=
  let alternatives := conjunctions.filter fun conjunction => !conjunction.isEmpty
  if alternatives.isEmpty then [] else [.group alternatives]

/-- The factors that stand for a group whose members have these factors. -/
def Connective.gather : Connective → List Conjunction → Conjunction
  | and, conjunctions => conjunctions.flatten
  | or, conjunctions => Conjunction.ofAlternatives conjunctions

namespace Outline

mutual

/-- The factors that stand for an outline. -/
def factors : Outline → Conjunction
  | atom a => [.atom a.text]
  | group connective members => connective.gather (factorsEach members)

def factorsEach : List Outline → List Conjunction
  | [] => []
  | member :: members => member.factors :: factorsEach members

end

end Outline

/-! ### The leaves of the factors -/

theorem Conjunction.leaves_flatten (conjunctions : List Conjunction) :
    Conjunction.leaves conjunctions.flatten = conjunctions.flatMap Conjunction.leaves := by
  induction conjunctions with
  | nil => rfl
  | cons conjunction conjunctions ih =>
    rw [List.flatten_cons, Conjunction.leaves_append, ih, List.flatMap_cons]

theorem Conjunction.leaves_ofAlternatives (conjunctions : List Conjunction) :
    Conjunction.leaves (Conjunction.ofAlternatives conjunctions) =
      conjunctions.flatMap Conjunction.leaves := by
  have hformula : Formula.leaves (conjunctions.filter fun conjunction => !conjunction.isEmpty) =
      conjunctions.flatMap Conjunction.leaves := by
    induction conjunctions with
    | nil => rfl
    | cons conjunction conjunctions ih =>
      cases conjunction with
      | nil => simpa [Conjunction.leaves] using ih
      | cons factor factors => simp [Formula.leaves, ih]
  unfold Conjunction.ofAlternatives
  dsimp only
  split
  · next hempty =>
    -- no alternative is left, so no member has a leaf
    rw [← hformula, List.isEmpty_iff.mp hempty]
    rfl
  · simp [Conjunction.leaves, Factor.leaves, hformula]

theorem Connective.leaves_gather (connective : Connective) (conjunctions : List Conjunction) :
    Conjunction.leaves (connective.gather conjunctions) =
      conjunctions.flatMap Conjunction.leaves := by
  cases connective with
  | and => exact Conjunction.leaves_flatten conjunctions
  | or => exact Conjunction.leaves_ofAlternatives conjunctions

namespace Outline

mutual

/-- Every atom is a leaf, once and in order. -/
theorem leaves_factors : ∀ outline : Outline,
    Conjunction.leaves outline.factors = outline.atoms.map Atom.text
  | atom a => by simp [factors, atoms, Conjunction.leaves, Factor.leaves]
  | group connective members => by
    rw [factors, atoms, Connective.leaves_gather, leaves_factorsEach members]

theorem leaves_factorsEach : ∀ members : List Outline,
    (factorsEach members).flatMap Conjunction.leaves = (atomsAll members).map Atom.text
  | [] => rfl
  | member :: members => by
    rw [factorsEach, atomsAll, List.flatMap_cons, List.map_append, leaves_factors member,
      leaves_factorsEach members]

end

theorem length_leaves_factors (outline : Outline) :
    (Conjunction.leaves outline.factors).length = outline.atoms.length := by
  rw [leaves_factors, List.length_map]

end Outline

/-! ### The factors are proper -/

theorem Conjunction.areProper_ofAlternatives {conjunctions : List Conjunction}
    (h : ∀ conjunction ∈ conjunctions, Conjunction.AreProper conjunction) :
    Conjunction.AreProper (Conjunction.ofAlternatives conjunctions) := by
  unfold Conjunction.ofAlternatives
  dsimp only
  split
  · trivial
  · next hne =>
    refine ⟨⟨by simpa using hne, ?_⟩, trivial⟩
    rw [Formula.areProper_iff]
    intro conjunction hmem
    obtain ⟨hconjunction, hnonempty⟩ := List.mem_filter.mp hmem
    exact ⟨by simpa using hnonempty, h conjunction hconjunction⟩

theorem Connective.areProper_gather (connective : Connective) {conjunctions : List Conjunction}
    (h : ∀ conjunction ∈ conjunctions, Conjunction.AreProper conjunction) :
    Conjunction.AreProper (connective.gather conjunctions) := by
  cases connective with
  | and =>
    rw [gather, Conjunction.areProper_iff]
    intro factor hfactor
    obtain ⟨conjunction, hconjunction, hmem⟩ := List.mem_flatten.mp hfactor
    exact (Conjunction.areProper_iff conjunction).mp (h conjunction hconjunction) factor hmem
  | or => exact Conjunction.areProper_ofAlternatives h

namespace Outline

mutual

theorem areProper_factors : ∀ outline : Outline, Conjunction.AreProper outline.factors
  | atom _ => ⟨trivial, trivial⟩
  | group connective members => connective.areProper_gather (areProper_factorsEach members)

theorem areProper_factorsEach : ∀ members : List Outline,
    ∀ conjunction ∈ factorsEach members, Conjunction.AreProper conjunction
  | [] => by simp [factorsEach]
  | member :: members => by
    intro conjunction hmem
    rcases List.mem_cons.mp hmem with rfl | hmem
    · exact areProper_factors member
    · exact areProper_factorsEach members conjunction hmem

end

/-- An outline without atoms has no factors, and only such an outline has none. -/
theorem factors_eq_nil_iff (outline : Outline) : outline.factors = [] ↔ outline.atoms = [] := by
  rw [← Conjunction.leaves_eq_nil_iff outline.areProper_factors, leaves_factors,
    List.map_eq_nil_iff]

end Outline

/-! ### The text of the factors -/

theorem Factor.text_ne_empty {factor : Factor} (h : ∀ leaf ∈ factor.leaves, leaf ≠ "") :
    factor.text ≠ "" := by
  cases factor with
  | atom text => simpa [Factor.leaves, Factor.text] using h
  | group alternatives => simp [Factor.text]

/-- If no leaf is empty, no factor is, and nothing is lost in joining them. -/
theorem Conjunction.texts_ne_empty {conjunction : Conjunction}
    (h : ∀ leaf ∈ Conjunction.leaves conjunction, leaf ≠ "") :
    ∀ text ∈ Conjunction.texts conjunction, text ≠ "" := by
  induction conjunction with
  | nil => simp [Conjunction.texts]
  | cons factor factors ih =>
    intro text hmem
    rcases List.mem_cons.mp hmem with rfl | hmem
    · exact Factor.text_ne_empty fun leaf hleaf => h leaf (List.mem_append_left _ hleaf)
    · exact ih (fun leaf hleaf => h leaf (List.mem_append_right factor.leaves hleaf)) text hmem

theorem Conjunction.joinAnd_texts {conjunction : Conjunction}
    (h : ∀ leaf ∈ Conjunction.leaves conjunction, leaf ≠ "") :
    joinAnd (Conjunction.texts conjunction) = Conjunction.text conjunction :=
  joinFragments_of_ne " AND " (Conjunction.texts_ne_empty h)

theorem Conjunction.text_eq_empty_iff {conjunction : Conjunction}
    (h : ∀ leaf ∈ Conjunction.leaves conjunction, leaf ≠ "") :
    Conjunction.text conjunction = "" ↔ conjunction = [] := by
  constructor
  · intro htext
    cases conjunction with
    | nil => rfl
    | cons factor factors =>
      exact absurd htext (intercalate_ne_empty (List.cons_ne_nil _ _)
        (Conjunction.texts_ne_empty h))
  · rintro rfl
    rfl

section Gather

variable {conjunctions : List Conjunction}
  (h : ∀ leaf ∈ conjunctions.flatMap Conjunction.leaves, leaf ≠ "")
include h

theorem Conjunction.leaves_ne_empty_of_mem {conjunction : Conjunction}
    (hmem : conjunction ∈ conjunctions) :
    ∀ leaf ∈ Conjunction.leaves conjunction, leaf ≠ "" :=
  fun leaf hleaf => h leaf (List.mem_flatMap.mpr ⟨conjunction, hmem, hleaf⟩)

/-- An and-group has the text of its members' factors in one row. -/
theorem Conjunction.text_flatten :
    joinAnd (conjunctions.map Conjunction.text) = Conjunction.text conjunctions.flatten := by
  -- each member is a join of factors already, so joining the members joins joins
  have htexts : conjunctions.map Conjunction.text =
      (conjunctions.map Conjunction.texts).map joinAnd := by
    rw [List.map_map]
    refine List.map_congr_left fun conjunction hmem => ?_
    exact (Conjunction.joinAnd_texts (Conjunction.leaves_ne_empty_of_mem h hmem)).symm
  have hflatten : (conjunctions.map Conjunction.texts).flatten =
      Conjunction.texts conjunctions.flatten := by
    clear h htexts
    induction conjunctions with
    | nil => rfl
    | cons conjunction conjunctions ih =>
      simp only [List.map_cons, List.flatten_cons, ih, Conjunction.texts_eq_map, List.map_append]
  rw [htexts]
  unfold joinAnd
  rw [joinFragments_flatten, hflatten]
  refine Conjunction.joinAnd_texts ?_
  rw [Conjunction.leaves_flatten]
  exact h

/-- Of the members of an or-group, those with a text are those with factors. -/
theorem Conjunction.joinFragments_text :
    joinFragments " OR " (conjunctions.map Conjunction.text) =
      Formula.text (conjunctions.filter fun conjunction => !conjunction.isEmpty) := by
  unfold joinFragments Formula.text
  rw [List.filter_map, Formula.texts_eq_map]
  congr 2
  -- a member is left out for its empty text exactly if it has no factors
  refine List.filter_congr fun conjunction hmem => ?_
  have hempty := Conjunction.text_eq_empty_iff (Conjunction.leaves_ne_empty_of_mem h hmem)
  rw [Function.comp_apply, Bool.eq_iff_iff]
  simp [hempty]

/-- An or-group has the text of its alternatives in parentheses, those without factors
    left out. -/
theorem Conjunction.text_ofAlternatives :
    joinOr (conjunctions.map Conjunction.text) =
      Conjunction.text (Conjunction.ofAlternatives conjunctions) := by
  have hjoined := Conjunction.joinFragments_text h
  unfold joinOr Conjunction.ofAlternatives
  dsimp only
  rw [hjoined]
  by_cases hempty : (conjunctions.filter fun conjunction => !conjunction.isEmpty) = []
  · rw [hempty]
    rfl
  · have hne : Formula.text (conjunctions.filter fun conjunction => !conjunction.isEmpty) ≠ "" := by
      refine intercalate_ne_empty ?_ ?_
      · simpa [Formula.texts_eq_map] using hempty
      · rw [Formula.texts_eq_map]
        intro text htext
        obtain ⟨conjunction, hmem, rfl⟩ := List.mem_map.mp htext
        obtain ⟨hconjunction, hfactors⟩ := List.mem_filter.mp hmem
        have hleaves := Conjunction.leaves_ne_empty_of_mem h hconjunction
        rw [ne_eq, Conjunction.text_eq_empty_iff hleaves]
        simpa using hfactors
    rw [if_neg (by simpa using hne), if_neg (by simpa using hempty)]
    simp [Conjunction.text, Conjunction.texts, Factor.text, Formula.text]

theorem Connective.text_gather (connective : Connective) :
    connective.join (conjunctions.map Conjunction.text) =
      Conjunction.text (connective.gather conjunctions) := by
  cases connective with
  | and => exact Conjunction.text_flatten h
  | or => exact Conjunction.text_ofAlternatives h

end Gather

namespace Outline

mutual

/-- An outline has the text of its factors. -/
theorem text_eq : ∀ outline : Outline, outline.text = Conjunction.text outline.factors
  | atom a => by simp [text, factors, Conjunction.text, Conjunction.texts, Factor.text]
  | group connective members => by
    rw [text, factors, texts_eq members, Connective.text_gather]
    rw [leaves_factorsEach]
    intro leaf hleaf
    obtain ⟨a, _, rfl⟩ := List.mem_map.mp hleaf
    exact a.text_ne_empty

theorem texts_eq : ∀ members : List Outline,
    texts members = (factorsEach members).map Conjunction.text
  | [] => rfl
  | member :: members => by
    rw [texts, factorsEach, List.map_cons, text_eq member, texts_eq members]

end

end Outline

/-! ### The truth of the factors -/

/-- The truth of factors, if there are any. -/
def Conjunction.truth? (assignment : Nat → Bool) (start : Nat) (conjunction : Conjunction) :
    Option Bool :=
  if conjunction.isEmpty then none else some (Conjunction.truth assignment start conjunction)

/-- The truth of a group whose members have these factors. -/
def Connective.truth? (connective : Connective) (assignment : Nat → Bool) (start : Nat) :
    List Conjunction → Option Bool
  | [] => none
  | conjunction :: conjunctions =>
    Option.merge connective.apply (Conjunction.truth? assignment start conjunction)
      (connective.truth? assignment (start + (Conjunction.leaves conjunction).length) conjunctions)

section Truth

variable (assignment : Nat → Bool) (start : Nat)

theorem Conjunction.truth?_append (conjunction conjunction' : Conjunction) :
    Conjunction.truth? assignment start (conjunction ++ conjunction') =
      Option.merge Connective.and.apply (Conjunction.truth? assignment start conjunction)
        (Conjunction.truth? assignment (start + (Conjunction.leaves conjunction).length)
          conjunction') := by
  cases conjunction with
  | nil => simp [Conjunction.truth?, Conjunction.leaves]
  | cons factor factors =>
    cases conjunction' with
    | nil => simp [Conjunction.truth?]
    | cons factor' factors' =>
      -- with factors on both sides, both truths count
      have happend := Conjunction.truth_append assignment start (factor :: factors)
        (factor' :: factors')
      rw [List.cons_append] at happend
      simp [Conjunction.truth?, happend, Connective.apply]

theorem Conjunction.truth?_flatten (conjunctions : List Conjunction) :
    Conjunction.truth? assignment start conjunctions.flatten =
      Connective.and.truth? assignment start conjunctions := by
  induction conjunctions generalizing start with
  | nil => rfl
  | cons conjunction conjunctions ih =>
    rw [List.flatten_cons, Conjunction.truth?_append, ih, Connective.truth?]

/-- Alternatives without factors have no leaves either, so leaving them out renumbers
    nothing. -/
theorem Connective.truth?_or (conjunctions : List Conjunction) :
    Connective.or.truth? assignment start conjunctions =
      let alternatives := conjunctions.filter fun conjunction => !conjunction.isEmpty
      if alternatives.isEmpty then none
      else some (Formula.truth assignment start alternatives) := by
  induction conjunctions generalizing start with
  | nil => rfl
  | cons conjunction conjunctions ih =>
    rw [Connective.truth?, ih]
    cases conjunction with
    | nil => simp [Conjunction.truth?, Conjunction.leaves]
    | cons factor factors =>
      -- a single alternative has nothing to be merged with
      by_cases hempty : (conjunctions.filter fun conjunction => !conjunction.isEmpty) = []
      · simp [hempty, Conjunction.truth?, Formula.truth]
      · simp [hempty, Conjunction.truth?, Formula.truth, Connective.apply]

theorem Conjunction.truth?_ofAlternatives (conjunctions : List Conjunction) :
    Conjunction.truth? assignment start (Conjunction.ofAlternatives conjunctions) =
      Connective.or.truth? assignment start conjunctions := by
  rw [Connective.truth?_or]
  unfold Conjunction.ofAlternatives
  dsimp only
  split
  · rfl
  · simp [Conjunction.truth?, Conjunction.truth, Factor.truth]

theorem Connective.truth?_gather (connective : Connective) (conjunctions : List Conjunction) :
    Conjunction.truth? assignment start (connective.gather conjunctions) =
      connective.truth? assignment start conjunctions := by
  cases connective with
  | and => exact Conjunction.truth?_flatten assignment start conjunctions
  | or => exact Conjunction.truth?_ofAlternatives assignment start conjunctions

end Truth

namespace Outline

mutual

/-- An outline has the truth of its factors, whichever leaves are true. -/
theorem truth?_eq (assignment : Nat → Bool) : ∀ (outline : Outline) (start : Nat),
    outline.truth? assignment start = Conjunction.truth? assignment start outline.factors
  | atom a, start => by simp [truth?, factors, Conjunction.truth?, Conjunction.truth, Factor.truth]
  | group connective members, start => by
    rw [truth?, factors, Connective.truth?_gather, truthOfAll?_eq assignment connective members]

theorem truthOfAll?_eq (assignment : Nat → Bool) (connective : Connective) :
    ∀ (members : List Outline) (start : Nat),
    truthOfAll? connective assignment start members =
      connective.truth? assignment start (factorsEach members)
  | [], _ => rfl
  | member :: members, start => by
    rw [truthOfAll?, factorsEach, Connective.truth?, truth?_eq assignment member,
      truthOfAll?_eq assignment connective members, length_leaves_factors]

end

end Outline

end SearchQuery
