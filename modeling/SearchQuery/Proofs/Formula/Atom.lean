import SearchQuery.Geo.Basic
import SearchQuery.Proofs.Formula.Inner
import SearchQuery.Proofs.PredicateText

/-! # Atoms

  The atoms of the expressions that filters have: the comparison of a field, a
  circle, and a box. Each is scanned as one token, if the fields have plain names,
  since all that stands behind its first name is an inner text.
-/

namespace SearchQuery

/-- A predicate of a filter. -/
inductive Atom where
  | comparison (predicate : Predicate)
  | radius (radius : GeoRadius)
  | box (box : GeoBoundingBox)
deriving DecidableEq

namespace Atom

def text : Atom → String
  | comparison p => p.text
  | radius r => r.text
  | box b => b.text

theorem text_ne_empty (a : Atom) : a.text ≠ "" := by
  cases a with
  | comparison p => simp [text, Predicate.text, Comparison.text]
  | radius r => simp [text, GeoRadius.text]
  | box b =>
    show b.text ≠ ""
    unfold GeoBoundingBox.text
    simp

end Atom

/-- A letter, an underscore or a point. -/
def isNameChar (c : Char) : Bool :=
  c.isAlpha || c == '_' || c == '.'

/-- Whether a name starts with a small letter and goes on with letters, underscores
    and points. -/
def isPlainName (name : String) : Bool :=
  match name.toList with
  | [] => false
  | c :: rest => c.isLower && rest.all isNameChar

/-- Whether the field of an atom, if it has one, has a plain name. -/
def Atom.IsPlain : Atom → Prop
  | .comparison p => isPlainName p.field
  | .radius _ => True
  | .box _ => True

namespace Formula

/-! ### Comparisons -/

theorem isInner_heading (h : Heading) : IsInner h.text.toList := by
  have hwritten : ∀ h ∈ Heading.written,
      startsNoConnective h.text.toList ∧ staysWithin h.text.toList := by
    decide +kernel
  rcases h.eq_between_or_mem_written with rfl | hmem
  · exact isInner_nil
  · exact IsInner.of_staysWithin (hwritten h hmem).1 (hwritten h hmem).2

theorem isInner_literal (l : Literal) : IsInner l.text.toList :=
  isInner_operand l.isOperandText

theorem isInner_operandText (c : Comparison) : IsInner c.operandText := by
  cases c with
  | equality op l =>
    cases l with
    | null => exact isInner_nil
    | _ => exact isInner_literal _
  | order op q => exact isInner_literal q.toLiteral
  | membership op ls =>
    refine (isInner_intercalate ?_ ?_).append ?_
    · exact IsInner.of_staysWithin (by decide) (by decide)
    · intro item hitem
      obtain ⟨l, _, rfl⟩ := List.mem_map.mp hitem
      exact isInner_literal l
    · exact IsInner.of_staysWithin (by decide) (by decide)
  | state op flag => exact isInner_nil
  | between range =>
    exact ((isInner_literal range.lower).append
      (IsInner.of_staysWithin (by decide) (by decide))).append (isInner_literal range.upper)
  | stringTest op s => exact isInner_operand (isOperandText_quoted s)

theorem isInner_condition (c : Comparison) : IsInner c.condition.toList := by
  rw [c.toList_condition]
  exact (isInner_heading c.heading).append (isInner_operandText c)

/-- A plain name has ordinary characters, and starts as no connective does. -/
theorem ordinary_of_isPlainName {name : String} (h : isPlainName name) :
    name.toList ≠ [] ∧ startsNoConnective name.toList ∧ ∀ d ∈ name.toList, isOrdinary d := by
  unfold isPlainName at h
  split at h
  · cases h
  · next c rest htext =>
    rw [Bool.and_eq_true, List.all_eq_true] at h
    obtain ⟨hlower, hrest⟩ := h
    rw [htext]
    refine ⟨List.cons_ne_nil c rest, startsNoConnective_of_all hlower (by decide) rest, ?_⟩
    intro d hd
    rcases List.mem_cons.mp hd with rfl | hd
    · exact isOrdinary_of_all hlower (by decide)
    · exact isOrdinary_of_all (hrest d hd) (by decide)

theorem scansAsAtom_comparison (p : Predicate) (h : isPlainName p.field) :
    ScansAsAtom p.text := by
  obtain ⟨hne, hstart, hname⟩ := ordinary_of_isPlainName h
  have htext : p.text.toList =
      p.field.toList ++ ([' '] ++ p.comparison.condition.toList) := by
    simp [Predicate.text, Comparison.text]
  have hspace : IsInner [' '] := IsInner.of_staysWithin (by decide) (by decide)
  exact scansAsAtom_of_name htext hne hstart hname
    (hspace.append (isInner_condition p.comparison))

/-! ### Places -/

theorem not_mem_double (x : Double) : ')' ∉ x.text.toList := by
  intro hmem
  have hword := x.isWord_text.chars ')' hmem
  exact absurd hword (by decide)

theorem not_mem_point (p : GeoPoint) : ')' ∉ p.text.toList := by
  simp [GeoPoint.text, not_mem_double]

theorem scansAsAtom_radius (r : GeoRadius) : ScansAsAtom r.text := by
  have htext : r.text.toList = "_geoRadius".toList ++
      ('(' :: (r.center.text ++ ", " ++ r.distance.text).toList ++ [')']) := by
    simp [GeoRadius.text]
  refine scansAsAtom_of_name htext ?_ ?_ (List.all_eq_true.mp ?_) (isInner_call ?_)
  · decide
  · decide
  · decide
  · simp [not_mem_point, not_mem_double]

theorem scansAsAtom_box (b : GeoBoundingBox) : ScansAsAtom b.text := by
  have htext : b.text.toList = "_geoBoundingBox".toList ++
      ('(' :: ("[" ++ b.topRight.text ++ "], [" ++ b.bottomLeft.text ++ "]").toList ++ [')']) := by
    unfold GeoBoundingBox.text
    simp
  refine scansAsAtom_of_name htext ?_ ?_ (List.all_eq_true.mp ?_) (isInner_call ?_)
  · decide
  · decide
  · decide
  · simp [not_mem_point]

end Formula

/-- The text of an atom is one token. -/
theorem Atom.scansAsAtom (atom : Atom) (h : atom.IsPlain) : Formula.ScansAsAtom atom.text := by
  cases atom with
  | comparison p => exact Formula.scansAsAtom_comparison p h
  | radius r => exact Formula.scansAsAtom_radius r
  | box b => exact Formula.scansAsAtom_box b

end SearchQuery
