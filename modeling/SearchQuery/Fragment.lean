/-! # Fragments

  Expressions are put together from fragments of text. A fragment may be empty,
  because a group without members says nothing; joining leaves such fragments
  out, so no separator is left dangling.
-/

namespace SearchQuery

/-- Joins the fragments that are not empty. -/
def joinFragments (separator : String) (fragments : List String) : String :=
  String.intercalate separator (fragments.filter fun fragment => !fragment.isEmpty)

/-- Joins fragments that must all hold. -/
def joinAnd (fragments : List String) : String :=
  joinFragments " AND " fragments

/-- Joins fragments of which one must hold. The parentheses keep the alternatives
    together; an empty alternative has none. -/
def joinOr (fragments : List String) : String :=
  let joined := joinFragments " OR " fragments
  if joined.isEmpty then "" else "(" ++ joined ++ ")"

/-! ### Joining -/

theorem joinFragments_singleton (separator fragment : String) :
    joinFragments separator [fragment] = fragment := by
  unfold joinFragments
  by_cases h : fragment.isEmpty
  · have hempty : fragment = "" := by simpa using h
    simp [hempty]
  · simp [h]

theorem joinAnd_singleton (fragment : String) : joinAnd [fragment] = fragment :=
  joinFragments_singleton " AND " fragment

theorem intercalate_ne_empty {separator : String} {fragments : List String}
    (hne : fragments ≠ []) (h : ∀ fragment ∈ fragments, fragment ≠ "") :
    String.intercalate separator fragments ≠ "" := by
  match fragments with
  | [] => exact absurd rfl hne
  | [fragment] => simpa using h
  | fragment :: next :: rest =>
    have hfragment := h fragment (by simp)
    simp [String.intercalate_cons_cons, hfragment]

/-- Fragments of which none is empty are all joined. -/
theorem joinFragments_of_ne (separator : String) {fragments : List String}
    (h : ∀ fragment ∈ fragments, fragment ≠ "") :
    joinFragments separator fragments = String.intercalate separator fragments := by
  unfold joinFragments
  rw [List.filter_eq_self.mpr]
  intro fragment hmem
  simpa using h fragment hmem

/-- Lists of fragments that are not empty may be joined each by itself first. -/
theorem intercalate_append {separator : String} {fragments fragments' : List String}
    (h : ∀ fragment ∈ fragments, fragment ≠ "") (h' : ∀ fragment ∈ fragments', fragment ≠ "") :
    String.intercalate separator (fragments ++ fragments') =
      joinFragments separator
        [String.intercalate separator fragments, String.intercalate separator fragments'] := by
  by_cases hnil : fragments = []
  · rw [hnil]
    exact (joinFragments_singleton separator _).symm
  by_cases hnil' : fragments' = []
  · have hright : String.intercalate separator fragments ≠ "" := intercalate_ne_empty hnil h
    simp [hnil', joinFragments, hright]
  · have hleft : String.intercalate separator fragments ≠ "" := intercalate_ne_empty hnil h
    have hright : String.intercalate separator fragments' ≠ "" := intercalate_ne_empty hnil' h'
    rw [joinFragments_of_ne separator (by simp [hleft, hright]),
      String.intercalate_append_of_ne_nil hnil hnil']
    simp [String.intercalate_cons_cons]

theorem joinFragments_append (separator : String) (fragments fragments' : List String) :
    joinFragments separator (fragments ++ fragments') =
      joinFragments separator
        [joinFragments separator fragments, joinFragments separator fragments'] := by
  have hpresent : ∀ fragments : List String,
      ∀ fragment ∈ fragments.filter fun fragment => !fragment.isEmpty, fragment ≠ "" := by
    intro fragments fragment hmem
    simpa using (List.mem_filter.mp hmem).2
  show String.intercalate separator ((fragments ++ fragments').filter _) = _
  rw [List.filter_append]
  exact intercalate_append (hpresent fragments) (hpresent fragments')

/-- Joining in parts is joining at once. -/
theorem joinFragments_flatten (separator : String) (parts : List (List String)) :
    joinFragments separator (parts.map (joinFragments separator)) =
      joinFragments separator parts.flatten := by
  induction parts with
  | nil => rfl
  | cons fragments parts ih =>
    rw [List.map_cons, List.flatten_cons, ← List.singleton_append, joinFragments_append, ih,
      joinFragments_singleton, ← joinFragments_append]

end SearchQuery
