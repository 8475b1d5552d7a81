import Mathlib.Data.List.Forall2
import SearchQuery.Comparison
import SearchQuery.Proofs.Text.Operand

/-! # The text of a predicate tells what it says

  Two predicates with the same text have the same field and the same operator, and
  their operands are written alike, provided that no field name contains a space.
  No operand can pretend to be another one: what a string contains, be it quotes,
  brackets or operator words, stays between its quotes.

  After the field and a space, a comparison starts with its heading, the words up
  to the first operand. No heading is the beginning of another, and a comparison
  without a heading, which only a range is, starts with an operand, as no heading
  does. So a text has one heading at most, and the operands come apart by
  `IsOperandText.append_inj`.
-/

namespace SearchQuery

/-! ### Headings -/

/-- What stands before the first operand of a comparison. -/
inductive Heading where
  | isNull (op : Equality)
  | equality (op : Equality)
  | order (op : Order)
  | membership (op : Membership)
  | state (op : State) (flag : Bool)
  | between
  | stringTest (op : StringTest)
deriving DecidableEq

namespace Heading

def text : Heading → String
  | isNull op => op.nullKeyword
  | equality op => (Operator.equality op).symbol ++ " "
  | order op => (Operator.order op).symbol ++ " "
  | membership op => op.keyword ++ " ["
  | state op flag => op.keyword flag
  | between => ""
  | stringTest op => op.keyword ++ " "

/-- The operator of the comparisons with a heading. -/
def operator : Heading → Operator
  | isNull op => .equality op
  | equality op => .equality op
  | order op => .order op
  | membership op => .membership op
  | state op _ => .state op
  | between => .between
  | stringTest op => .stringTest op

/-- Every heading that is not empty. -/
def written : List Heading :=
  [isNull .eq, isNull .ne, equality .eq, equality .ne,
    order .gt, order .gte, order .lt, order .lte,
    membership .isIn, membership .notIn,
    state .exist true, state .exist false, state .empty true, state .empty false,
    stringTest .contains, stringTest .notContains,
    stringTest .startsWith, stringTest .notStartsWith]

theorem eq_between_or_mem_written (h : Heading) : h = between ∨ h ∈ written := by
  cases h with
  | isNull op => cases op <;> decide
  | equality op => cases op <;> decide
  | order op => cases op <;> decide
  | membership op => cases op <;> decide
  | state op flag => cases op <;> cases flag <;> decide
  | between => decide
  | stringTest op => cases op <;> decide

/-- No heading is the beginning of another. -/
theorem eq_of_isPrefix : ∀ h ∈ written, ∀ h' ∈ written,
    h.text.toList <+: h'.text.toList → h = h' := by
  decide +kernel

/-- Headings start with a capital letter or a sign that no operand starts with. -/
theorem head_ne_operand : ∀ h ∈ written,
    h.text.toList.head?.any fun c => !isWordChar c && c != '"' := by
  decide +kernel

end Heading

namespace Comparison

/-! ### A comparison in two parts -/

def heading : Comparison → Heading
  | equality op .null => .isNull op
  | equality op _ => .equality op
  | order op _ => .order op
  | membership op _ => .membership op
  | state op flag => .state op flag
  | between _ => .between
  | stringTest op _ => .stringTest op

/-- What follows the heading: the operands and what stands between and after them. -/
def operandText : Comparison → List Char
  | equality _ .null => []
  | equality _ l => l.text.toList
  | order _ q => q.toLiteral.text.toList
  | membership _ ls =>
    List.intercalate [',', ' '] (ls.map fun l => l.text.toList) ++ [']']
  | state _ _ => []
  | between range => range.lower.text.toList ++ " TO ".toList ++ range.upper.text.toList
  | stringTest _ s => (quoted s).toList

theorem toList_condition (c : Comparison) :
    c.condition.toList = c.heading.text.toList ++ c.operandText := by
  cases c with
  | equality op l => cases l <;> simp [condition, heading, operandText, Heading.text]
  | order op q => simp [condition, heading, operandText, Heading.text]
  | membership op ls =>
    simp [condition, heading, operandText, Heading.text, Literal.listText, Function.comp_def]
  | state op flag => simp [condition, heading, operandText, Heading.text]
  | between range => simp [condition, heading, operandText, Heading.text]
  | stringTest op s => simp [condition, heading, operandText, Heading.text]

/-- A range starts with an operand, and so with no heading. -/
theorem operandText_ne_heading {c : Comparison} (hc : c.heading = .between) {h : Heading}
    (hh : h ∈ Heading.written) (rest : List Char) : c.operandText ≠ h.text.toList ++ rest := by
  intro heq
  cases c with
  | between range =>
    obtain ⟨d, ds, hlower, hd⟩ := range.lower.isOperandText.exists_head
    obtain ⟨e, he, hsign⟩ := (Option.any_eq_true _ _).mp (Heading.head_ne_operand h hh)
    obtain ⟨es, hes⟩ := List.head?_eq_some_iff.mp he
    have hhead : d = e := by
      simp only [operandText, hlower, hes, List.cons_append] at heq
      exact (List.cons.inj heq).1
    subst hhead
    rw [Bool.and_eq_true, Bool.not_eq_true', bne_iff_ne] at hsign
    obtain ⟨hword, hquote⟩ := hsign
    rcases hd with hd | hd
    · rw [hword] at hd
      cases hd
    · exact hquote hd
  | equality op l => cases l <;> cases hc
  | _ => cases hc

/-- The text of a comparison determines both parts. -/
theorem condition_inj {c c' : Comparison} (h : c.condition = c'.condition) :
    c.heading = c'.heading ∧ c.operandText = c'.operandText := by
  have hlist : c.heading.text.toList ++ c.operandText =
      c'.heading.text.toList ++ c'.operandText := by
    rw [← toList_condition, ← toList_condition, h]
  have hheading : c.heading = c'.heading := by
    rcases Heading.eq_between_or_mem_written c.heading with hc | hc
    · rcases Heading.eq_between_or_mem_written c'.heading with hc' | hc'
      · rw [hc, hc']
      · -- a range on one side only: its text would start with the other's heading
        refine absurd ?_ (operandText_ne_heading hc hc' c'.operandText)
        rw [← hlist, hc]
        simp [Heading.text]
    · rcases Heading.eq_between_or_mem_written c'.heading with hc' | hc'
      · refine absurd ?_ (operandText_ne_heading hc' hc c.operandText)
        rw [hlist, hc']
        simp [Heading.text]
      · -- of two beginnings of one text, the shorter is a beginning of the longer
        rcases List.prefix_or_prefix_of_prefix (List.prefix_append _ c.operandText)
          (hlist ▸ List.prefix_append _ c'.operandText) with hpre | hpre
        · exact Heading.eq_of_isPrefix _ hc _ hc' hpre
        · exact (Heading.eq_of_isPrefix _ hc' _ hc hpre).symm
  rw [hheading] at hlist
  exact ⟨hheading, List.append_cancel_left hlist⟩

/-! ### Corresponding operands -/

/-- Whether two comparisons have operands that are written alike. Null is no literal
    like the others to an equality test; numbers and dates may be written alike. -/
def SameOperand : Comparison → Comparison → Prop
  | equality _ l, equality _ l' => l.isNull = l'.isNull ∧ l.text = l'.text
  | order _ q, order _ q' => q.toLiteral.text = q'.toLiteral.text
  | membership _ ls, membership _ ls' => List.Forall₂ (fun l l' => l.text = l'.text) ls ls'
  | state _ flag, state _ flag' => flag = flag'
  | between range, between range' =>
    range.lower.text = range'.lower.text ∧ range.upper.text = range'.upper.text
  | stringTest _ s, stringTest _ s' => s = s'
  | _, _ => False

theorem sameOperand_membership {ls ls' : List Literal}
    (h : List.intercalate [',', ' '] (ls.map fun l => l.text.toList) ++ [']'] =
      List.intercalate [',', ' '] (ls'.map fun l => l.text.toList) ++ [']']) :
    List.Forall₂ (fun l l' => l.text = l'.text) ls ls' := by
  have hoperands : ∀ ls : List Literal, ∀ item ∈ ls.map fun l => l.text.toList,
      IsOperandText item := by
    intro ls item hitem
    obtain ⟨l, _, rfl⟩ := List.mem_map.mp hitem
    exact l.isOperandText
  -- the lists of texts are equal, so the literals are written alike one by one
  have hmap := intercalate_operands_inj (hoperands ls) (hoperands ls') h
  rw [← List.forall₂_eq_eq_eq, List.forall₂_map_left_iff, List.forall₂_map_right_iff] at hmap
  exact hmap.imp fun l l' htext => String.toList_inj.mp htext

theorem sameOperand_between {range range' : Range}
    (h : range.lower.text.toList ++ " TO ".toList ++ range.upper.text.toList =
      range'.lower.text.toList ++ " TO ".toList ++ range'.upper.text.toList) :
    range.lower.text = range'.lower.text ∧ range.upper.text = range'.upper.text := by
  rw [List.append_assoc, List.append_assoc] at h
  have hends : ∀ rest, EndsOperand (" TO ".toList ++ rest) := fun rest =>
    endsOperand_cons (by decide) _
  obtain ⟨hlower, hrest⟩ := range.lower.isOperandText.append_inj range'.lower.isOperandText
    (hends _) (hends _) h
  exact ⟨String.toList_inj.mp hlower, String.toList_inj.mp (List.append_cancel_left hrest)⟩

/-- An equality test is a null test in both cases or in none. -/
theorem sameOperand_equality {op : Equality} {l l' : Literal}
    (hheading : (equality op l).heading = (equality op l').heading)
    (hoperand : (equality op l).operandText = (equality op l').operandText) :
    l.isNull = l'.isNull ∧ l.text = l'.text := by
  cases l with
  | null =>
    -- no other literal has the heading of a null test
    cases l' <;> cases hheading
    exact ⟨rfl, rfl⟩
  | _ =>
    cases l' <;> cases hheading <;> exact ⟨rfl, String.toList_inj.mp hoperand⟩

theorem operator_heading (c : Comparison) : c.heading.operator = c.operator := by
  cases c with
  | equality op l => cases l <;> rfl
  | _ => rfl

/-- Both parts of a comparison together determine its operator and its operands. -/
theorem sameOperand_of_parts {c c' : Comparison} (hheading : c.heading = c'.heading)
    (hoperand : c.operandText = c'.operandText) :
    c.operator = c'.operator ∧ SameOperand c c' := by
  have hop : c.operator = c'.operator := by
    rw [← operator_heading, hheading, operator_heading]
  refine ⟨hop, ?_⟩
  -- comparisons with the same operator have operands of one kind
  cases c <;> cases c' <;> cases hop
  case equality.refl op l l' => exact sameOperand_equality hheading hoperand
  case order.refl op q q' => exact String.toList_inj.mp hoperand
  case membership.refl op ls ls' => exact sameOperand_membership hoperand
  case state.refl op flag flag' =>
    cases hheading
    exact rfl
  case between.refl range range' => exact sameOperand_between hoperand
  case stringTest.refl op s s' => exact quoted_injective (String.toList_inj.mp hoperand)

end Comparison

/-! ### Predicates -/

namespace Predicate

/-- The first space of a predicate stands behind its field, if there is none in the
    field. -/
theorem parts_inj {p q : Predicate} (hp : ' ' ∉ p.field.toList) (hq : ' ' ∉ q.field.toList)
    (h : p.text = q.text) :
    p.field = q.field ∧ p.comparison.condition = q.comparison.condition := by
  have hlist : p.field.toList ++ ' ' :: p.comparison.condition.toList =
      q.field.toList ++ ' ' :: q.comparison.condition.toList := by
    simpa [Predicate.text, Comparison.text] using congrArg String.toList h
  have hfield : ∀ {field : String}, ' ' ∉ field.toList → ∀ c ∈ field.toList, (c != ' ') = true := by
    intro field hfield c hc
    simp only [bne_iff_ne, ne_eq]
    rintro rfl
    exact hfield hc
  obtain ⟨hfields, hrest⟩ := run_append_inj (hfield hp) (hfield hq) (by simp) (by simp) hlist
  exact ⟨String.toList_inj.mp hfields, String.toList_inj.mp (List.cons.inj hrest).2⟩

/-- Predicates with the same text have the same field and the same operator, and their
    operands are written alike. -/
theorem text_inj {p q : Predicate} (hp : ' ' ∉ p.field.toList) (hq : ' ' ∉ q.field.toList)
    (h : p.text = q.text) :
    p.field = q.field ∧ p.comparison.operator = q.comparison.operator ∧
      p.comparison.SameOperand q.comparison := by
  obtain ⟨hfield, hcondition⟩ := parts_inj hp hq h
  obtain ⟨hheading, hoperand⟩ := Comparison.condition_inj hcondition
  exact ⟨hfield, Comparison.sameOperand_of_parts hheading hoperand⟩

/-- A string that looks like the end of a list, and a number and a date of one text. -/
theorem text_inj_list :
    List.Forall₂ (fun l l' : Literal => l.text = l'.text)
      [.string "a\", \"b] TO", .number (.signed 5)] [.string "a\", \"b] TO", .date ⟨5⟩] := by
  have h := text_inj
    (p := ⟨"genre", .membership .isIn [.string "a\", \"b] TO", .number (.signed 5)]⟩)
    (q := ⟨"genre", .membership .isIn [.string "a\", \"b] TO", .date ⟨5⟩]⟩)
    (by decide) (by decide) (by rfl)
  exact h.2.2

end Predicate

end SearchQuery
