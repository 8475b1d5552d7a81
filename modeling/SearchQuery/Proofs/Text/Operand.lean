import SearchQuery.Literal
import SearchQuery.Proofs.Text.Quoted

/-! # Texts of operands

  An operand stands in an expression as a word or as a quoted string. Words are
  made of digits, small letters, points and signs, so no separator, bracket or
  quote is part of one; quoted strings end at their own quote. Therefore a text
  that starts with an operand tells where the operand ends, and two lists of
  operands with equal texts have equal items.
-/

namespace SearchQuery

/-! ### Runs of characters -/

/-- A text that starts with a run of characters of one kind determines the run, if
    what follows starts with no character of this kind. -/
theorem run_append_inj {p : Char → Bool} {run run' rest rest' : List Char}
    (hrun : ∀ c ∈ run, p c) (hrun' : ∀ c ∈ run', p c)
    (hrest : ∀ c ∈ rest.head?, p c = false) (hrest' : ∀ c ∈ rest'.head?, p c = false)
    (h : run ++ rest = run' ++ rest') : run = run' ∧ rest = rest' := by
  have htake : ∀ {run rest : List Char}, (∀ c ∈ run, p c) → (∀ c ∈ rest.head?, p c = false) →
      (run ++ rest).takeWhile p = run := by
    intro run rest hrun hrest
    rw [List.takeWhile_append_of_pos hrun]
    cases rest with
    | nil => simp
    | cons c rest => simp [hrest c rfl]
  -- a run is as much of the text as has its kind
  have heq : run = run' := by
    rw [← htake hrun hrest, h, htake hrun' hrest']
  subst heq
  exact ⟨rfl, List.append_cancel_left h⟩

/-! ### Words -/

/-- The characters of words: digits, small letters, points and signs. -/
def isWordChar (c : Char) : Bool :=
  c.isDigit || c.isLower || c == '.' || c == '+' || c == '-'

/-- A text that is not empty and has only characters of words. -/
structure IsWord (text : List Char) : Prop where
  ne_nil : text ≠ []
  chars : ∀ c ∈ text, isWordChar c

theorem isWordChar_of_isDigit {c : Char} (h : c.isDigit) : isWordChar c := by
  simp [isWordChar, h]

namespace IsWord

theorem of_all {text : List Char} (hne : text ≠ []) (h : text.all isWordChar) : IsWord text :=
  ⟨hne, List.all_eq_true.mp h⟩

theorem append {s t : List Char} (hs : IsWord s) (ht : ∀ c ∈ t, isWordChar c) :
    IsWord (s ++ t) where
  ne_nil := by simp [hs.ne_nil]
  chars := by
    intro c hc
    rcases List.mem_append.mp hc with hc | hc
    · exact hs.chars c hc
    · exact ht c hc

theorem cons {c : Char} {t : List Char} (hc : isWordChar c) (ht : ∀ d ∈ t, isWordChar d) :
    IsWord (c :: t) where
  ne_nil := List.cons_ne_nil c t
  chars := by
    intro d hd
    rcases List.mem_cons.mp hd with rfl | hd
    · exact hc
    · exact ht d hd

end IsWord

/-! ### Numbers are words -/

theorem isWord_decimalDigits (n : Nat) : IsWord (decimalDigits n) where
  ne_nil := Nat.toDigits_ne_nil
  chars := fun _ hc => isWordChar_of_isDigit
    (Nat.isDigit_of_mem_toDigits (by decide) (by decide) hc)

theorem isWord_integerText (n : Int) : IsWord (integerText n) := by
  unfold integerText
  split
  · exact IsWord.cons (by decide) (isWord_decimalDigits _).chars
  · exact isWord_decimalDigits _

namespace Decimal

theorem isWord_plain (d : Decimal) : IsWord d.plain := by
  have hdigits := isWord_decimalDigits d.digits
  have hzeros : ∀ n, ∀ c ∈ List.replicate n '0', isWordChar c := by
    intro n c hc
    rw [List.eq_of_mem_replicate hc]
    decide
  -- zeros behind the digits, a point among them, or zeros in front of them
  unfold plain
  split
  · exact hdigits.append (hzeros _)
  · dsimp only
    split
    · refine ⟨by simp, ?_⟩
      intro c hc
      rcases List.mem_append.mp hc with hc | hc
      · exact hdigits.chars c (List.mem_of_mem_take hc)
      · rcases List.mem_cons.mp hc with rfl | hc
        · decide
        · exact hdigits.chars c (List.mem_of_mem_drop hc)
    · refine IsWord.cons (by decide) ?_
      intro c hc
      rcases List.mem_append.mp hc with hc | hc
      · rcases List.mem_cons.mp hc with rfl | hc
        · decide
        · exact hzeros _ c hc
      · exact hdigits.chars c hc

theorem isWord_mantissa {digits : List Char} (h : IsWord digits) : IsWord (mantissa digits) := by
  unfold mantissa
  split
  · next first second rest =>
    refine IsWord.cons (h.chars first (by simp)) ?_
    intro c hc
    rcases List.mem_cons.mp hc with rfl | hc
    · decide
    · exact h.chars c (List.mem_cons_of_mem first hc)
  · exact h

theorem isWord_scientific {plus : List Char} (hplus : ∀ c ∈ plus, isWordChar c) (d : Decimal) :
    IsWord (d.scientific plus) := by
  unfold scientific
  refine ((isWord_mantissa (isWord_decimalDigits d.digits)).append ?_).append
    (isWord_integerText _).chars
  intro c hc
  rcases List.mem_cons.mp hc with rfl | hc
  · decide
  · split at hc
    · cases hc
    · exact hplus c hc

end Decimal

theorem Double.isWord_text (x : Double) : IsWord x.text.toList := by
  cases x with
  | finite negative magnitude =>
    have htext : IsWord magnitude.text := by
      unfold Magnitude.text
      split
      · exact Decimal.isWord_plain _
      · exact Decimal.isWord_scientific (List.all_eq_true.mp (by decide)) _
    simp only [Double.text, String.toList_ofList, withSign]
    split
    · exact IsWord.cons (by decide) htext.chars
    · exact htext
  | nan => exact IsWord.of_all (by decide) (by decide)
  | infinite _ => exact (IsWord.of_all (by decide) (by decide) : IsWord "null".toList)

theorem Number.isWord_text (n : Number) : IsWord n.text.toList := by
  cases n with
  | signed n => simpa [Number.text] using isWord_integerText n.toInt
  | unsigned n => simpa [Number.text] using isWord_decimalDigits n.toNat
  | double x => exact Double.isWord_text x

/-! ### Operands -/

/-- The text of one operand: a word or a quoted string. -/
inductive IsOperandText : List Char → Prop where
  | word {text : List Char} (h : IsWord text) : IsOperandText text
  | quoted (text : List Char) : IsOperandText (Quoted.quote text)

theorem isOperandText_quoted (s : String) : IsOperandText (quoted s).toList := by
  simpa [SearchQuery.quoted] using IsOperandText.quoted s.toList

theorem Literal.isOperandText (l : Literal) : IsOperandText l.text.toList := by
  cases l with
  | null => exact .word (IsWord.of_all (by decide) (by decide))
  | bool b => cases b <;> exact .word (IsWord.of_all (by decide) (by decide))
  | number n => exact .word n.isWord_text
  | string s => exact isOperandText_quoted s
  | date t => exact .word (by simpa [Literal.text, Timestamp.text] using isWord_integerText _)

/-- What follows an operand in an expression: nothing, or a character that ends a
    word. -/
def EndsOperand (rest : List Char) : Prop :=
  ∀ c ∈ rest.head?, isWordChar c = false

theorem endsOperand_cons {c : Char} (h : isWordChar c = false) (rest : List Char) :
    EndsOperand (c :: rest) := by
  intro d hd
  obtain rfl : c = d := by simpa using hd
  exact h

/-- A text that starts with an operand determines the operand and what follows. -/
theorem IsOperandText.append_inj {text text' rest rest' : List Char}
    (htext : IsOperandText text) (htext' : IsOperandText text')
    (hrest : EndsOperand rest) (hrest' : EndsOperand rest')
    (h : text ++ rest = text' ++ rest') : text = text' ∧ rest = rest' := by
  -- a word and a quoted string differ in their first character
  have hmixed : ∀ {word s r r' : List Char}, IsWord word → word ++ r ≠ Quoted.quote s ++ r' := by
    intro word s r r' hword heq
    obtain ⟨c, cs, rfl⟩ := List.exists_cons_of_ne_nil hword.ne_nil
    have hc : c = '"' := (List.cons.inj heq).1
    have hchar := hword.chars c (by simp)
    rw [hc] at hchar
    exact absurd hchar (by decide)
  cases htext with
  | word hword =>
    cases htext' with
    | word hword' => exact run_append_inj hword.chars hword'.chars hrest hrest' h
    | quoted s => exact absurd h (hmixed hword)
  | quoted s =>
    cases htext' with
    | word hword' => exact absurd h.symm (hmixed hword')
    | quoted s' =>
      obtain ⟨rfl, rfl⟩ := Quoted.quote_append_inj h
      exact ⟨rfl, rfl⟩

/-- An operand starts with a character of words or with a quote. -/
theorem IsOperandText.exists_head {text : List Char} (h : IsOperandText text) :
    ∃ c cs, text = c :: cs ∧ (isWordChar c ∨ c = '"') := by
  cases h with
  | word h =>
    obtain ⟨c, cs, rfl⟩ := List.exists_cons_of_ne_nil h.ne_nil
    exact ⟨c, cs, rfl, .inl (h.chars c (by simp))⟩
  | quoted s => exact ⟨'"', _, rfl, .inr rfl⟩

/-! ### Lists of operands -/

/-- What follows the first item of a list: the other items, each after a comma, and
    the closing bracket. -/
def listTail : List (List Char) → List Char
  | [] => [']']
  | item :: items => ',' :: ' ' :: item ++ listTail items

theorem intercalate_eq_listTail (item : List Char) (items : List (List Char)) :
    List.intercalate [',', ' '] (item :: items) ++ [']'] = item ++ listTail items := by
  induction items generalizing item with
  | nil => simp [listTail]
  | cons next items ih =>
    rw [List.intercalate_cons_cons, List.append_assoc, ih next]
    simp [listTail]

theorem endsOperand_listTail (items : List (List Char)) : EndsOperand (listTail items) := by
  cases items with
  | nil => exact endsOperand_cons (by decide) _
  | cons item items => exact endsOperand_cons (by decide) _

theorem listTail_inj {items items' : List (List Char)}
    (hitems : ∀ item ∈ items, IsOperandText item) (hitems' : ∀ item ∈ items', IsOperandText item)
    (h : listTail items = listTail items') : items = items' := by
  induction items generalizing items' with
  | nil =>
    cases items' with
    | nil => rfl
    | cons item' items' => simp [listTail] at h
  | cons item items ih =>
    cases items' with
    | nil => simp [listTail] at h
    | cons item' items' =>
      have hrest : item ++ listTail items = item' ++ listTail items' := by
        simpa [listTail] using h
      obtain ⟨hitem, htail⟩ := (hitems item (by simp)).append_inj (hitems' item' (by simp))
        (endsOperand_listTail items) (endsOperand_listTail items') hrest
      have htails := ih (fun i hi => hitems i (by simp [hi])) (fun i hi => hitems' i (by simp [hi]))
        htail
      rw [hitem, htails]

/-- The items of a list, without its opening bracket, determine each operand. -/
theorem intercalate_operands_inj {items items' : List (List Char)}
    (hitems : ∀ item ∈ items, IsOperandText item) (hitems' : ∀ item ∈ items', IsOperandText item)
    (h : List.intercalate [',', ' '] items ++ [']'] = List.intercalate [',', ' '] items' ++ [']']) :
    items = items' := by
  -- the closing bracket is the start of no operand
  have hbracket : ∀ {item rest : List Char}, IsOperandText item → item ++ rest ≠ [']'] := by
    intro item rest hitem heq
    obtain ⟨c, cs, rfl, hc⟩ := hitem.exists_head
    have hclose : c = ']' := (List.cons.inj heq).1
    rw [hclose] at hc
    exact absurd hc (by decide)
  cases items with
  | nil =>
    cases items' with
    | nil => rfl
    | cons item' items' =>
      rw [intercalate_eq_listTail] at h
      exact absurd h.symm (hbracket (hitems' item' (by simp)))
  | cons item items =>
    cases items' with
    | nil =>
      rw [intercalate_eq_listTail] at h
      exact absurd h (hbracket (hitems item (by simp)))
    | cons item' items' =>
      -- with a comma in front, the items of a list are the tail of a longer one
      rw [intercalate_eq_listTail, intercalate_eq_listTail] at h
      refine listTail_inj hitems hitems' ?_
      simp only [listTail, List.cons_append, h]

end SearchQuery
