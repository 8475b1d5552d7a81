import Mathlib.Data.List.Induction
import SearchQuery.Proofs.PredicateText

/-! # String literals keep to themselves

  A string literal ends at its own quote, whatever the string and whatever follows: the
  quotes inside it are escaped, so the first bare one is the last character.

  `ReadsStrings text strings` goes through a text from the left, reads a quoted string
  wherever it meets a quote, and skips all else. On a comparison it finds the string
  operands, in their order, and stands behind the comparison at the end: no operand ends
  early, and none takes in what stands behind it.
-/

namespace SearchQuery

namespace Quoted

/-! ### Escaped quotes -/

/-- How many backslashes a text ends with. -/
def trailingBackslashes (text : List Char) : Nat :=
  (text.reverse.takeWhile (· == '\\')).length

/-- Whether a character behind a text is escaped: backslashes escape each other in pairs,
    and one that is left over escapes what follows. -/
def EscapesNext (text : List Char) : Prop := trailingBackslashes text % 2 = 1

theorem trailingBackslashes_append (text : List Char) (c : Char) :
    trailingBackslashes (text ++ [c]) = if c = '\\' then trailingBackslashes text + 1 else 0 := by
  unfold trailingBackslashes
  rw [List.reverse_append, List.reverse_singleton, List.singleton_append, List.takeWhile_cons]
  by_cases hc : c = '\\' <;> simp [hc]

/-- Only the backslash is written with a backslash at the end. -/
theorem exists_escape_eq {c : Char} (h : c ≠ '\\') :
    ∃ init last, escape c = init ++ [last] ∧ last ≠ '\\' := by
  unfold escape
  split
  case h_2 => exact absurd rfl h
  case h_8 =>
    split
    · next hcontrol =>
      -- the last of the four digits
      have hdigit : ∀ n, n < 16 → hexDigit n ≠ '\\' := by decide
      exact ⟨['\\', 'u', '0', '0', hexDigit (c.toNat / 16)], hexDigit (c.toNat % 16), rfl,
        hdigit _ (by omega)⟩
    · exact ⟨[], c, rfl, h⟩
  all_goals exact ⟨['\\'], _, rfl, by decide⟩

/-- Between the characters of a quoted text nothing is left escaped. -/
theorem trailingBackslashes_escaped (text : List Char) :
    trailingBackslashes (text.flatMap escape) % 2 = 0 := by
  -- backslashes count from the end, and so does the induction
  induction text using List.reverseRecOn with
  | nil => rfl
  | append_singleton text c ih =>
    rw [List.flatMap_append, List.flatMap_singleton]
    by_cases hc : c = '\\'
    · have hescape : escape c = ['\\'] ++ ['\\'] := by rw [hc]; rfl
      rw [hescape, ← List.append_assoc, trailingBackslashes_append, trailingBackslashes_append]
      simp only [if_true]
      omega
    · obtain ⟨init, last, hescape, hlast⟩ := exists_escape_eq hc
      rw [hescape, ← List.append_assoc, trailingBackslashes_append, if_neg hlast]

/-- A quote stands in what is written for a character only if the character is the quote,
    and then behind a backslash. -/
theorem eq_of_escape_eq {c : Char} {before after : List Char}
    (h : escape c = before ++ '"' :: after) : before = ['\\'] := by
  have hmem : '"' ∈ escape c := by simp [h]
  have hquote : c = '"' := by
    unfold escape at hmem
    split at hmem
    case h_1 => rfl
    case h_8 hne _ _ _ _ _ _ =>
      exfalso
      split at hmem
      · have hdigit : ∀ n, n < 16 → hexDigit n ≠ '"' := by decide
        have hhigh := hdigit (c.toNat / 16) (by omega)
        have hlow := hdigit (c.toNat % 16) (by omega)
        simp [hhigh.symm, hlow.symm] at hmem
      · exact hne (List.mem_singleton.mp hmem).symm
    all_goals exact absurd hmem (by decide)
  subst hquote
  have hescape : escape '"' = ['\\', '"'] := rfl
  rw [hescape] at h
  cases before with
  | nil => exact absurd (List.cons.inj h).1 (by decide)
  | cons d before =>
    obtain ⟨rfl, hrest⟩ := List.cons.inj h
    cases before with
    | nil => rfl
    | cons e before => simp at hrest

/-- Before a quote in the body of a quoted text stand whole characters and a backslash. -/
theorem exists_of_escaped {text before after : List Char}
    (h : text.flatMap escape = before ++ '"' :: after) :
    ∃ done : List Char, before = done.flatMap escape ++ ['\\'] := by
  induction text generalizing before with
  | nil => simp at h
  | cons c text ih =>
    rw [List.flatMap_cons] at h
    rcases List.append_eq_append_iff.mp h with ⟨inner, hbefore, hinner⟩ | ⟨inner, hescape, hquote⟩
    · obtain ⟨done, hdone⟩ := ih hinner
      refine ⟨c :: done, ?_⟩
      rw [hbefore, hdone, List.flatMap_cons, List.append_assoc]
    · cases inner with
      | nil =>
        -- the quote would be the first character of what follows, where it has a backslash
        have hnone : text.flatMap escape = [] ++ '"' :: after := hquote.symm
        obtain ⟨done, hdone⟩ := ih hnone
        exact absurd hdone.symm (by simp)
      | cons d inner =>
        obtain ⟨rfl, _⟩ := List.cons.inj hquote
        exact ⟨[], eq_of_escape_eq hescape⟩

/-- A quote in the body of a quoted text is escaped. -/
theorem escapesNext_of_escaped {text before after : List Char}
    (h : text.flatMap escape = before ++ '"' :: after) : EscapesNext before := by
  obtain ⟨done, rfl⟩ := exists_of_escaped h
  have heven := trailingBackslashes_escaped done
  unfold EscapesNext
  rw [trailingBackslashes_append, if_pos rfl]
  omega

/-- The opening quote has no part in this. -/
theorem trailingBackslashes_quote_cons (text : List Char) :
    trailingBackslashes ('"' :: text) = trailingBackslashes text := by
  induction text using List.reverseRecOn with
  | nil => rfl
  | append_singleton text c ih =>
    rw [← List.cons_append, trailingBackslashes_append, trailingBackslashes_append, ih]

/-! ### Control characters -/

theorem le_toNat_of_mem_escape {c d : Char} (h : d ∈ escape c) : 32 ≤ d.toNat := by
  unfold escape at h
  split at h
  case h_8 =>
    split at h
    · have hdigit : ∀ n, n < 16 → 32 ≤ (hexDigit n).toNat := by decide
      have hhigh := hdigit (c.toNat / 16) (by omega)
      have hlow := hdigit (c.toNat % 16) (by omega)
      simp only [List.mem_cons, List.not_mem_nil, or_false] at h
      rcases h with rfl | rfl | rfl | rfl | rfl | rfl
      · decide
      · decide
      · decide
      · decide
      · exact hhigh
      · exact hlow
    · next hcontrol =>
      rw [List.mem_singleton.mp h]
      exact Nat.le_of_not_lt hcontrol
  all_goals
    simp only [List.mem_cons, List.not_mem_nil, or_false] at h
    rcases h with rfl | rfl <;> decide

/-- A quoted text has no control character. -/
theorem le_toNat_of_mem_quote {text : List Char} {c : Char} (h : c ∈ quote text) :
    32 ≤ c.toNat := by
  simp only [quote, List.mem_cons, List.mem_append, List.mem_flatMap, List.not_mem_nil,
    or_false] at h
  rcases h with (rfl | ⟨d, _, hc⟩) | rfl
  · decide
  · exact le_toNat_of_mem_escape hc
  · decide

end Quoted

/-! ### Reading the strings of a text -/

/-- What the quoted strings of a text are, read from the left. -/
inductive ReadsStrings : List Char → List String → Prop where
  | nil : ReadsStrings [] []
  /-- What is no quote is skipped. -/
  | skip {c : Char} {rest : List Char} {strings : List String} (hc : c ≠ '"') :
    ReadsStrings rest strings → ReadsStrings (c :: rest) strings
  /-- At a quote a quoted string is read, and reading goes on behind it. -/
  | string {text rest : List Char} {pieces : List Quoted.Piece} {s : String}
    {strings : List String} (hread : Quoted.read text = some (pieces, rest))
    (hpieces : Quoted.Piece.toString? pieces = some s) :
    ReadsStrings rest strings → ReadsStrings text (s :: strings)

theorem read_cons_of_ne_quote {c : Char} (hc : c ≠ '"') (rest : List Char) :
    Quoted.read (c :: rest) = none := by
  unfold Quoted.read
  split
  · next heq => exact absurd (List.cons.inj heq).1 hc
  · rfl

/-- There is one way to read a text. -/
theorem ReadsStrings.unique {text : List Char} {strings strings' : List String}
    (h : ReadsStrings text strings) (h' : ReadsStrings text strings') : strings = strings' := by
  induction h generalizing strings' with
  | nil =>
    cases h' with
    | nil => rfl
    | string hread => cases hread
  | skip hc _ ih =>
    cases h' with
    | skip _ h' => exact ih h'
    | string hread =>
      rw [read_cons_of_ne_quote hc] at hread
      cases hread
  | string hread hpieces _ ih =>
    cases h' with
    | nil => cases hread
    | skip hc =>
      rw [read_cons_of_ne_quote hc] at hread
      cases hread
    | string hread' hpieces' h' =>
      rw [hread, Option.some_inj] at hread'
      obtain ⟨rfl, rfl⟩ := Prod.mk.inj hread'
      rw [hpieces, Option.some_inj] at hpieces'
      rw [hpieces', ih h']

/-- Whether these are the strings in a text, whatever text follows. -/
def Carries (text : List Char) (strings : List String) : Prop :=
  ∀ rest following, ReadsStrings rest following →
    ReadsStrings (text ++ rest) (strings ++ following)

namespace Carries

theorem append {text text' : List Char} {strings strings' : List String}
    (h : Carries text strings) (h' : Carries text' strings') :
    Carries (text ++ text') (strings ++ strings') := by
  intro rest following hrest
  rw [List.append_assoc, List.append_assoc]
  exact h _ _ (h' _ _ hrest)

theorem of_not_mem {text : List Char} (h : '"' ∉ text) : Carries text [] := by
  intro rest following hrest
  induction text with
  | nil => exact hrest
  | cons c text ih =>
    have hc : c ≠ '"' := by
      rintro rfl
      exact h List.mem_cons_self
    exact .skip hc (ih fun hmem => h (List.mem_cons_of_mem c hmem))

theorem intercalate {separator : List Char} (hseparator : '"' ∉ separator)
    {items : List (List Char × List String)} (hitems : ∀ item ∈ items, Carries item.1 item.2) :
    Carries (List.intercalate separator (items.map Prod.fst)) (items.flatMap Prod.snd) := by
  induction items with
  | nil => exact of_not_mem (by simp)
  | cons item items ih =>
    have hitem := hitems item List.mem_cons_self
    have hrest := ih fun other hother => hitems other (List.mem_cons_of_mem item hother)
    cases items with
    | nil => simpa using hitem
    | cons next items =>
      have hjoined := (hitem.append (of_not_mem hseparator)).append hrest
      rw [List.append_nil] at hjoined
      rw [List.map_cons, List.map_cons, List.intercalate_cons_cons]
      exact hjoined

end Carries

/-! ### Operands -/

/-- A quoted string is read back from the front of any text, and no more than it is read. -/
theorem read_quoted (s : String) (rest : List Char) :
    ∃ pieces, Quoted.read ((quoted s).toList ++ rest) = some (pieces, rest) ∧
      Quoted.Piece.toString? pieces = some s := by
  refine ⟨s.toList.map Quoted.pieceOf, ?_, ?_⟩
  · rw [quoted, String.toList_ofList]
    exact Quoted.read_quote s.toList rest
  · rw [Quoted.Piece.toString?, Quoted.decode?_map_pieceOf, Option.map_some, String.ofList_toList]

theorem carries_quoted (s : String) : Carries (quoted s).toList [s] := by
  intro rest following hrest
  obtain ⟨pieces, hread, hpieces⟩ := read_quoted s rest
  exact .string hread hpieces hrest

theorem carries_word {text : List Char} (h : IsWord text) : Carries text [] := by
  apply Carries.of_not_mem
  intro hmem
  have hchar := h.chars '"' hmem
  exact absurd hchar (by decide)

namespace Literal

/-- The string in a literal, if it is one. -/
def strings : Literal → List String
  | string s => [s]
  | _ => []

theorem carries_text (l : Literal) : Carries l.text.toList l.strings := by
  cases l with
  | string s => exact carries_quoted s
  | null => exact .of_not_mem (by decide)
  | bool b => cases b <;> exact .of_not_mem (by decide)
  | number n => exact carries_word n.isWord_text
  | date t =>
    rw [text, Timestamp.text, String.toList_ofList]
    exact carries_word (isWord_integerText t.millis.toInt)

end Literal

/-! ### Comparisons -/

namespace Comparison

/-- The strings among the operands of a comparison. -/
def strings : Comparison → List String
  | equality _ l => l.strings
  | order _ q => q.toLiteral.strings
  | membership _ ls => ls.flatMap Literal.strings
  | state _ _ => []
  | between range => range.lower.strings ++ range.upper.strings
  | stringTest _ s => [s]

theorem carries_heading (h : Heading) : Carries h.text.toList [] := by
  have hwritten : ∀ h ∈ Heading.written, '"' ∉ h.text.toList := by decide +kernel
  rcases h.eq_between_or_mem_written with rfl | hmem
  · exact .of_not_mem (by decide)
  · exact .of_not_mem (hwritten h hmem)

theorem carries_list (ls : List Literal) :
    Carries (List.intercalate [',', ' '] (ls.map fun l => l.text.toList))
      (ls.flatMap Literal.strings) := by
  have hitems : ∀ item ∈ ls.map fun l => (l.text.toList, l.strings), Carries item.1 item.2 := by
    intro item hitem
    obtain ⟨l, _, rfl⟩ := List.mem_map.mp hitem
    exact l.carries_text
  have hseparator : '"' ∉ [',', ' '] := by decide
  simpa [List.flatMap_map, Function.comp_def] using Carries.intercalate hseparator hitems

theorem carries_operandText (c : Comparison) : Carries c.operandText c.strings := by
  cases c with
  | equality op l =>
    cases l with
    | null => exact .of_not_mem (by simp [operandText])
    | _ => exact Literal.carries_text _
  | order op q => exact q.toLiteral.carries_text
  | membership op ls =>
    have hclose : Carries [']'] [] := .of_not_mem (by decide)
    have hlist := (carries_list ls).append hclose
    rw [List.append_nil] at hlist
    exact hlist
  | state op flag => exact .of_not_mem (by simp [operandText])
  | between range =>
    have hbetween : Carries " TO ".toList [] := .of_not_mem (by decide)
    have hlower := range.lower.carries_text.append hbetween
    rw [List.append_nil] at hlower
    exact hlower.append range.upper.carries_text
  | stringTest op s => exact carries_quoted s

theorem carries_condition (c : Comparison) : Carries c.condition.toList c.strings := by
  rw [c.toList_condition]
  exact (carries_heading c.heading).append c.carries_operandText

end Comparison

/-- A string operand cannot leave its literal. -/
theorem Literal.string_contained :
    -- read from the front of any text, the literal of a string gives the string and leaves
    -- just what stands behind it
    (∀ (s : String) (rest : List Char), ∃ pieces,
      Quoted.read ((string s).text.toList ++ rest) = some (pieces, rest) ∧
      Quoted.Piece.toString? pieces = some s) ∧
    -- it has no control character
    (∀ (s : String), ∀ c ∈ (string s).text.toList, 32 ≤ c.toNat) ∧
    -- it starts and ends with a quote, and every quote between these is escaped
    (∀ s : String, ∃ body, (string s).text.toList = '"' :: body ++ ['"'] ∧
      ∀ before after, body = before ++ '"' :: after → Quoted.EscapesNext ('"' :: before)) ∧
    -- strings with the same literal are the same
    (∀ s t : String, (string s).text = (string t).text → s = t) ∧
    -- behind the field of a comparison its string operands are read and no other strings
    (∀ (c : Comparison) (strings : List String),
      ReadsStrings c.condition.toList strings ↔ strings = c.strings) ∧
    -- and whatever follows the comparison is read as if it stood alone
    (∀ (c : Comparison) (rest : List Char) (following : List String),
      ReadsStrings rest following →
      ReadsStrings (c.condition.toList ++ rest) (c.strings ++ following)) := by
  refine ⟨read_quoted, ?_, ?_, fun _ _ h => quoted_injective h, ?_, Comparison.carries_condition⟩
  · intro s c hc
    rw [text, quoted, String.toList_ofList] at hc
    exact Quoted.le_toNat_of_mem_quote hc
  · intro s
    refine ⟨s.toList.flatMap Quoted.escape, ?_, ?_⟩
    · rw [text, quoted, String.toList_ofList]
      rfl
    · intro before after h
      have hescaped := Quoted.escapesNext_of_escaped h
      unfold Quoted.EscapesNext at hescaped ⊢
      rw [Quoted.trailingBackslashes_quote_cons]
      exact hescaped
  · intro c strings
    have hreads := c.carries_condition [] [] .nil
    rw [List.append_nil, List.append_nil] at hreads
    constructor
    · intro h
      exact h.unique hreads
    · rintro rfl
      exact hreads

/-- A string that ends in a backslash and one that looks like a second condition, in front
    of a condition of their own kind. -/
theorem Literal.string_contained_list :
    ReadsStrings
      ("IN [\"a\\\\\", \"\\\" OR b = \\\"\"]".toList ++ " AND name = \"c\"".toList)
      ["a\\", "\" OR b = \"", "c"] := by
  have hrest : ReadsStrings (" AND name = ".toList ++ (quoted "c").toList ++ []) (["c"] ++ []) :=
    (Carries.of_not_mem (by decide)).append (carries_quoted "c") [] [] .nil
  obtain ⟨_, _, _, _, _, hfollowing⟩ := string_contained
  exact hfollowing (.membership .isIn [.string "a\\", .string "\" OR b = \""]) _ _ hrest

end SearchQuery
