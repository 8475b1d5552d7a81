import SearchQuery.Proofs.Formula.Reader
import SearchQuery.Proofs.Text.Operand

/-! # Texts within an atom

  A scanner that is within an atom stays within it as long as it meets inner texts.
  Connectives start with a space and a capital A or O, so a space is harmless if
  what follows it starts otherwise; parentheses stand in quotes or make up a call.
  Inner texts can be put one behind the other. A text that starts with a name and
  goes on with an inner text is one token.
-/

namespace SearchQuery

namespace Formula

/-! ### Inner texts -/

/-- Whether a text may stand behind a space without being taken for a connective. -/
def startsNoConnective : List Char → Bool
  | [] => true
  | c :: _ => c != 'A' && c != 'O'

/-- Whether a character neither opens nor closes anything and is no space. -/
def isOrdinary (c : Char) : Bool :=
  c != ' ' && c != '(' && c != ')' && c != '"'

/-- A text that belongs to an atom if the scanner is within the atom before it. -/
structure IsInner (text : List Char) : Prop where
  start : startsNoConnective text
  scan : ∀ rest, startsNoConnective rest →
    scanRest (text ++ rest) = text.foldr extend (scanRest rest)

theorem startsNoConnective_append {text rest : List Char} (htext : startsNoConnective text)
    (hrest : startsNoConnective rest) : startsNoConnective (text ++ rest) := by
  cases text with
  | nil => exact hrest
  | cons c text => exact htext

theorem IsInner.append {text text' : List Char} (h : IsInner text) (h' : IsInner text') :
    IsInner (text ++ text') where
  start := startsNoConnective_append h.start h'.start
  scan := by
    intro rest hrest
    have hnext := startsNoConnective_append h'.start hrest
    rw [List.append_assoc, h.scan _ hnext, h'.scan rest hrest, List.foldr_append]

/-- An ordinary character is taken into the atom. -/
theorem scanRest_cons {c : Char} (h : isOrdinary c) (rest : List Char) :
    scanRest (c :: rest) = extend c (scanRest rest) := by
  rw [scanRest.eq_def]
  split <;> simp_all [isOrdinary]

theorem scanRest_space {rest : List Char} (h : startsNoConnective rest) :
    scanRest (' ' :: rest) = extend ' ' (scanRest rest) := by
  -- what stands behind the space excludes the two connectives
  rw [scanRest.eq_def]
  split
  case h_2 heq =>
    obtain rfl := (List.cons.inj heq).2
    cases h
  case h_3 heq =>
    obtain rfl := (List.cons.inj heq).2
    cases h
  case h_7 heq =>
    obtain ⟨rfl, rfl⟩ := List.cons.inj heq
    rfl
  all_goals simp_all

/-- Whether a text has ordinary characters only, and spaces that no A and no O
    follows. -/
def staysWithin : List Char → Bool
  | [] => true
  | c :: rest =>
    (isOrdinary c || c == ' ' && startsNoConnective rest) && staysWithin rest

theorem IsInner.of_staysWithin {text : List Char} (hstart : startsNoConnective text)
    (h : staysWithin text) : IsInner text where
  start := hstart
  scan := by
    intro rest hrest
    clear hstart
    induction text with
    | nil => rfl
    | cons c text ih =>
      simp only [staysWithin, Bool.and_eq_true, Bool.or_eq_true, beq_iff_eq] at h
      obtain ⟨hc, htext⟩ := h
      rw [List.cons_append, List.foldr_cons, ← ih htext]
      rcases hc with hc | ⟨rfl, hspace⟩
      · exact scanRest_cons hc _
      · exact scanRest_space (startsNoConnective_append hspace hrest)

theorem staysWithin_of_forall {text : List Char} (h : ∀ c ∈ text, isOrdinary c) :
    staysWithin text := by
  induction text with
  | nil => rfl
  | cons c text ih =>
    have hc := h c (by simp)
    have htext := ih fun d hd => h d (by simp [hd])
    simp [staysWithin, hc, htext]

theorem isInner_nil : IsInner [] :=
  IsInner.of_staysWithin (by decide) (by decide)

theorem isInner_intercalate {separator : List Char} {items : List (List Char)}
    (hseparator : IsInner separator) (hitems : ∀ item ∈ items, IsInner item) :
    IsInner (List.intercalate separator items) := by
  induction items with
  | nil => exact isInner_nil
  | cons item items ih =>
    have hitem := hitems item (by simp)
    have hrest := ih fun item h => hitems item (by simp [h])
    cases items with
    | nil => simpa using hitem
    | cons next items =>
      rw [List.intercalate_cons_cons]
      exact (hitem.append hseparator).append hrest

/-! ### Words and names -/

section Kinds

variable {p : Char → Bool} {c : Char} (hc : p c)
include hc

theorem ne_of_all {chars : List Char} (h : chars.all fun d => !p d) : ∀ d ∈ chars, c ≠ d := by
  rintro d hd rfl
  have hnot := List.all_eq_true.mp h c hd
  simp [hc] at hnot

theorem isOrdinary_of_all (h : [' ', '(', ')', '"'].all fun d => !p d) : isOrdinary c := by
  have hne := ne_of_all hc h
  simp only [List.mem_cons, List.not_mem_nil, or_false, forall_eq_or_imp, forall_eq] at hne
  simp [isOrdinary, hne]

theorem startsNoConnective_of_all (h : ['A', 'O'].all fun d => !p d) (rest : List Char) :
    startsNoConnective (c :: rest) := by
  have hne := ne_of_all hc h
  simp only [List.mem_cons, List.not_mem_nil, or_false, forall_eq_or_imp, forall_eq] at hne
  simp [startsNoConnective, hne]

end Kinds

/-- Neither what ends an atom nor a letter that connectives start with is in a word. -/
theorem isInner_word {text : List Char} (h : IsWord text) : IsInner text := by
  obtain ⟨c, rest, rfl⟩ := List.exists_cons_of_ne_nil h.ne_nil
  refine IsInner.of_staysWithin ?_ (staysWithin_of_forall ?_)
  · exact startsNoConnective_of_all (h.chars c (by simp)) (by decide) rest
  · intro d hd
    exact isOrdinary_of_all (h.chars d hd) (by decide)

/-! ### Strings -/

/-- A character that neither ends a string nor escapes is taken into the string. -/
theorem scanString_cons {c : Char} (hquote : c ≠ '"') (hslash : c ≠ '\\') (rest : List Char) :
    scanString (c :: rest) = extend c (scanString rest) := by
  rw [scanString.eq_def]
  split <;> simp_all

theorem hexDigit_ne : ∀ n, n < 16 → Quoted.hexDigit n ≠ '"' ∧ Quoted.hexDigit n ≠ '\\' := by
  decide

theorem scanString_escape (c : Char) (rest : List Char) :
    scanString (Quoted.escape c ++ rest) = (Quoted.escape c).foldr extend (scanString rest) := by
  unfold Quoted.escape
  split
  case h_8 hquote hslash hb hf hn hr ht =>
    split
    · next h =>
      -- the backslash guards only the letter behind it; the digits go in by themselves
      obtain ⟨hhigh, hhigh'⟩ := hexDigit_ne (c.toNat / 16) (by omega)
      obtain ⟨hlow, hlow'⟩ := hexDigit_ne (c.toNat % 16) (by omega)
      simp [scanString, scanString_cons, hhigh, hhigh', hlow, hlow']
    · simpa using scanString_cons hquote hslash rest
  all_goals simp [scanString]

/-- A quoted text ends at its own quote. -/
theorem isInner_quote (text : List Char) : IsInner (Quoted.quote text) where
  start := rfl
  scan := by
    intro rest _
    -- no escape ends the string, so the quote that was put there does
    have hbody : ∀ text : List Char, scanString (text.flatMap Quoted.escape ++ '"' :: rest) =
        (text.flatMap Quoted.escape).foldr extend (extend '"' (scanRest rest)) := by
      intro text
      induction text with
      | nil => simp [scanString]
      | cons c text ih =>
        rw [List.flatMap_cons, List.append_assoc, scanString_escape, ih, List.foldr_append]
    have hquote : Quoted.quote text ++ rest =
        '"' :: (text.flatMap Quoted.escape ++ '"' :: rest) := by
      simp [Quoted.quote]
    rw [hquote, scanRest, hbody]
    simp [Quoted.quote]

theorem isInner_operand {text : List Char} (h : IsOperandText text) : IsInner text := by
  cases h with
  | word h => exact isInner_word h
  | quoted text => exact isInner_quote text

/-! ### Calls -/

theorem scanCall_append {body : List Char} (h : ')' ∉ body) (rest : List Char) :
    scanCall (body ++ ')' :: rest) = body.foldr extend (extend ')' (scanRest rest)) := by
  induction body with
  | nil => simp [scanCall]
  | cons c body ih =>
    have hc : c ≠ ')' := fun hc => h (by simp [hc])
    have hbody := ih fun hmem => h (by simp [hmem])
    rw [List.cons_append, scanCall.eq_def]
    split <;> simp_all

/-- The parentheses of a call belong to the atom. -/
theorem isInner_call {body : List Char} (h : ')' ∉ body) : IsInner ('(' :: body ++ [')']) where
  start := rfl
  scan := by
    intro rest _
    have hcall := scanCall_append h rest
    have htext : '(' :: body ++ [')'] ++ rest = '(' :: (body ++ ')' :: rest) := by simp
    rw [htext, scanRest, hcall]
    simp

/-! ### Tokens -/

theorem foldr_extend {text : List Char} (hne : text ≠ []) {tokens : List Token}
    (h : ∀ t ts, tokens ≠ .atom t :: ts) : text.foldr extend tokens = .atom text :: tokens := by
  induction text with
  | nil => exact absurd rfl hne
  | cons c text ih =>
    cases text with
    | nil =>
      rw [List.foldr_cons, List.foldr_nil, extend]
      exact h
    | cons d text =>
      rw [List.foldr_cons, ih (List.cons_ne_nil d text), extend]

theorem exists_extend (c : Char) (tokens : List Token) :
    ∃ text ts, extend c tokens = .atom text :: ts := by
  unfold extend
  split
  · exact ⟨_, _, rfl⟩
  · exact ⟨_, _, rfl⟩

/-- Where no atom goes on, no letter stands that could follow a space in a connective. -/
theorem EndsFactor.startsNoConnective {rest : List Char} (h : EndsFactor rest) :
    startsNoConnective rest := by
  cases rest with
  | nil => rfl
  | cons c rest =>
    have hc : (!isOrdinary c) = true := by
      rw [Bool.not_eq_true', ← Bool.not_eq_true]
      intro hordinary
      obtain ⟨text, tokens, hextend⟩ := exists_extend c (scanRest rest)
      rw [← scanRest_cons hordinary] at hextend
      exact h text tokens hextend
    -- the letters of the connectives are ordinary characters
    exact startsNoConnective_of_all (p := fun d => !isOrdinary d) hc (by decide) rest

/-- A name and an inner text behind it are one token. -/
theorem scansAsAtom_of_name {text : String} {name tail : List Char}
    (htext : text.toList = name ++ tail) (hne : name ≠ []) (hstart : startsNoConnective name)
    (hname : ∀ c ∈ name, isOrdinary c) (htail : IsInner tail) : ScansAsAtom text := by
  have hinner : IsInner text.toList := by
    rw [htext]
    exact (IsInner.of_staysWithin hstart (staysWithin_of_forall hname)).append htail
  obtain ⟨c, rest, rfl⟩ := List.exists_cons_of_ne_nil hne
  have hc := hname c (by simp)
  intro following hfollowing
  have hscan := hinner.scan following hfollowing.startsNoConnective
  rw [foldr_extend (by simp [htext]) hfollowing] at hscan
  -- the first character is taken in by either scanner, as it opens no group
  rw [← hscan, htext, List.cons_append, List.cons_append, scanRest_cons hc, scanFactor.eq_def]
  split <;> simp_all [isOrdinary]

end Formula

end SearchQuery
