import SearchQuery.Json.Document
import SearchQuery.Binary64.Notation
import SearchQuery.Proofs.Text.DigitRun

/-! # Number tokens

  A `NumberToken` is a number by the grammar of JSON: an optional minus sign, digits
  without a leading zero, and if present a point with digits and a power of ten with
  digits. Reading its text gives the numeral that its parts make, and the reader of
  documents takes the text for this number and nothing else.
-/

namespace SearchQuery

/-! ### Tokens -/

/-- The sign of a power of ten, as it is written. -/
inductive PowerSign where
  | none
  | plus
  | minus
deriving DecidableEq

def PowerSign.text : PowerSign → List Char
  | none => []
  | plus => ['+']
  | minus => ['-']

/-- A power of ten, as it is written. -/
structure PowerPart where
  /-- Whether it is introduced by a capital letter. -/
  capital : Bool
  sign : PowerSign
  digits : DigitRun

namespace PowerPart

def text (p : PowerPart) : List Char :=
  (if p.capital then 'E' else 'e') :: p.sign.text ++ p.digits.chars

def value (p : PowerPart) : Int :=
  if p.sign = .minus then -(digitsValue p.digits.chars : Int) else digitsValue p.digits.chars

/-- A power of ten with its sign written out. -/
def ofInt (n : Int) : PowerPart where
  capital := false
  sign := if n < 0 then .minus else .plus
  digits := .ofNat n.natAbs

theorem text_ofInt (n : Int) :
    (ofInt n).text = 'e' :: (if n < 0 then [] else ['+']) ++ integerText n := by
  unfold text ofInt integerText
  split <;> rfl

theorem value_ofInt (n : Int) : (ofInt n).value = n := by
  unfold value ofInt
  by_cases hneg : n < 0
  · simp only [if_pos hneg, if_true, DigitRun.chars_ofNat, digitsValue_decimalDigits]
    omega
  · simp only [if_neg hneg, reduceCtorEq, if_false, DigitRun.chars_ofNat, digitsValue_decimalDigits]
    omega

end PowerPart

/-- A number by the grammar of JSON. -/
structure NumberToken where
  negative : Bool
  whole : DigitRun
  whole_minimal : whole.IsMinimal
  fraction : Option DigitRun
  power : Option PowerPart

namespace NumberToken

def fractionText (fraction : Option DigitRun) : List Char :=
  fraction.elim [] fun digits => '.' :: digits.chars

def powerText (power : Option PowerPart) : List Char :=
  power.elim [] PowerPart.text

/-- The text of a token. -/
def text (t : NumberToken) : List Char :=
  withSign t.negative (t.whole.chars ++ (fractionText t.fraction ++ powerText t.power))

/-- What is written. -/
def numeral (t : NumberToken) : Numeral where
  negative := t.negative
  whole := t.whole.chars
  fraction := t.fraction.map DigitRun.chars
  power := t.power.map PowerPart.value

/-- Whether a token is written as an integer. -/
def IsInteger (t : NumberToken) : Prop := t.fraction = none ∧ t.power = none

/-! ### Reading -/

/-- Whether a text does not go on with a number. -/
def Ends (rest : List Char) : Prop :=
  ∀ c ∈ rest.head?, c.isDigit = false ∧ c ≠ '.' ∧ c ≠ 'e' ∧ c ≠ 'E'

theorem ends_nil : Ends [] := by
  intro c hc
  cases hc

theorem readDigits_append (run : DigitRun) {rest : List Char}
    (hrest : ∀ c ∈ rest.head?, c.isDigit = false) :
    readDigits (run.chars ++ rest) = some (run.chars, rest) := by
  have hsplit : rest.takeWhile Char.isDigit = [] ∧ rest.dropWhile Char.isDigit = rest := by
    cases rest with
    | nil => exact ⟨rfl, rfl⟩
    | cons c rest =>
      have hc : ¬ c.isDigit := by simp [hrest c rfl]
      exact ⟨List.takeWhile_cons_of_neg hc, List.dropWhile_cons_of_neg hc⟩
  obtain ⟨c, cs, hchars, _⟩ := run.exists_cons
  unfold readDigits
  rw [List.takeWhile_append_of_pos run.isDigit, List.dropWhile_append_of_pos run.isDigit, hsplit.1,
    hsplit.2, List.append_nil, hchars]

theorem readMinus_withSign (negative : Bool) (run : DigitRun) (rest : List Char) :
    Numeral.readMinus (withSign negative (run.chars ++ rest)) = (negative, run.chars ++ rest) := by
  cases negative with
  | true => rfl
  | false =>
    rw [withSign, if_neg Bool.false_ne_true]
    unfold Numeral.readMinus
    split
    · next heq => exact absurd heq (run.append_ne_cons rfl _ _)
    · rfl

theorem readSign_text (sign : PowerSign) (run : DigitRun) (rest : List Char) :
    Numeral.readSign (sign.text ++ (run.chars ++ rest)) =
      (decide (sign = .minus), run.chars ++ rest) := by
  cases sign with
  | none =>
    rw [PowerSign.text, List.nil_append]
    unfold Numeral.readSign
    split
    · next heq => exact absurd heq (run.append_ne_cons rfl _ _)
    · next heq => exact absurd heq (run.append_ne_cons rfl _ _)
    · rfl
  | plus => rfl
  | minus => rfl

theorem readPower_text (power : Option PowerPart) {rest : List Char} (hrest : Ends rest) :
    Numeral.readPower (powerText power ++ rest) = some (power.map PowerPart.value, rest) := by
  cases power with
  | none =>
    unfold Numeral.readPower
    split
    · next heq => exact absurd rfl (hrest 'e' (by simpa [powerText] using congrArg List.head? heq)).2.2.1
    · next heq => exact absurd rfl (hrest 'E' (by simpa [powerText] using congrArg List.head? heq)).2.2.2
    · rfl
  | some p =>
    have hdigits := readDigits_append p.digits fun c hc => (hrest c hc).1
    have hpower : Numeral.readPowerDigits (p.sign.text ++ (p.digits.chars ++ rest)) =
        some (some p.value, rest) := by
      unfold Numeral.readPowerDigits
      simp only [readSign_text, hdigits, Option.map_some, decide_eq_true_eq, PowerPart.value]
    obtain ⟨capital, sign, digits⟩ := p
    cases capital with
    | false => simpa [powerText, PowerPart.text, Numeral.readPower] using hpower
    | true => simpa [powerText, PowerPart.text, Numeral.readPower] using hpower

/-- A power of ten does not start like a digit or a point. -/
theorem head?_powerText (power : Option PowerPart) {rest : List Char} (hrest : Ends rest) :
    ∀ c ∈ (powerText power ++ rest).head?, c.isDigit = false ∧ c ≠ '.' := by
  cases power with
  | none => exact fun c hc => ⟨(hrest c hc).1, (hrest c hc).2.1⟩
  | some p =>
    intro c hc
    obtain rfl : (if p.capital then 'E' else 'e') = c := by
      simpa [powerText, PowerPart.text] using hc
    split <;> decide

theorem readFraction_text (fraction : Option DigitRun) {rest : List Char}
    (hrest : ∀ c ∈ rest.head?, c.isDigit = false ∧ c ≠ '.') :
    Numeral.readFraction (fractionText fraction ++ rest) =
      some (fraction.map DigitRun.chars, rest) := by
  cases fraction with
  | none =>
    unfold Numeral.readFraction
    split
    · next heq => exact absurd rfl (hrest '.' (by simpa [fractionText] using congrArg List.head? heq)).2
    · rfl
  | some digits =>
    have hdigits := readDigits_append digits fun c hc => (hrest c hc).1
    simp only [fractionText, Option.elim_some, List.cons_append, Numeral.readFraction, hdigits,
      Option.map_some]

/-- A fraction does not start like a digit, and neither does what follows if there is none. -/
theorem head?_fractionText (fraction : Option DigitRun) {rest : List Char}
    (hrest : ∀ c ∈ rest.head?, c.isDigit = false ∧ c ≠ '.') :
    ∀ c ∈ (fractionText fraction ++ rest).head?, c.isDigit = false := by
  cases fraction with
  | none => exact fun c hc => (hrest c hc).1
  | some digits =>
    intro c hc
    obtain rfl : '.' = c := by simpa [fractionText] using hc
    rfl

/-- A token is read to what is written. -/
theorem read_text (t : NumberToken) {rest : List Char} (hrest : Ends rest) :
    Numeral.read (t.text ++ rest) = some (t.numeral, rest) := by
  have hpower := head?_powerText t.power hrest
  have hfraction := head?_fractionText t.fraction hpower
  have htext : t.text ++ rest = withSign t.negative
      (t.whole.chars ++ (fractionText t.fraction ++ (powerText t.power ++ rest))) := by
    unfold text withSign
    split <;> simp
  unfold Numeral.read
  simp only [htext, readMinus_withSign, readDigits_append t.whole hfraction,
    readFraction_text t.fraction hpower, readPower_text t.power hrest, Option.bind_eq_bind,
    Option.bind_some]
  rfl

theorem ofString?_text (t : NumberToken) :
    Numeral.ofString? (String.ofList t.text) = some t.numeral := by
  have hread := t.read_text ends_nil
  rw [List.append_nil] at hread
  unfold Numeral.ofString?
  rw [String.toList_ofList, hread]

/-! ### Reading documents -/

theorem hasLeadingZero_numeral (t : NumberToken) : t.numeral.hasLeadingZero = false := by
  unfold Numeral.hasLeadingZero
  split
  · next heq =>
    have hminimal := t.whole_minimal
    have hchars : t.whole.chars = _ := heq
    unfold DigitRun.IsMinimal at hminimal
    rw [hchars] at hminimal
    exact absurd (hminimal rfl) (by simp)
  · rfl

/-- A token starts with a digit or a minus sign. -/
theorem exists_cons_text (t : NumberToken) :
    ∃ c cs, t.text = c :: cs ∧ (c.isDigit ∨ c = '-') := by
  obtain ⟨c, cs, hchars, hc⟩ := t.whole.exists_cons
  unfold text withSign
  split
  · exact ⟨'-', _, rfl, .inr rfl⟩
  · rw [hchars]
    exact ⟨c, _, rfl, .inl hc⟩

/-- A text that starts with a token starts with no other character. -/
theorem text_append_ne_cons (t : NumberToken) {c : Char} (hc : ¬ (c.isDigit ∨ c = '-'))
    (rest rest' : List Char) : t.text ++ rest ≠ c :: rest' := by
  obtain ⟨c', cs, htext, hc'⟩ := t.exists_cons_text
  intro heq
  rw [htext] at heq
  obtain rfl := (List.cons.inj heq).1
  exact hc hc'

theorem skipBlank_text (t : NumberToken) (rest : List Char) :
    RawJson.skipBlank (t.text ++ rest) = t.text ++ rest := by
  obtain ⟨c, cs, htext, hc⟩ := t.exists_cons_text
  have hblank : ¬ RawJson.isBlank c := by
    intro hblank
    simp only [RawJson.isBlank, Bool.or_eq_true, decide_eq_true_eq] at hblank
    rcases hblank with ((rfl | rfl) | rfl) | rfl <;> exact absurd hc (by decide)
  rw [htext]
  exact List.dropWhile_cons_of_neg hblank

theorem readValue_text (t : NumberToken) (steps : Nat) {rest : List Char} (hrest : Ends rest) :
    RawJson.readValue (steps + 1) (t.text ++ rest) = some (.number t.numeral, rest) := by
  have hread := t.read_text hrest
  unfold RawJson.readValue
  rw [t.skipBlank_text]
  split
  case h_7 =>
    unfold RawJson.readNumber
    simp only [hread, t.hasLeadingZero_numeral, Bool.false_eq_true, if_false]
  all_goals
    rename_i heq
    exact absurd heq (t.text_append_ne_cons (by decide) _ _)

/-- A document that is a number token is this number. -/
theorem ofString?_document (t : NumberToken) (reading : NumeralReading) :
    Json.ofString? reading (String.ofList t.text) =
      (JsonNumber.ofNumeral? reading t.numeral).map .number := by
  have hraw : RawJson.ofString? (String.ofList t.text) = some (.number t.numeral) := by
    have hread := t.readValue_text (2 * t.text.length + 1) ends_nil
    rw [List.append_nil] at hread
    unfold RawJson.ofString? RawJson.ofList?
    rw [String.toList_ofList, hread]
    rfl
  unfold Json.ofString?
  rw [hraw]
  rfl

end NumberToken

end SearchQuery
