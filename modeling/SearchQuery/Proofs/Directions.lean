import SearchQuery.Direction
import SearchQuery.Proofs.NumberValue

/-! # Directions

  `Direction.IsGivenBy` says which values give a direction: two words in any case, and the
  numbers one and minus one, as a text, as a number of any kind or as a date. Everything
  is turned into a text first, so it has to be shown that no number or date reads like a
  word, and that no other number reads like one or minus one.

  Only ASCII letters have two cases in `Direction.ofString?`. A `Lowercasing` lowers
  other letters too, as Unicode has it: two characters beyond ASCII, the Kelvin sign and
  the capital i with a dot, then become ASCII letters. But no word has a k, and the dot
  is kept, so no word comes of it.
-/

namespace SearchQuery

/-! ### Letters in two cases -/

/-- Whether two characters are the same letter, in any case. Only ASCII letters have cases. -/
def SameLetter (c d : Char) : Prop :=
  c = d ∨ c.isAlpha ∧ d.isAlpha ∧ (c.toNat = d.toNat + 32 ∨ d.toNat = c.toNat + 32)

/-- Whether two texts are the same but for the case of ASCII letters. -/
def SameIgnoringCase (s t : String) : Prop := List.Forall₂ SameLetter s.toList t.toList

theorem isUpper_iff_toNat {c : Char} : c.isUpper ↔ 65 ≤ c.toNat ∧ c.toNat ≤ 90 := by
  show decide (c.val ≥ 'A'.val ∧ c.val ≤ 'Z'.val) = true ↔ _
  rw [decide_eq_true_eq, ge_iff_le, UInt32.le_iff_toNat_le, UInt32.le_iff_toNat_le]
  rfl

theorem isAlpha_iff_toNat {c : Char} :
    c.isAlpha ↔ 65 ≤ c.toNat ∧ c.toNat ≤ 90 ∨ 97 ≤ c.toNat ∧ c.toNat ≤ 122 := by
  show (c.isUpper || decide (c.val ≥ 'a'.val) && decide (c.val ≤ 'z'.val)) = true ↔ _
  rw [Bool.or_eq_true, isUpper_iff_toNat, Bool.and_eq_true, decide_eq_true_eq, decide_eq_true_eq,
    ge_iff_le, UInt32.le_iff_toNat_le, UInt32.le_iff_toNat_le]
  rfl

theorem toNat_toLower (c : Char) :
    c.toLower.toNat = if c.isUpper then c.toNat + 32 else c.toNat := by
  by_cases h : c.isUpper
  · have hbounds := isUpper_iff_toNat.mp h
    have hvalue : c.val.toNat = c.toNat := rfl
    have hshift : ('a'.val - 'A'.val).toNat = 32 := by decide
    have hupper : c.val ≥ 'A'.val ∧ c.val ≤ 'Z'.val := of_decide_eq_true h
    have hlower : c.toLower.val = c.val + ('a'.val - 'A'.val) := congrArg Char.val (dif_pos hupper)
    rw [if_pos h, ← Char.toNat_val, hlower, UInt32.toNat_add]
    omega
  · have hupper : ¬ (c.val ≥ 'A'.val ∧ c.val ≤ 'Z'.val) := fun h' => h (decide_eq_true h')
    have hlower : c.toLower = c := dif_neg hupper
    rw [if_neg h, hlower]

theorem toList_toLower (s : String) : s.toLower.toList = s.toList.map Char.toLower :=
  String.toList_map

theorem toLower_eq_iff {c d : Char} (hd : d.isUpper = false) : c.toLower = d ↔ SameLetter c d := by
  rw [← Bool.not_eq_true, isUpper_iff_toNat] at hd
  simp only [SameLetter, ← Char.toNat_inj, toNat_toLower, isAlpha_iff_toNat, isUpper_iff_toNat]
  split <;> omega

/-- A text without capitals is the lower case of the texts that are the same in another case. -/
theorem map_toLower_eq_iff {cs ds : List Char} (hds : ∀ d ∈ ds, d.isUpper = false) :
    cs.map Char.toLower = ds ↔ List.Forall₂ SameLetter cs ds := by
  induction cs generalizing ds with
  | nil => cases ds <;> simp
  | cons c cs ih =>
    cases ds with
    | nil => simp
    | cons d ds =>
      rw [List.forall_mem_cons] at hds
      rw [List.map_cons, List.cons.injEq, List.forall₂_cons, toLower_eq_iff hds.1, ih hds.2]

theorem toLower_eq_iff_sameIgnoringCase {s t : String} (ht : ∀ d ∈ t.toList, d.isUpper = false) :
    s.toLower = t ↔ SameIgnoringCase s t := by
  rw [← String.toList_inj, toList_toLower]
  exact map_toLower_eq_iff ht

theorem toLower_eq_self {s : String} (hs : ∀ c ∈ s.toList, c.isUpper = false) : s.toLower = s :=
  (toLower_eq_iff_sameIgnoringCase hs).mpr (List.forall₂_same.mpr fun _ _ => .inl rfl)

/-- What is no letter has no other case. -/
theorem eq_of_forall₂_sameLetter {cs ds : List Char} (h : List.Forall₂ SameLetter cs ds)
    (hds : ∀ d ∈ ds, d.isAlpha = false) : cs = ds := by
  induction h with
  | nil => rfl
  | cons hletter _ ih =>
    rw [List.forall_mem_cons] at hds
    rcases hletter with rfl | ⟨_, hd, _⟩
    · rw [ih hds.2]
    · rw [hds.1] at hd
      cases hd

/-! ### Values that give a direction -/

namespace Direction

/-- The number for a direction. -/
def sign : Direction → ℤ
  | asc => 1
  | desc => -1

/-- The words for a direction. -/
def words : Direction → List String
  | asc => ["asc", "ascending"]
  | desc => ["desc", "descending"]

/-- The values that give a direction. -/
inductive IsGivenBy (d : Direction) : Value → Prop where
  | numeral : IsGivenBy d (.string (toString d.sign))
  | word {s w : String} (hw : w ∈ d.words) (h : SameIgnoringCase s w) : IsGivenBy d (.string s)
  | number {n : Number} (h : n.toRat? = some (d.sign : ℚ)) : IsGivenBy d (.number n)
  | date {t : Timestamp} (h : t.millis.toInt = d.sign) : IsGivenBy d (.date t)

theorem spellings_eq (d : Direction) : d.spellings = toString d.sign :: d.words := by
  cases d <;> rfl

theorem natAbs_sign (d : Direction) : d.sign.natAbs ≤ 2 ^ 53 := by
  cases d <;> decide

/-- The spellings have no capitals, and no character that one beyond ASCII could be lowered to. -/
theorem char_of_mem_spellings {d : Direction} {w : String} (hw : w ∈ d.spellings) {c : Char}
    (hc : c ∈ w.toList) : c.isUpper = false ∧ c.toNat < 128 ∧ c ≠ 'k' := by
  have hall : d.spellings.all fun w => w.toList.all fun c =>
      !c.isUpper && (decide (c.toNat < 128) && c != 'k') := by
    cases d <;> decide
  simpa using List.all_eq_true.mp (List.all_eq_true.mp hall w hw) c hc

/-- The spellings of the two directions are different. -/
theorem eq_of_mem_spellings {d d' : Direction} {w : String} (h : w ∈ d.spellings)
    (h' : w ∈ d'.spellings) : d = d' := by
  have hdisjoint : ∀ w ∈ asc.spellings, w ∉ desc.spellings := by decide
  cases d with
  | asc =>
    cases d' with
    | asc => rfl
    | desc => exact absurd h' (hdisjoint w h)
  | desc =>
    cases d' with
    | asc => exact absurd h (hdisjoint w h')
    | desc => rfl

theorem ofString?_eq_some_iff_mem {text : String} {d : Direction} :
    ofString? text = some d ↔ text.toLower ∈ d.spellings := by
  unfold ofString?
  by_cases hasc : text.toLower ∈ asc.spellings
  · rw [if_pos hasc, Option.some.injEq]
    exact ⟨fun h => h ▸ hasc, eq_of_mem_spellings hasc⟩
  · rw [if_neg hasc]
    by_cases hdesc : text.toLower ∈ desc.spellings
    · rw [if_pos hdesc, Option.some.injEq]
      exact ⟨fun h => h ▸ hdesc, eq_of_mem_spellings hdesc⟩
    · rw [if_neg hdesc]
      cases d with
      | asc => simp [hasc]
      | desc => simp [hdesc]

/-- The number for a direction has no other case, as it is written. -/
theorem sameIgnoringCase_sign_iff {text : String} {d : Direction} :
    SameIgnoringCase text (toString d.sign) ↔ text = toString d.sign := by
  have hsign : (toString d.sign).toList.all fun c => !c.isAlpha := by
    cases d <;> decide
  constructor
  · intro h
    refine String.toList_inj.mp (eq_of_forall₂_sameLetter h ?_)
    simpa using hsign
  · rintro rfl
    exact List.forall₂_same.mpr fun _ _ => .inl rfl

theorem ofString?_eq_some_iff {text : String} {d : Direction} :
    ofString? text = some d ↔ text = toString d.sign ∨ ∃ w ∈ d.words, SameIgnoringCase text w := by
  have hlower : ∀ w ∈ d.spellings, text.toLower = w ↔ SameIgnoringCase text w := fun w hw =>
    toLower_eq_iff_sameIgnoringCase fun _ hc => (char_of_mem_spellings hw hc).1
  -- the spellings are the number and the words, and the number has no other case
  rw [ofString?_eq_some_iff_mem]
  rw [spellings_eq] at hlower ⊢
  rw [List.mem_cons, hlower _ List.mem_cons_self, sameIgnoringCase_sign_iff]
  refine or_congr_right ⟨?_, ?_⟩
  · intro hmem
    exact ⟨_, hmem, (hlower _ (List.mem_cons_of_mem _ hmem)).mp rfl⟩
  · rintro ⟨w, hw, h⟩
    rwa [(hlower w (List.mem_cons_of_mem _ hw)).mpr h]

/-- No word starts with anything but a letter. -/
theorem not_sameIgnoringCase_of_cons {c : Char} {cs : List Char} (hc : c.isAlpha = false)
    {d : Direction} {w : String} (hw : w ∈ d.words) :
    ¬ SameIgnoringCase (String.ofList (c :: cs)) w := by
  have hletter : d.words.all fun w => w.toList.head?.all Char.isAlpha := by
    cases d <;> decide
  intro h
  rw [SameIgnoringCase, String.toList_ofList] at h
  obtain ⟨c', cs', hsame, _, hlist⟩ := List.forall₂_cons_left_iff.mp h
  have hc' : c'.isAlpha = true := by
    simpa [hlist] using List.all_eq_true.mp hletter w hw
  rcases hsame with rfl | ⟨hc'', _⟩
  · rw [hc] at hc'
    cases hc'
  · rw [hc] at hc''
    cases hc''

/-- What starts like a number gives a direction only if it is one or minus one. -/
theorem ofString?_ofList_cons {c : Char} {cs : List Char} (hc : c.isDigit ∨ c = '-')
    {d : Direction} :
    ofString? (String.ofList (c :: cs)) = some d ↔ String.ofList (c :: cs) = toString d.sign := by
  have hletter : c.isAlpha = false := by
    rw [← Bool.not_eq_true, isAlpha_iff_toNat]
    rcases hc with hdigit | rfl
    · have hbounds : 48 ≤ c.toNat ∧ c.toNat ≤ 57 := Char.isDigit_iff_toNat.mp hdigit
      omega
    · decide
  rw [ofString?_eq_some_iff]
  constructor
  · rintro (heq | ⟨w, hw, h⟩)
    · exact heq
    · exact absurd h (not_sameIgnoringCase_of_cons hletter hw)
  · exact .inl

/-- The texts of the other values give none. -/
theorem ofString?_eq_none {text : String}
    (h : text ∈ ["null", "true", "false", "array", "object"]) : ofString? text = none := by
  have hlower : ["null", "true", "false", "array", "object"].all
      fun t => t.toList.all fun c => !c.isUpper := by decide
  have hspellings : ∀ t ∈ ["null", "true", "false", "array", "object"],
      t ∉ asc.spellings ∧ t ∉ desc.spellings := by decide
  have hself : text.toLower = text := by
    apply toLower_eq_self
    simpa using List.all_eq_true.mp hlower text h
  rw [ofString?, hself, if_neg (hspellings text h).1, if_neg (hspellings text h).2]

end Direction

theorem Number.text_eq_null_or (n : Number) :
    n.text = "null" ∨ ∃ c cs, n.text = String.ofList (c :: cs) ∧ (c.isDigit ∨ c = '-') := by
  have htoken : n.IsFinite → ∃ c cs, n.text = String.ofList (c :: cs) ∧ (c.isDigit ∨ c = '-') := by
    intro h
    obtain ⟨t, ht⟩ := h.exists_token
    obtain ⟨c, cs, hchars, hc⟩ := t.exists_cons_text
    exact ⟨c, cs, by rw [ht, hchars], hc⟩
  cases n with
  | signed n => exact .inr (htoken trivial)
  | unsigned n => exact .inr (htoken trivial)
  | double x =>
    cases x with
    | nan => exact .inl rfl
    | infinite _ => exact .inl rfl
    | finite negative x => exact .inr (htoken rfl)

namespace Direction

theorem ofString?_number {n : Number} {d : Direction} :
    ofString? n.text = some d ↔ n.toRat? = some (d.sign : ℚ) := by
  rw [Number.toRat?_eq_some_iff_text d.natAbs_sign]
  rcases n.text_eq_null_or with hnull | ⟨c, cs, htext, hc⟩
  · rw [hnull, ofString?_eq_none (by decide)]
    exact ⟨fun h => (nomatch h), fun h => absurd h.symm (toString_ne_null d.sign)⟩
  · rw [htext, ofString?_ofList_cons hc]

theorem ofString?_date {t : Timestamp} {d : Direction} :
    ofString? t.text = some d ↔ t.millis.toInt = d.sign := by
  have hnumber : ofString? t.text = some d ↔ some (t.millis.toInt : ℚ) = some (d.sign : ℚ) :=
    ofString?_number (n := .signed t.millis)
  rw [hnumber, Option.some.injEq, Int.cast_inj]

/-- What a value reads like gives the direction that the value gives. -/
theorem ofString?_valueText {v : Value} {d : Direction} :
    ofString? (valueText v) = some d ↔ d.IsGivenBy v := by
  cases v with
  | string s =>
    rw [valueText, ofString?_eq_some_iff]
    constructor
    · rintro (rfl | ⟨w, hw, h⟩)
      · exact .numeral
      · exact .word hw h
    · intro h
      cases h with
      | numeral => exact .inl rfl
      | word hw h => exact .inr ⟨_, hw, h⟩
  | number n =>
    rw [valueText, ofString?_number]
    exact ⟨.number, fun | .number h => h⟩
  | date t =>
    rw [valueText, ofString?_date]
    exact ⟨.date, fun | .date h => h⟩
  | bool b =>
    have hnone : ofString? (valueText (.bool b)) = none :=
      ofString?_eq_none (by cases b <;> decide)
    rw [hnone]
    exact ⟨nofun, nofun⟩
  | null =>
    have hnone : ofString? (valueText .null) = none :=
      ofString?_eq_none (show "null" ∈ _ by decide)
    rw [hnone]
    exact ⟨nofun, nofun⟩
  | array items =>
    have hnone : ofString? (valueText (.array items)) = none :=
      ofString?_eq_none (show "array" ∈ _ by decide)
    rw [hnone]
    exact ⟨nofun, nofun⟩
  | object fields =>
    have hnone : ofString? (valueText (.object fields)) = none :=
      ofString?_eq_none (show "object" ∈ _ by decide)
    rw [hnone]
    exact ⟨nofun, nofun⟩

theorem ofValue_eq_ok_iff {v : Value} {d : Direction} : ofValue v = .ok d ↔ d.IsGivenBy v := by
  rw [← ofString?_valueText, ofValue]
  cases ofString? (valueText v) with
  | none => exact ⟨nofun, nofun⟩
  | some d' => rw [Except.ok.injEq, Option.some.injEq]

theorem ofValue_eq_error_iff {v : Value} {e : QueryError} :
    ofValue v = .error e ↔ (∀ d : Direction, ¬ d.IsGivenBy v) ∧
      e = .invalidDirection (valueText v) := by
  simp only [← ofString?_valueText, ofValue]
  cases ofString? (valueText v) with
  | none => simp [eq_comm]
  | some d' => simp

end Direction

/-! ### Letters of other alphabets -/

/-- A conversion to lower case by Unicode. A letter may be lowered by what stands around it, and
    to more than one character. Of the characters beyond ASCII only two become ASCII letters:
    the Kelvin sign, and a capital i with a dot, which keeps its dot. -/
structure Lowercasing where
  /-- The lower case of a character, given what stands before it and after it. -/
  lower : List Char → Char → List Char → List Char
  ascii : ∀ before c after, c.toNat < 128 → lower before c after = [c.toLower]
  kelvin : ∀ before after, lower before '\u212A' after = ['k']
  dotted : ∀ before after, lower before '\u0130' after = ['i', '\u0307']
  other : ∀ before c after, 128 ≤ c.toNat → c ≠ '\u212A' → c ≠ '\u0130' →
    lower before c after ≠ [] ∧ ∀ d ∈ lower before c after, 128 ≤ d.toNat

namespace Lowercasing

variable (l : Lowercasing)

/-- The lower case of characters that stand behind others. -/
def lowerAll (before : List Char) : List Char → List Char
  | [] => []
  | c :: after => l.lower before c after ++ lowerAll (before ++ [c]) after

/-- The lower case of a text. -/
def text (s : String) : String := String.ofList (l.lowerAll [] s.toList)

/-- No character beyond ASCII comes to nothing but what the spellings of directions have. -/
theorem exists_mem_lower (before after : List Char) {c : Char} (hc : 128 ≤ c.toNat) :
    ∃ d ∈ l.lower before c after, 128 ≤ d.toNat ∨ d = 'k' := by
  by_cases hkelvin : c = '\u212A'
  · rw [hkelvin, l.kelvin]
    exact ⟨'k', List.mem_singleton_self _, .inr rfl⟩
  by_cases hdotted : c = '\u0130'
  · rw [hdotted, l.dotted]
    exact ⟨'\u0307', by decide, .inl (by decide)⟩
  obtain ⟨hne, hall⟩ := l.other before c after hc hkelvin hdotted
  obtain ⟨d, hd⟩ := List.exists_mem_of_ne_nil _ hne
  exact ⟨d, hd, .inl (hall d hd)⟩

/-- For a text of ASCII characters without a k it is the same to lower other letters too. -/
theorem lowerAll_eq_iff {ds : List Char} (hds : ∀ d ∈ ds, d.toNat < 128 ∧ d ≠ 'k')
    (before cs : List Char) : l.lowerAll before cs = ds ↔ cs.map Char.toLower = ds := by
  induction cs generalizing before ds with
  | nil => rfl
  | cons c cs ih =>
    rw [lowerAll, List.map_cons]
    by_cases hc : c.toNat < 128
    · -- a character of ASCII is lowered to one character, whatever stands around it
      rw [l.ascii before c cs hc, List.singleton_append]
      cases ds with
      | nil => simp
      | cons d ds =>
        rw [List.forall_mem_cons] at hds
        rw [List.cons.injEq, List.cons.injEq, ih hds.2]
    · -- one beyond ASCII leaves a character that the text does not have, on either side
      have hbeyond : 128 ≤ c.toNat := not_lt.mp hc
      constructor
      · rintro rfl
        obtain ⟨d, hd, hstrange⟩ := l.exists_mem_lower before cs hbeyond
        have hplain := hds d (List.mem_append_left _ hd)
        rcases hstrange with hlarge | rfl
        · omega
        · exact absurd rfl hplain.2
      · rintro rfl
        have hplain := (hds c.toLower List.mem_cons_self).1
        have hupper : ¬ c.isUpper := by
          rw [isUpper_iff_toNat]
          omega
        rw [toNat_toLower, if_neg hupper] at hplain
        omega

end Lowercasing

namespace Direction

/-- The direction of a value, when its text is lowered by Unicode. -/
def ofLowered (l : Lowercasing) (v : Value) : Except QueryError Direction :=
  if l.text (valueText v) ∈ asc.spellings then .ok asc
  else if l.text (valueText v) ∈ desc.spellings then .ok desc
  else .error (.invalidDirection (valueText v))

theorem lowered_mem_spellings_iff (l : Lowercasing) (s : String) (d : Direction) :
    l.text s ∈ d.spellings ↔ s.toLower ∈ d.spellings := by
  have hsame : ∀ w ∈ d.spellings, l.text s = w ↔ s.toLower = w := by
    intro w hw
    rw [Lowercasing.text, ← String.toList_inj, ← String.toList_inj, String.toList_ofList,
      toList_toLower]
    exact l.lowerAll_eq_iff (fun _ hc => (char_of_mem_spellings hw hc).2) [] s.toList
  constructor
  · intro h
    rwa [(hsame _ h).mp rfl]
  · intro h
    rwa [(hsame _ h).mpr rfl]

/-- It is the direction of the value. -/
theorem ofLowered_eq (l : Lowercasing) (v : Value) : ofLowered l v = ofValue v := by
  unfold ofLowered ofValue ofString?
  simp only [lowered_mem_spellings_iff]
  split
  · rfl
  · split <;> rfl

/-- A word gives its direction in any case. -/
theorem isGivenBy_of_map_toLower {d : Direction} {s w : String} (hw : w ∈ d.words)
    (h : s.toList.map Char.toLower = w.toList) : d.IsGivenBy (.string s) := by
  have hspelling : w ∈ d.spellings := by
    rw [spellings_eq]
    exact List.mem_cons_of_mem _ hw
  exact .word hw ((map_toLower_eq_iff fun _ hc => (char_of_mem_spellings hspelling hc).1).mp h)

/-- A text that gives a direction has no character beyond ASCII. -/
theorem IsGivenBy.toNat_lt {d : Direction} {s : String} (h : d.IsGivenBy (.string s)) {c : Char}
    (hc : c ∈ s.toList) : c.toNat < 128 := by
  have hspelling : s.toLower ∈ d.spellings :=
    ofString?_eq_some_iff_mem.mp (ofString?_valueText.mpr h)
  have hlower : c.toLower ∈ s.toLower.toList := by
    rw [toList_toLower]
    exact List.mem_map_of_mem hc
  have hlt := (char_of_mem_spellings hspelling hlower).2.1
  rw [toNat_toLower] at hlt
  split at hlt <;> omega

/-- The directions are read from the values that give them and from no others. -/
theorem ofValue_exact :
    -- a value is read to a direction just if it gives this direction
    (∀ (v : Value) (d : Direction), ofValue v = .ok d ↔ d.IsGivenBy v) ∧
    -- if it gives none, the error keeps its text
    (∀ (v : Value) (e : QueryError), ofValue v = .error e ↔
      (∀ d : Direction, ¬ d.IsGivenBy v) ∧ e = .invalidDirection (valueText v)) ∧
    -- which is the string itself, the text of the number or of the date, or a name
    (∀ s, valueText (.string s) = s) ∧ (∀ n, valueText (.number n) = n.text) ∧
    (∀ t, valueText (.date t) = toString t.millis.toInt) ∧
    valueText .null = "null" ∧ valueText (.bool true) = "true" ∧
    valueText (.bool false) = "false" ∧ (∀ items, valueText (.array items) = "array") ∧
    (∀ fields, valueText (.object fields) = "object") ∧
    -- no string with a character beyond ASCII gives a direction
    (∀ (s : String) (c : Char), c ∈ s.toList → 128 ≤ c.toNat →
      ofValue (.string s) = .error (.invalidDirection s)) ∧
    -- and no number but one and minus one, however close it is
    (∀ n : Number, (∀ d : Direction, n.toRat? ≠ some (d.sign : ℚ)) →
      ofValue (.number n) = .error (.invalidDirection n.text)) ∧
    -- it makes no difference if the letters beyond ASCII are lowered too
    (∀ (l : Lowercasing) (v : Value), ofLowered l v = ofValue v) := by
  refine ⟨fun _ _ => ofValue_eq_ok_iff, fun _ _ => ofValue_eq_error_iff, fun _ => rfl, fun _ => rfl,
    ?_, rfl, rfl, rfl, fun _ => rfl, fun _ => rfl, ?_, ?_, ofLowered_eq⟩
  · intro t
    exact integerText_eq_toString t.millis.toInt
  · intro s c hc hbeyond
    refine ofValue_eq_error_iff.mpr ⟨?_, rfl⟩
    intro d h
    have hascii := h.toNat_lt hc
    omega
  · intro n hvalue
    refine ofValue_eq_error_iff.mpr ⟨?_, rfl⟩
    rintro d (_ | _ | h)
    exact hvalue d h

end Direction

/-- A conversion that lowers no letter beyond ASCII but the two that become ASCII letters. -/
def Lowercasing.least : Lowercasing where
  lower _ c _ :=
    if c = '\u212A' then ['k'] else if c = '\u0130' then ['i', '\u0307'] else [c.toLower]
  ascii := by
    intro _ c _ hc
    have hkelvin : c ≠ '\u212A' := by
      rintro rfl
      exact absurd hc (by decide)
    have hdotted : c ≠ '\u0130' := by
      rintro rfl
      exact absurd hc (by decide)
    rw [if_neg hkelvin, if_neg hdotted]
  kelvin _ _ := rfl
  dotted _ _ := rfl
  other := by
    intro _ c _ hc hkelvin hdotted
    have hupper : ¬ c.isUpper := by
      rw [isUpper_iff_toNat]
      omega
    rw [if_neg hkelvin, if_neg hdotted]
    refine ⟨List.cons_ne_nil _ _, ?_⟩
    intro d hd
    rw [List.mem_singleton.mp hd, toNat_toLower, if_neg hupper]
    exact hc

/-- A word in mixed case, a word with a dotted capital that is lowered to an i, and the double
    next to one. -/
theorem Direction.ofValue_exact_near_misses :
    let aboveOne : Double := .finite false
      { significand := 4503599627370497, exponent := 1022, significand_lt := by decide,
        full := .inl (by decide), exponent_le := by decide }
    ofValue (.string "DescENDing") = .ok .desc ∧
    ofLowered .least (.string "ASCEND\u0130NG") = .error (.invalidDirection "ASCEND\u0130NG") ∧
    ofValue (.number (.double aboveOne)) = .error (.invalidDirection "1.0000000000000002") := by
  intro aboveOne
  obtain ⟨hok, _, _, _, _, _, _, _, _, _, hascii, hnumber, hlowered⟩ := ofValue_exact
  refine ⟨?_, ?_, ?_⟩
  · exact (hok _ _).mpr (isGivenBy_of_map_toLower (w := "descending") (by decide) (by decide))
  · rw [hlowered]
    exact hascii _ '\u0130' (by decide) (by decide)
  · have htext : aboveOne.text = "1.0000000000000002" := by decide +kernel
    rw [← htext]
    apply hnumber
    intro d h
    have hsign : aboveOne.text = toString d.sign := Double.text_of_toRat? h d.natAbs_sign
    rw [htext] at hsign
    cases d <;> exact absurd hsign (by decide)

end SearchQuery
