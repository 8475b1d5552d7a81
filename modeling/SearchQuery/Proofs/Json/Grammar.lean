import Mathlib.Data.List.DropRight
import SearchQuery.Proofs.Text.NumberToken
import SearchQuery.Proofs.Text.Quoted

/-! # The grammar of JSON

  `RawJson.IsText` says which texts a written value has: number tokens, quoted strings, and
  arrays and objects with commas between their parts and white space where it is allowed.
  Strings are written with the escapes that they need and no others.

  The reader takes such a text off the front of any text that does not go on with a number,
  and gives back the value that was written. The number of steps that it is given, twice the
  length of the text, is enough: going into an array or an object takes one step that reads
  its bracket and one that reads nothing.
-/

namespace SearchQuery

namespace RawJson

/-! ### Grammar -/

/-- Whether a text is white space, or nothing at all. -/
def AreBlank (text : List Char) : Prop := ∀ c ∈ text, isBlank c

/-- The texts of the name of a member, with the colon after it. -/
inductive IsLabel (name : List Char) : List Char → Prop where
  | mk {before after : List Char} (hbefore : AreBlank before) (hafter : AreBlank after) :
      IsLabel name (before ++ (Quoted.quote name ++ (after ++ [':'])))

mutual

/-- The texts of a value, with white space in front or without. -/
inductive IsText : RawJson → List Char → Prop where
  | blank {c : Char} (hc : isBlank c) {raw : RawJson} {text : List Char} (h : IsText raw text) :
      IsText raw (c :: text)
  | null : IsText .null ['n', 'u', 'l', 'l']
  | true : IsText (.bool true) ['t', 'r', 'u', 'e']
  | false : IsText (.bool false) ['f', 'a', 'l', 's', 'e']
  | number (t : NumberToken) : IsText (.number t.numeral) t.text
  | string (s : List Char) : IsText (.string (s.map Quoted.pieceOf)) (Quoted.quote s)
  | emptyArray {blanks : List Char} (h : AreBlank blanks) :
      IsText (.array []) ('[' :: (blanks ++ [']']))
  | array {items : List RawJson} {text : List Char} (h : AreItems items text) :
      IsText (.array items) ('[' :: text)
  | emptyObject {blanks : List Char} (h : AreBlank blanks) :
      IsText (.object []) ('{' :: (blanks ++ ['}']))
  | object {members : List (List Quoted.Piece × RawJson)} {text : List Char}
      (h : AreMembers members text) : IsText (.object members) ('{' :: text)

/-- The texts of the items of an array that is not empty, with its closing bracket. -/
inductive AreItems : List RawJson → List Char → Prop where
  | last {item : RawJson} {text blanks : List Char} (h : IsText item text)
      (hblanks : AreBlank blanks) : AreItems [item] (text ++ (blanks ++ [']']))
  | cons {item : RawJson} {items : List RawJson} {text blanks more : List Char}
      (h : IsText item text) (hblanks : AreBlank blanks) (hs : AreItems items more) :
      AreItems (item :: items) (text ++ (blanks ++ ',' :: more))

/-- The texts of the members of an object that is not empty, with its closing brace. -/
inductive AreMembers : List (List Quoted.Piece × RawJson) → List Char → Prop where
  | last {name label : List Char} {value : RawJson} {text blanks : List Char}
      (hlabel : IsLabel name label) (h : IsText value text) (hblanks : AreBlank blanks) :
      AreMembers [(name.map Quoted.pieceOf, value)] (label ++ (text ++ (blanks ++ ['}'])))
  | cons {name label : List Char} {value : RawJson}
      {members : List (List Quoted.Piece × RawJson)} {text blanks more : List Char}
      (hlabel : IsLabel name label) (h : IsText value text) (hblanks : AreBlank blanks)
      (hs : AreMembers members more) :
      AreMembers ((name.map Quoted.pieceOf, value) :: members)
        (label ++ (text ++ (blanks ++ ',' :: more)))

end

/-! ### White space -/

theorem skipBlank_cons {c : Char} (hc : isBlank c = false) (rest : List Char) :
    skipBlank (c :: rest) = c :: rest :=
  List.dropWhile_cons_of_neg (by simp [hc])

theorem skipBlank_append {blanks : List Char} (h : AreBlank blanks) (rest : List Char) :
    skipBlank (blanks ++ rest) = skipBlank rest :=
  List.dropWhile_append_of_pos h

/-- White space before a sign does not hide it. -/
theorem skipBlank_append_cons {blanks : List Char} (h : AreBlank blanks) {c : Char}
    (hc : isBlank c = false) (rest : List Char) : skipBlank (blanks ++ c :: rest) = c :: rest := by
  rw [skipBlank_append h, skipBlank_cons hc]

theorem skipBlank_idempotent (text : List Char) : skipBlank (skipBlank text) = skipBlank text :=
  List.dropWhile_idempotent _ _

/-- White space goes on with no number, and neither does a sign that stands after values. -/
theorem ends_append {blanks : List Char} (h : AreBlank blanks) {rest : List Char}
    (hrest : NumberToken.Ends rest) : NumberToken.Ends (blanks ++ rest) := by
  intro c hc
  cases blanks with
  | nil => exact hrest c hc
  | cons b blanks =>
    obtain rfl : b = c := by simpa using hc
    have hb := h b List.mem_cons_self
    simp only [isBlank, Bool.or_eq_true, decide_eq_true_eq] at hb
    rcases hb with ((rfl | rfl) | rfl) | rfl <;> decide

theorem ends_cons {c : Char} (hc : c ∈ [',', ']', '}']) (rest : List Char) :
    NumberToken.Ends (c :: rest) := by
  intro d hd
  obtain rfl : c = d := by simpa using hd
  simp only [List.mem_cons, List.not_mem_nil, or_false] at hc
  rcases hc with rfl | rfl | rfl <;> decide

theorem readValue_skipBlank (steps : Nat) (text : List Char) :
    readValue steps (skipBlank text) = readValue steps text := by
  cases steps with
  | zero => rfl
  | succ steps =>
    unfold readValue
    rw [skipBlank_idempotent]

theorem readValue_blank {c : Char} (hc : isBlank c) (steps : Nat) (text : List Char) :
    readValue steps (c :: text) = readValue steps text := by
  have hskip : skipBlank (c :: text) = skipBlank text := List.dropWhile_cons_of_pos hc
  rw [← readValue_skipBlank, hskip, readValue_skipBlank]

theorem readItems_skipBlank (steps : Nat) (text : List Char) :
    readItems steps (skipBlank text) = readItems steps text := by
  cases steps with
  | zero => rfl
  | succ steps =>
    unfold readItems
    rw [readValue_skipBlank]

theorem readMembers_skipBlank (steps : Nat) (text : List Char) :
    readMembers steps (skipBlank text) = readMembers steps text := by
  cases steps with
  | zero => rfl
  | succ steps =>
    unfold readMembers
    rw [skipBlank_idempotent]

/-! ### Reading -/

/-- A text of a value does not start with a closing bracket. -/
theorem IsText.skipBlank_ne {raw : RawJson} {text : List Char} (h : raw.IsText text)
    (rest rest' : List Char) : skipBlank (text ++ rest) ≠ ']' :: rest' := by
  match h with
  | .blank hc h =>
    rw [List.cons_append, skipBlank, List.dropWhile_cons_of_pos hc]
    exact h.skipBlank_ne rest rest'
  | .number t =>
    rw [t.skipBlank_text]
    exact t.text_append_ne_cons (by decide) _ _
  | .null | .true | .false | .string _ | .emptyArray _ | .array _ | .emptyObject _ | .object _ =>
    intro heq
    exact absurd (List.cons.inj heq).1 (by decide)

theorem AreItems.skipBlank_ne {items : List RawJson} {text : List Char} (h : AreItems items text)
    (rest rest' : List Char) : skipBlank (text ++ rest) ≠ ']' :: rest' := by
  cases h with
  | last h hblanks =>
    rw [List.append_assoc]
    exact h.skipBlank_ne _ _
  | cons h hblanks hs =>
    rw [List.append_assoc]
    exact h.skipBlank_ne _ _

/-- A label is read to the pieces of the name, and its colon. -/
theorem IsLabel.read_skipBlank {name label : List Char} (h : IsLabel name label)
    (rest : List Char) : ∃ rest', Quoted.read (skipBlank (label ++ rest)) =
      some (name.map Quoted.pieceOf, rest') ∧ skipBlank rest' = ':' :: rest := by
  cases h with
  | @mk before after hbefore hafter =>
    refine ⟨after ++ ':' :: rest, ?_, skipBlank_append_cons hafter (by decide) rest⟩
    have htext : before ++ (Quoted.quote name ++ (after ++ [':'])) ++ rest =
        before ++ '"' :: (name.flatMap Quoted.escape ++ '"' :: (after ++ ':' :: rest)) := by
      simp [Quoted.quote]
    rw [htext, skipBlank_append_cons hbefore (by decide)]
    exact Quoted.readBody_escaped name _

theorem IsLabel.skipBlank_ne {name label : List Char} (h : IsLabel name label)
    (rest rest' : List Char) : skipBlank (label ++ rest) ≠ '}' :: rest' := by
  obtain ⟨_, hread, -⟩ := h.read_skipBlank rest
  intro heq
  rw [heq] at hread
  cases hread

theorem AreMembers.skipBlank_ne {members : List (List Quoted.Piece × RawJson)} {text : List Char}
    (h : AreMembers members text) (rest rest' : List Char) :
    skipBlank (text ++ rest) ≠ '}' :: rest' := by
  cases h with
  | last hlabel h hblanks =>
    rw [List.append_assoc]
    exact hlabel.skipBlank_ne _ _
  | cons hlabel h hblanks hs =>
    rw [List.append_assoc]
    exact hlabel.skipBlank_ne _ _

/-- What follows an opening bracket is read as items, unless the array is empty. -/
theorem readValue_array (steps : Nat) {text : List Char}
    (h : ∀ rest, skipBlank text ≠ ']' :: rest) :
    readValue (steps + 1) ('[' :: text) =
      (readItems steps text).map fun (items, rest) => (array items, rest) := by
  rw [← readItems_skipBlank, readValue, skipBlank_cons (by decide)]
  simp only [Option.bind_eq_bind, Option.pure_def]
  cases readItems steps (skipBlank text) <;> rfl

/-- What follows an opening brace is read as members, unless the object is empty. -/
theorem readValue_object (steps : Nat) {text : List Char}
    (h : ∀ rest, skipBlank text ≠ '}' :: rest) :
    readValue (steps + 1) ('{' :: text) =
      (readMembers steps text).map fun (members, rest) => (object members, rest) := by
  rw [← readMembers_skipBlank, readValue, skipBlank_cons (by decide)]
  simp only [Option.bind_eq_bind, Option.pure_def]
  cases readMembers steps (skipBlank text) <;> rfl

mutual

/-- A text of a value is taken off the front of what does not go on with a number. -/
theorem IsText.readValue_append : ∀ {raw : RawJson} {text : List Char}, raw.IsText text →
    ∀ {rest : List Char}, NumberToken.Ends rest → ∀ {steps : Nat}, 2 * text.length ≤ steps →
    readValue steps (text ++ rest) = some (raw, rest)
  | _, _, .blank hc h, rest, hrest, steps, hsteps => by
    rw [List.length_cons] at hsteps
    rw [List.cons_append, readValue_blank hc]
    exact h.readValue_append hrest (by omega)
  | _, _, .null, rest, _, steps + 1, _ => rfl
  | _, _, .true, rest, _, steps + 1, _ => rfl
  | _, _, .false, rest, _, steps + 1, _ => rfl
  | _, _, .number t, rest, hrest, steps, hsteps => by
    obtain ⟨c, cs, htext, -⟩ := t.exists_cons_text
    rw [htext, List.length_cons] at hsteps
    obtain ⟨steps, rfl⟩ : ∃ n, steps = n + 1 := ⟨steps - 1, by omega⟩
    exact t.readValue_text steps hrest
  | _, _, .string s, rest, _, steps + 1, _ => by
    have hbody := Quoted.readBody_escaped s rest
    show (do
      let (pieces, rest) ← Quoted.readBody ((s.flatMap Quoted.escape ++ ['"']) ++ rest)
      return (string pieces, rest)) = _
    rw [List.append_assoc, List.singleton_append, hbody]
    rfl
  | _, _, .emptyArray h, rest, _, steps + 1, _ => by
    have hskip := skipBlank_append_cons h (by decide : isBlank ']' = false) rest
    rw [List.cons_append, List.append_assoc, List.singleton_append, readValue,
      skipBlank_cons (by decide)]
    simp only [hskip]
  | _, _, @IsText.array items text h, rest, _, steps + 1, hsteps => by
    rw [List.length_cons] at hsteps
    have hitems : readItems steps (text ++ rest) = some (items, rest) :=
      h.readItems_append (by omega)
    rw [List.cons_append, readValue_array steps (h.skipBlank_ne rest), hitems]
    rfl
  | _, _, .emptyObject h, rest, _, steps + 1, _ => by
    have hskip := skipBlank_append_cons h (by decide : isBlank '}' = false) rest
    rw [List.cons_append, List.append_assoc, List.singleton_append, readValue,
      skipBlank_cons (by decide)]
    simp only [hskip]
  | _, _, @IsText.object members text h, rest, _, steps + 1, hsteps => by
    rw [List.length_cons] at hsteps
    have hmembers : readMembers steps (text ++ rest) = some (members, rest) :=
      h.readMembers_append (by omega)
    rw [List.cons_append, readValue_object steps (h.skipBlank_ne rest), hmembers]
    rfl

theorem AreItems.readItems_append : ∀ {items : List RawJson} {text : List Char},
    AreItems items text → ∀ {rest : List Char} {steps : Nat}, 2 * text.length < steps →
    readItems steps (text ++ rest) = some (items, rest)
  | _, _, @AreItems.last item text blanks h hblanks, rest, steps + 1, hsteps => by
    simp only [List.length_append, List.length_cons] at hsteps
    have hlength : 2 * text.length ≤ steps := by omega
    have hends := ends_append hblanks (ends_cons (by decide : ']' ∈ _) rest)
    have hvalue := h.readValue_append hends hlength
    have hskip := skipBlank_append_cons hblanks (by decide : isBlank ']' = false) rest
    rw [List.append_assoc, List.append_assoc, List.singleton_append, readItems, hvalue]
    simp only [Option.bind_eq_bind, Option.bind_some, hskip]
    rfl
  | _, _, @AreItems.cons item items text blanks more h hblanks hs, rest, steps + 1, hsteps => by
    simp only [List.length_append, List.length_cons] at hsteps
    have hlength : 2 * text.length ≤ steps := by omega
    have hends := ends_append hblanks (ends_cons (by decide : ',' ∈ _) (more ++ rest))
    have hvalue := h.readValue_append hends hlength
    have hskip := skipBlank_append_cons hblanks (by decide : isBlank ',' = false) (more ++ rest)
    have hmore : readItems steps (more ++ rest) = some (items, rest) :=
      hs.readItems_append (by omega)
    rw [List.append_assoc, List.append_assoc, List.cons_append, readItems, hvalue]
    simp only [Option.bind_eq_bind, Option.bind_some, hskip, hmore]
    rfl

theorem AreMembers.readMembers_append : ∀ {members : List (List Quoted.Piece × RawJson)}
    {text : List Char}, AreMembers members text →
    ∀ {rest : List Char} {steps : Nat}, 2 * text.length < steps →
    readMembers steps (text ++ rest) = some (members, rest)
  | _, _, @AreMembers.last name label value text blanks hlabel h hblanks, rest, steps + 1, hsteps => by
    simp only [List.length_append, List.length_cons] at hsteps
    have hlength : 2 * text.length ≤ steps := by omega
    obtain ⟨rest', hname, hcolon⟩ := hlabel.read_skipBlank (text ++ (blanks ++ '}' :: rest))
    have hends := ends_append hblanks (ends_cons (by decide : '}' ∈ _) rest)
    have hvalue := h.readValue_append hends hlength
    have hskip := skipBlank_append_cons hblanks (by decide : isBlank '}' = false) rest
    rw [List.append_assoc, List.append_assoc, List.append_assoc, List.singleton_append, readMembers,
      hname]
    simp only [Option.bind_eq_bind, Option.bind_some, hcolon, hvalue, hskip]
    rfl
  | _, _, @AreMembers.cons name label value members text blanks more hlabel h hblanks hs, rest,
      steps + 1, hsteps => by
    simp only [List.length_append, List.length_cons] at hsteps
    have hlength : 2 * text.length ≤ steps := by omega
    obtain ⟨rest', hname, hcolon⟩ :=
      hlabel.read_skipBlank (text ++ (blanks ++ ',' :: (more ++ rest)))
    have hends := ends_append hblanks (ends_cons (by decide : ',' ∈ _) (more ++ rest))
    have hvalue := h.readValue_append hends hlength
    have hskip := skipBlank_append_cons hblanks (by decide : isBlank ',' = false) (more ++ rest)
    have hmore : readMembers steps (more ++ rest) = some (members, rest) :=
      hs.readMembers_append (by omega)
    rw [List.append_assoc, List.append_assoc, List.append_assoc, List.cons_append, readMembers,
      hname]
    simp only [Option.bind_eq_bind, Option.bind_some, hcolon, hvalue, hskip, hmore]
    rfl

end

/-- The texts of a document: those of a value, with white space around it. -/
def IsDocument (raw : RawJson) (text : String) : Prop :=
  ∃ front blanks, text.toList = front ++ blanks ∧ raw.IsText front ∧ AreBlank blanks

/-- A document is read to the value that was written. -/
theorem IsDocument.ofString?_eq {raw : RawJson} {text : String} (h : raw.IsDocument text) :
    ofString? text = some raw := by
  obtain ⟨front, blanks, htext, hfront, hblanks⟩ := h
  have hends : NumberToken.Ends blanks := by
    have happend := ends_append hblanks NumberToken.ends_nil
    rwa [List.append_nil] at happend
  have hread : readValue (2 * text.toList.length + 2) text.toList = some (raw, blanks) := by
    rw [htext]
    refine hfront.readValue_append hends ?_
    rw [List.length_append]
    omega
  have hrest : skipBlank blanks = [] := List.dropWhile_eq_nil_iff.mpr hblanks
  unfold ofString? ofList?
  rw [hread]
  simp [hrest]

end RawJson

end SearchQuery
