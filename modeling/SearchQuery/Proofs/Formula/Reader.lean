import SearchQuery.Proofs.Formula.Basic

/-! # Reading formulas

  A reader for the grammar of expressions, in two steps. A scanner cuts the text
  into parentheses, connectives and atoms: connectives are words between spaces, an
  atom may contain a string in quotes, in which nothing counts, and a call with its
  own parentheses. A machine with a stack of open groups then takes the tokens from
  left to right and puts the formula together.

  A proper formula whose leaves are scanned as atoms is read back from its text
  (`Formula.read?_text`), and so the text has no other reading
  (`Formula.text_injOn`).
-/

namespace SearchQuery

namespace Formula

/-! ### The scanner -/

inductive Token where
  | opening
  | closing
  | and
  | or
  | atom (text : List Char)
deriving DecidableEq, Repr

/-- Puts a character in front of the atom that the tokens start with; it is an atom of
    its own if they do not start with one. -/
def extend (c : Char) : List Token → List Token
  | .atom text :: tokens => .atom (c :: text) :: tokens
  | tokens => .atom [c] :: tokens

mutual

/-- Scans a text that starts where a factor is expected. -/
def scanFactor : List Char → List Token
  | [] => []
  | '(' :: rest => .opening :: scanFactor rest
  | c :: rest => extend c (scanRest rest)

/-- Scans a text that starts within an atom or behind a factor. -/
def scanRest : List Char → List Token
  | [] => []
  | ' ' :: 'A' :: 'N' :: 'D' :: ' ' :: rest => .and :: scanFactor rest
  | ' ' :: 'O' :: 'R' :: ' ' :: rest => .or :: scanFactor rest
  | ')' :: rest => .closing :: scanRest rest
  | '(' :: rest => extend '(' (scanCall rest)
  | '"' :: rest => extend '"' (scanString rest)
  | c :: rest => extend c (scanRest rest)

/-- Scans a text that starts within the parentheses of a call. -/
def scanCall : List Char → List Token
  | [] => []
  | ')' :: rest => extend ')' (scanRest rest)
  | c :: rest => extend c (scanCall rest)

/-- Scans a text that starts within a string. What follows a backslash is part of the
    string, whatever it is. -/
def scanString : List Char → List Token
  | [] => []
  | '"' :: rest => extend '"' (scanRest rest)
  | '\\' :: c :: rest => extend '\\' (extend c (scanString rest))
  | c :: rest => extend c (scanString rest)

end

/-! ### The machine -/

/-- A group that has not been closed: the alternatives that are complete, and the
    factors of the next one. -/
structure Frame where
  alternatives : Formula
  factors : Conjunction

namespace Frame

def push (frame : Frame) (factor : Factor) : Frame :=
  { frame with factors := frame.factors ++ [factor] }

/-- What the group would be if it were closed here. -/
def formula (frame : Frame) : Formula := frame.alternatives ++ [frame.factors]

def empty : Frame := ⟨[], []⟩

end Frame

/-- Where the machine stands. -/
structure Machine where
  frame : Frame
  /-- The groups around this one, the innermost first. -/
  outer : List Frame
  /-- Whether the next token must start a factor. -/
  expectsFactor : Bool

namespace Machine

def start : Machine := ⟨.empty, [], true⟩

/-- The machine after one more token, if the token may stand here. -/
def step : Machine → Token → Option Machine
  | ⟨frame, outer, true⟩, .opening => some ⟨.empty, frame :: outer, true⟩
  | ⟨frame, outer, true⟩, .atom text => some ⟨frame.push (.atom (String.ofList text)), outer, false⟩
  | ⟨frame, outer, false⟩, .and => some ⟨frame, outer, true⟩
  | ⟨frame, outer, false⟩, .or => some ⟨⟨frame.formula, []⟩, outer, true⟩
  | ⟨frame, up :: outer, false⟩, .closing => some ⟨up.push (.group frame.formula), outer, false⟩
  | _, _ => none

def run (machine : Machine) (tokens : List Token) : Option Machine :=
  tokens.foldlM step machine

/-- The formula that has been read, if it is complete. -/
def result? : Machine → Option Formula
  | ⟨frame, [], false⟩ => some frame.formula
  | _ => none

end Machine

/-- The formula that a text says. -/
def read? (text : String) : Option Formula :=
  (Machine.start.run (scanFactor text.toList)).bind Machine.result?

end Formula

/-! ### The tokens of a formula -/

open Formula (Token)

mutual

def Factor.tokens : Factor → List Token
  | .atom text => [.atom text.toList]
  | .group alternatives => .opening :: Formula.tokens alternatives ++ [.closing]

def Conjunction.tokens : Conjunction → List Token
  | [] => []
  | [factor] => factor.tokens
  | factor :: factors => factor.tokens ++ .and :: Conjunction.tokens factors

def Formula.tokens : Formula → List Token
  | [] => []
  | [conjunction] => Conjunction.tokens conjunction
  | conjunction :: conjunctions =>
    Conjunction.tokens conjunction ++ .or :: Formula.tokens conjunctions

end

/-! ### Scanning a formula -/

namespace Formula

/-- Whether no atom goes on where a text starts. -/
def EndsFactor (rest : List Char) : Prop :=
  ∀ text tokens, scanRest rest ≠ .atom text :: tokens

/-- Whether a text is scanned as one atom, whatever stands behind it. -/
def ScansAsAtom (text : String) : Prop :=
  ∀ rest, EndsFactor rest →
    scanFactor (text.toList ++ rest) = .atom text.toList :: scanRest rest

theorem endsFactor_nil : EndsFactor [] := by
  intro text tokens h
  cases h

theorem endsFactor_closing (rest : List Char) : EndsFactor (')' :: rest) := by
  intro text tokens h
  simp [scanRest] at h

theorem scanRest_and (rest : List Char) :
    scanRest (" AND ".toList ++ rest) = .and :: scanFactor rest := by
  simp [scanRest]

theorem scanRest_or (rest : List Char) :
    scanRest (" OR ".toList ++ rest) = .or :: scanFactor rest := by
  simp [scanRest]

theorem endsFactor_and (rest : List Char) : EndsFactor (" AND ".toList ++ rest) := by
  intro text tokens h
  rw [scanRest_and] at h
  cases h

theorem endsFactor_or (rest : List Char) : EndsFactor (" OR ".toList ++ rest) := by
  intro text tokens h
  rw [scanRest_or] at h
  cases h

end Formula

open Formula

mutual

/-- The text of a factor is scanned as its tokens. -/
theorem Factor.scan_text : ∀ (factor : Factor) (rest : List Char), factor.IsProper →
    (∀ leaf ∈ factor.leaves, ScansAsAtom leaf) → EndsFactor rest →
    scanFactor (factor.text.toList ++ rest) = factor.tokens ++ scanRest rest
  | .atom text, rest, _, hleaves, hrest => hleaves text (by simp [Factor.leaves]) rest hrest
  | .group alternatives, rest, hproper, hleaves, _ => by
    -- the closing parenthesis ends the last factor of the group
    have hinner := Formula.scan_text alternatives (')' :: rest) hproper hleaves
      (endsFactor_closing rest)
    have htext : (Factor.group alternatives).text.toList ++ rest =
        '(' :: (Formula.text alternatives).toList ++ ')' :: rest := by
      simp [Factor.text, Formula.text]
    rw [htext, List.cons_append, scanFactor, hinner]
    simp [Factor.tokens, scanRest]

theorem Conjunction.scan_text : ∀ (conjunction : Conjunction) (rest : List Char),
    conjunction ≠ [] → Conjunction.AreProper conjunction →
    (∀ leaf ∈ Conjunction.leaves conjunction, ScansAsAtom leaf) → EndsFactor rest →
    scanFactor ((Conjunction.text conjunction).toList ++ rest) =
      Conjunction.tokens conjunction ++ scanRest rest
  | [], _, hne, _, _, _ => absurd rfl hne
  | [factor], rest, _, hproper, hleaves, hrest => by
    have hfactor := Factor.scan_text factor rest hproper.1
      (fun leaf hleaf => hleaves leaf (by simp [Conjunction.leaves, hleaf])) hrest
    simpa [Conjunction.text, Conjunction.texts, Conjunction.tokens] using hfactor
  | factor :: next :: factors, rest, _, hproper, hleaves, hrest => by
    -- the connective ends the first factor, and what follows it starts another
    have hfactors := Conjunction.scan_text (next :: factors) rest (List.cons_ne_nil _ _)
      hproper.2
      (fun leaf hleaf => hleaves leaf (List.mem_append_right factor.leaves hleaf)) hrest
    have hfactor := Factor.scan_text factor
      (" AND ".toList ++ ((Conjunction.text (next :: factors)).toList ++ rest)) hproper.1
      (fun leaf hleaf => hleaves leaf (List.mem_append_left _ hleaf)) (endsFactor_and _)
    have htext : (Conjunction.text (factor :: next :: factors)).toList ++ rest =
        factor.text.toList ++
          (" AND ".toList ++ ((Conjunction.text (next :: factors)).toList ++ rest)) := by
      simp [Conjunction.text, Conjunction.texts]
    rw [htext, hfactor, scanRest_and, hfactors]
    simp [Conjunction.tokens]

theorem Formula.scan_text : ∀ (formula : Formula) (rest : List Char),
    Formula.IsProper formula →
    (∀ leaf ∈ Formula.leaves formula, ScansAsAtom leaf) → EndsFactor rest →
    scanFactor ((Formula.text formula).toList ++ rest) = Formula.tokens formula ++ scanRest rest
  | [], _, hproper, _, _ => absurd rfl hproper.1
  | [conjunction], rest, hproper, hleaves, hrest => by
    have hconjunction := Conjunction.scan_text conjunction rest hproper.2.1 hproper.2.2.1
      (fun leaf hleaf => hleaves leaf (by simp [Formula.leaves, hleaf])) hrest
    simpa [Formula.text_singleton, Formula.tokens] using hconjunction
  | conjunction :: next :: conjunctions, rest, hproper, hleaves, hrest => by
    have hconjunctions := Formula.scan_text (next :: conjunctions) rest
      ⟨List.cons_ne_nil _ _, hproper.2.2.2⟩
      (fun leaf hleaf => hleaves leaf (List.mem_append_right _ hleaf)) hrest
    have hconjunction := Conjunction.scan_text conjunction
      (" OR ".toList ++ ((Formula.text (next :: conjunctions)).toList ++ rest))
      hproper.2.1 hproper.2.2.1
      (fun leaf hleaf => hleaves leaf (List.mem_append_left _ hleaf)) (endsFactor_or _)
    have htext : (Formula.text (conjunction :: next :: conjunctions)).toList ++ rest =
        (Conjunction.text conjunction).toList ++
          (" OR ".toList ++ ((Formula.text (next :: conjunctions)).toList ++ rest)) := by
      simp [Formula.text, Formula.texts, Conjunction.text]
    rw [htext, hconjunction, scanRest_or, hconjunctions]
    simp [Formula.tokens]

end

/-! ### Running on a formula -/

namespace Formula.Machine

theorem run_append (machine : Machine) (tokens tokens' : List Token) :
    machine.run (tokens ++ tokens') = (machine.run tokens).bind fun m => m.run tokens' :=
  List.foldlM_append ..

end Formula.Machine

open Formula.Machine (run_append)

mutual

/-- The machine pushes a factor that it has read, wherever it stands. -/
theorem Factor.run_tokens : ∀ (factor : Factor) (frame : Frame) (outer : List Frame),
    factor.IsProper →
    Machine.run ⟨frame, outer, true⟩ factor.tokens = some ⟨frame.push factor, outer, false⟩
  | .atom text, frame, outer, _ => by
    show some (Machine.mk (frame.push (.atom (String.ofList text.toList))) outer false) = _
    rw [String.ofList_toList]
  | .group alternatives, frame, outer, hproper => by
    -- the group has a frame of its own while the frame around it waits on the stack
    obtain ⟨inner, hinner, hformula⟩ := Formula.run_tokens alternatives [] (frame :: outer) hproper
    have hopening : Machine.run ⟨frame, outer, true⟩ (.opening :: Formula.tokens alternatives) =
        some ⟨inner, frame :: outer, false⟩ := hinner
    rw [Factor.tokens, run_append, hopening]
    show some (Machine.mk (frame.push (.group inner.formula)) outer false) = _
    rw [hformula]
    rfl

theorem Conjunction.run_tokens : ∀ (conjunction : Conjunction) (frame : Frame)
    (outer : List Frame), conjunction ≠ [] → Conjunction.AreProper conjunction →
    Machine.run ⟨frame, outer, true⟩ (Conjunction.tokens conjunction) =
      some ⟨{ frame with factors := frame.factors ++ conjunction }, outer, false⟩
  | [], _, _, hne, _ => absurd rfl hne
  | [factor], frame, outer, _, hproper => Factor.run_tokens factor frame outer hproper.1
  | factor :: next :: factors, frame, outer, _, hproper => by
    have hfactors := Conjunction.run_tokens (next :: factors) (frame.push factor) outer
      (List.cons_ne_nil _ _) hproper.2
    rw [Conjunction.tokens, run_append, Factor.run_tokens factor frame outer hproper.1]
    · show Machine.run ⟨frame.push factor, outer, true⟩ (Conjunction.tokens (next :: factors)) = _
      rw [hfactors]
      simp [Frame.push]
    · simp

theorem Formula.run_tokens : ∀ (formula alternatives : Formula) (outer : List Frame),
    Formula.IsProper formula →
    ∃ frame, Machine.run ⟨⟨alternatives, []⟩, outer, true⟩ (Formula.tokens formula) =
      some ⟨frame, outer, false⟩ ∧ frame.formula = alternatives ++ formula
  | [], _, _, hproper => absurd rfl hproper.1
  | [conjunction], alternatives, outer, hproper =>
    ⟨⟨alternatives, conjunction⟩,
      Conjunction.run_tokens conjunction ⟨alternatives, []⟩ outer hproper.2.1 hproper.2.2.1, rfl⟩
  | conjunction :: next :: conjunctions, alternatives, outer, hproper => by
    -- the connective completes the first alternative; the last one stays open
    obtain ⟨frame, hframe, hformula⟩ := Formula.run_tokens (next :: conjunctions)
      (alternatives ++ [conjunction]) outer ⟨List.cons_ne_nil _ _, hproper.2.2.2⟩
    refine ⟨frame, ?_, by simp [hformula]⟩
    rw [Formula.tokens, run_append,
      Conjunction.run_tokens conjunction _ outer hproper.2.1 hproper.2.2.1]
    · exact hframe
    · simp

end

/-! ### Reading back -/

/-- A proper formula is read back from its text. -/
theorem Formula.read?_text {formula : Formula} (hproper : Formula.IsProper formula)
    (hleaves : ∀ leaf ∈ Formula.leaves formula, ScansAsAtom leaf) :
    Formula.read? (Formula.text formula) = some formula := by
  have hscan := Formula.scan_text formula [] hproper hleaves endsFactor_nil
  obtain ⟨frame, hrun, hformula⟩ := Formula.run_tokens formula [] [] hproper
  -- behind the whole text nothing is left to scan
  have htokens : scanFactor (Formula.text formula).toList = Formula.tokens formula := by
    simpa [scanRest] using hscan
  unfold Formula.read?
  rw [htokens]
  show (Machine.run ⟨⟨[], []⟩, [], true⟩ (Formula.tokens formula)).bind Machine.result? = _
  rw [hrun]
  show some frame.formula = _
  rw [hformula]
  rfl

example : Formula.read? "(a = 1 OR b = \") AND (\") AND c = 3 OR d = 4" =
    some [[.group [[.atom "a = 1"], [.atom "b = \") AND (\""]], .atom "c = 3"],
      [.atom "d = 4"]] := by
  rfl

/-- Proper formulas with the same text are the same formula. -/
theorem Formula.text_injOn {formula formula' : Formula} (hproper : Formula.IsProper formula)
    (hproper' : Formula.IsProper formula')
    (hleaves : ∀ leaf ∈ Formula.leaves formula, ScansAsAtom leaf)
    (hleaves' : ∀ leaf ∈ Formula.leaves formula', ScansAsAtom leaf)
    (h : Formula.text formula = Formula.text formula') : formula = formula' := by
  have hread := Formula.read?_text hproper hleaves
  rw [h, Formula.read?_text hproper' hleaves'] at hread
  exact (Option.some.inj hread).symm

end SearchQuery
