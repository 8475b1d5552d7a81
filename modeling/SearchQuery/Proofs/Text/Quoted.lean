import SearchQuery.Json.Quoted

/-! # Quoted strings are read back

  A quoted string ends where it says it ends: `Quoted.read_quote` reads a quoted
  text off the front of any other text, leaves that other text, and the pieces
  stand for the characters that were quoted. So two texts that start with quoted
  strings are equal only if the strings are, and what follows them too.
-/

namespace SearchQuery

namespace Quoted

/-! ### One character -/

/-- The piece that an escaped character is read as. Characters below the space that
    have no short escape are given by number. -/
def pieceOf (c : Char) : Piece :=
  if c = '\x08' ∨ c = '\x0c' ∨ c = '\n' ∨ c = '\r' ∨ c = '\t' then .char c
  else if c.toNat < 32 then .unit c.toNat
  else .char c

theorem hexValue?_hexDigit : ∀ n, n < 16 → hexValue? (hexDigit n) = some n := by
  decide

/-- The four digits that follow `\u` give back the number of the character. -/
theorem hexUnit?_hexDigit {n : Nat} (h : n < 32) :
    hexUnit? '0' '0' (hexDigit (n / 16)) (hexDigit (n % 16)) = some n := by
  have hhigh := hexValue?_hexDigit (n / 16) (by omega)
  have hlow := hexValue?_hexDigit (n % 16) (by omega)
  have hzero : hexValue? '0' = some 0 := by decide
  simp only [hexUnit?, hhigh, hlow, hzero, bind, Option.bind, pure]
  congr 1
  omega

/-- A character that needs no escape is read as itself. -/
theorem readBody_cons {c : Char} (hquote : c ≠ '"') (hslash : c ≠ '\\') (h : ¬ c.toNat < 32)
    (rest : List Char) :
    readBody (c :: rest) = (readBody rest).map fun (pieces, rest) => (.char c :: pieces, rest) := by
  rw [readBody.eq_def]
  split
  case h_5 heq =>
    obtain ⟨rfl, rfl⟩ := List.cons.inj heq
    rw [if_neg (by simp [h, hslash])]
    cases readBody rest <;> rfl
  all_goals simp_all

/-- A short escape is read as the character that it stands for. -/
theorem readBody_short {c d : Char} (hunit : c ≠ 'u') (h : shortEscape? c = some d)
    {rest : List Char} :
    readBody ('\\' :: c :: rest) =
      (readBody rest).map fun (pieces, rest) => (.char d :: pieces, rest) := by
  rw [readBody, h]
  · cases readBody rest <;> rfl
  · intro _ _ _ _ _ heq
    exact absurd heq hunit

/-- Whatever a character is written as is read as one piece. -/
theorem readBody_escape (c : Char) (rest : List Char) :
    readBody (escape c ++ rest) =
      (readBody rest).map fun (pieces, rest) => (pieceOf c :: pieces, rest) := by
  unfold escape
  split
  case h_8 hquote hslash hb hf hn hr ht =>
    split
    · -- a control character without a short escape
      next h =>
      have hunit := hexUnit?_hexDigit h
      have hpiece : pieceOf c = .unit c.toNat := by simp_all [pieceOf]
      simp only [List.cons_append, List.nil_append, readBody, hunit, hpiece]
      cases readBody rest <;> rfl
    · next h =>
      have hpiece : pieceOf c = .char c := by simp_all [pieceOf]
      rw [List.singleton_append, readBody_cons hquote hslash h, hpiece]
  all_goals exact readBody_short (by decide) rfl

/-! ### Texts -/

theorem readBody_escaped (text rest : List Char) :
    readBody (text.flatMap escape ++ '"' :: rest) = some (text.map pieceOf, rest) := by
  induction text with
  | nil => rfl
  | cons c text ih =>
    rw [List.flatMap_cons, List.append_assoc, readBody_escape, ih]
    rfl

/-- A piece that was written for a character stands for this character, whatever
    follows it: units below the space are no surrogates. -/
theorem decode?_cons_pieceOf (c : Char) (pieces : List Piece) :
    Piece.decode? (pieceOf c :: pieces) = (Piece.decode? pieces).map (c :: ·) := by
  unfold pieceOf
  split
  · simp [Piece.decode?]
  split
  · next h =>
    have hleading : Piece.isLeading c.toNat = false := by simp [Piece.isLeading]; omega
    have htrailing : Piece.isTrailing c.toNat = false := by simp [Piece.isTrailing]; omega
    match pieces with
    | [] => simp [Piece.decode?, hleading, htrailing]
    | .char d :: pieces => simp [Piece.decode?, hleading, htrailing]
    | .unit n :: pieces => simp [Piece.decode?, hleading, htrailing]
  · simp [Piece.decode?]

theorem decode?_map_pieceOf (text : List Char) :
    Piece.decode? (text.map pieceOf) = some text := by
  induction text with
  | nil => rfl
  | cons c text ih => rw [List.map_cons, decode?_cons_pieceOf, ih]; rfl

/-- Reading takes a quoted text off the front, and leaves what follows it. -/
theorem read_quote (text rest : List Char) :
    read (quote text ++ rest) = some (text.map pieceOf, rest) := by
  show readBody ((text.flatMap escape ++ ['"']) ++ rest) = _
  rw [List.append_assoc]
  exact readBody_escaped text rest

/-- No quoted text is the beginning of another one. -/
theorem quote_append_inj {text text' rest rest' : List Char}
    (h : quote text ++ rest = quote text' ++ rest') : text = text' ∧ rest = rest' := by
  -- reading is a function, and each side is what it gives on one of the texts
  have hread : some (text.map pieceOf, rest) = some (text'.map pieceOf, rest') := by
    rw [← read_quote, ← read_quote, h]
  simp only [Option.some.injEq, Prod.mk.injEq] at hread
  obtain ⟨hpieces, hrest⟩ := hread
  have htext : some text = some text' := by
    rw [← decode?_map_pieceOf text, ← decode?_map_pieceOf text', hpieces]
  exact ⟨Option.some.inj htext, hrest⟩

end Quoted

theorem quoted_injective {s t : String} (h : quoted s = quoted t) : s = t := by
  have hquote : Quoted.quote s.toList ++ [] = Quoted.quote t.toList ++ [] := by
    simpa [quoted] using congrArg String.toList h
  exact String.toList_inj.mp (Quoted.quote_append_inj hquote).1

end SearchQuery
