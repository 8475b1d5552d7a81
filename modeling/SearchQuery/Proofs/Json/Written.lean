import SearchQuery.Proofs.Json.Grammar
import SearchQuery.Proofs.Json.Nesting
import SearchQuery.Proofs.NumberText

/-! # JSON values as they are written

  `Json.WrittenAs` says how a JSON value may be written: members in their order, strings with
  the escapes that they need, integers digit for digit. A double may have any form that rounds
  to it, so that `1000`, `1000.0` and `1e3` are forms of the same double.

  A double in the form of an integer is read as an integer, so what is read need not be what
  was written. But every value can be written so that it is read back, and the doubles and the
  members are always those of the value that was written.
-/

namespace SearchQuery

/-! ### Numbers -/

namespace JsonNumber

/-- The tokens of a number. A double may have any form that rounds to it. -/
inductive WrittenAs : JsonNumber → NumberToken → Prop where
  | integer (n : Int) (fits : -Int.pow 2 63 ≤ n ∧ n < Int.pow 2 64) :
      WrittenAs (integer n fits) (.ofInt n)
  | fraction (t : NumberToken) {x : Magnitude} (h : t.numeral.magnitude.magnitude? = some x) :
      WrittenAs (fraction t.negative x) t

end JsonNumber

namespace NumberToken

/-- The token of an integer is read to this integer. -/
theorem ofNumeral?_ofInt (reading : NumeralReading) (n : Int)
    (fits : -Int.pow 2 63 ≤ n ∧ n < Int.pow 2 64) :
    JsonNumber.ofNumeral? reading (ofInt n).numeral = some (.integer n fits) := by
  have hsign : ¬ ((ofInt n).numeral.negative ∧ (ofInt n).numeral.toInt = 0) := by
    rintro ⟨hnegative, hzero⟩
    rw [toInt_ofInt] at hzero
    subst hzero
    cases hnegative
  unfold JsonNumber.ofNumeral?
  simp only [toInt_ofInt] at hsign ⊢
  exact dif_pos ⟨rfl, hsign, fits⟩

/-- A token with a letter in it has a fraction or a power of ten. -/
theorem not_isInteger_of_mem {t : NumberToken} {c : Char} (hc : c ∈ t.text)
    (hdigit : c.isDigit = false) (hminus : c ≠ '-') : t.numeral.isInteger = false := by
  by_contra hinteger
  have hplain : t.fraction = none ∧ t.power = none := by
    simpa [Numeral.isInteger, numeral] using hinteger
  have hmem : c ∈ t.whole.chars := by
    have htext : c ∈ withSign t.negative t.whole.chars := by
      simpa [text, hplain, fractionText, powerText] using hc
    unfold withSign at htext
    split at htext
    · exact (List.mem_cons.mp htext).resolve_left hminus
    · exact htext
  rw [t.whole.isDigit c hmem] at hdigit
  cases hdigit

end NumberToken

namespace JsonNumber

/-- Every number is written as a token that is read back to it. -/
theorem exists_writtenAs : ∀ n : JsonNumber,
    ∃ t : NumberToken, n.WrittenAs t ∧ ofNumeral? .nearest t.numeral = some n
  | .integer n fits => ⟨.ofInt n, .integer n fits, NumberToken.ofNumeral?_ofInt .nearest n fits⟩
  | .fraction negative x => by
    obtain ⟨t, htext, rfl, hvalue⟩ := x.shortest.scientific_spells negative
    have hmagnitude : t.numeral.magnitude.magnitude? = some x :=
      Magnitude.magnitude?_of_toRat_eq_shortest hvalue
    -- a power of ten keeps the token apart from those of integers
    have hpower : 'e' ∈ t.text := by
      rw [htext]
      unfold withSign Decimal.scientific
      split <;> simp
    have hno : t.numeral.isInteger = false :=
      NumberToken.not_isInteger_of_mem hpower (by decide) (by decide)
    refine ⟨t, .fraction t hmagnitude, ?_⟩
    show dite _ _ _ = _
    rw [dif_neg fun hinteger => by simp [hno] at hinteger]
    show t.numeral.magnitude.magnitude?.map _ = _
    rw [hmagnitude]
    rfl

/-- A token of a number is read, if not always to the same number. -/
theorem WrittenAs.exists_ofNumeral? {n : JsonNumber} {t : NumberToken} (h : n.WrittenAs t) :
    ∃ m, ofNumeral? .nearest t.numeral = some m := by
  cases h with
  | integer n fits => exact ⟨_, NumberToken.ofNumeral?_ofInt .nearest n fits⟩
  | @fraction t x h =>
    unfold ofNumeral?
    split
    · exact ⟨_, rfl⟩
    · show ∃ m, t.numeral.magnitude.magnitude?.map _ = some m
      rw [h]
      exact ⟨_, rfl⟩

/-- A token has the double of the number. -/
theorem WrittenAs.double?_eq {n : JsonNumber} {t : NumberToken} (h : n.WrittenAs t) :
    (RawJson.number t.numeral).double? = some n.toDouble := by
  cases h with
  | integer n fits => exact RawJson.double?_number (NumberToken.ofNumeral?_ofInt .nearest n fits)
  | fraction t h =>
    rw [RawJson.double?, h]
    rfl

end JsonNumber

namespace Json

/-! ### Values -/

mutual

/-- The ways to write a value. -/
inductive WrittenAs : Json → RawJson → Prop where
  | null : WrittenAs null .null
  | bool (b : Bool) : WrittenAs (bool b) (.bool b)
  | number {n : JsonNumber} {t : NumberToken} (h : n.WrittenAs t) :
      WrittenAs (number n) (.number t.numeral)
  | string (s : String) : WrittenAs (string s) (.string (s.toList.map Quoted.pieceOf))
  | array {items : List Json} {raws : List RawJson} (h : ItemsWrittenAs items raws) :
      WrittenAs (array items) (.array raws)
  | object {members : Entries Json} {raws : List (List Quoted.Piece × RawJson)}
      (h : MembersWrittenAs members raws) : WrittenAs (object members) (.object raws)

inductive ItemsWrittenAs : List Json → List RawJson → Prop where
  | nil : ItemsWrittenAs [] []
  | cons {item : Json} {items : List Json} {raw : RawJson} {raws : List RawJson}
      (h : WrittenAs item raw) (hs : ItemsWrittenAs items raws) :
      ItemsWrittenAs (item :: items) (raw :: raws)

inductive MembersWrittenAs : Entries Json → List (List Quoted.Piece × RawJson) → Prop where
  | nil : MembersWrittenAs [] []
  | cons {key : String} {member : Json} {members : Entries Json} {raw : RawJson}
      {raws : List (List Quoted.Piece × RawJson)} (h : WrittenAs member raw)
      (hs : MembersWrittenAs members raws) :
      MembersWrittenAs ((key, member) :: members) ((key.toList.map Quoted.pieceOf, raw) :: raws)

end

/-- The texts of a value: a way to write it, as a document. -/
def IsText (j : Json) (text : String) : Prop :=
  ∃ raw, j.WrittenAs raw ∧ raw.IsDocument text

/-- The documents of a value: the one that it stands for, and those that its texts are read
    to when doubles are read to the nearest. -/
inductive HasDocument (j : Json) : Value → Prop where
  | tree {v : Value} (h : Value.ofJson j = .ok v) : HasDocument j v
  | text {text : String} {j' : Json} {v : Value} (htext : j.IsText text)
      (hread : ofString? .nearest text = some j') (h : Value.ofJson j' = .ok v) : HasDocument j v

/-- No object is a date marker, at any depth. -/
def HasNoMarker (j : Json) : Prop := ∀ part ∈ j.parts, ∀ payload, part ≠ marker payload

/-- No object repeats a key or is a date marker. -/
structure IsPlain (j : Json) : Prop where
  distinctKeys : j.HasDistinctKeys
  noMarker : j.HasNoMarker

theorem toString?_map_pieceOf (s : String) :
    Quoted.Piece.toString? (s.toList.map Quoted.pieceOf) = some s := by
  rw [Quoted.Piece.toString?, Quoted.decode?_map_pieceOf, Option.map_some, String.ofList_toList]

/-! ### Every value is written -/

theorem areBlank_nil : RawJson.AreBlank [] := by
  intro c hc
  cases hc

/-- Whether items have texts: as the items of an array, or because there are none. -/
def HaveText (raws : List RawJson) : Prop :=
  raws = [] ∨ ∃ text, RawJson.AreItems raws text

theorem HaveText.cons {raw : RawJson} {raws : List RawJson} {text : List Char}
    (htext : raw.IsText text) (h : HaveText raws) : HaveText (raw :: raws) := by
  rcases h with rfl | ⟨more, hmore⟩
  · exact .inr ⟨_, .last htext areBlank_nil⟩
  · exact .inr ⟨_, .cons htext areBlank_nil hmore⟩

theorem HaveText.array {raws : List RawJson} (h : HaveText raws) :
    ∃ text, (RawJson.array raws).IsText text := by
  rcases h with rfl | ⟨text, htext⟩
  · exact ⟨_, .emptyArray areBlank_nil⟩
  · exact ⟨_, .array htext⟩

/-- Whether members have texts: as the members of an object, or because there are none. -/
def MembersHaveText (raws : List (List Quoted.Piece × RawJson)) : Prop :=
  raws = [] ∨ ∃ text, RawJson.AreMembers raws text

theorem MembersHaveText.cons (key : String) {raw : RawJson}
    {raws : List (List Quoted.Piece × RawJson)} {text : List Char} (htext : raw.IsText text)
    (h : MembersHaveText raws) : MembersHaveText ((key.toList.map Quoted.pieceOf, raw) :: raws) := by
  have hlabel : RawJson.IsLabel key.toList _ := .mk areBlank_nil areBlank_nil
  rcases h with rfl | ⟨more, hmore⟩
  · exact .inr ⟨_, .last hlabel htext areBlank_nil⟩
  · exact .inr ⟨_, .cons hlabel htext areBlank_nil hmore⟩

theorem MembersHaveText.object {raws : List (List Quoted.Piece × RawJson)}
    (h : MembersHaveText raws) : ∃ text, (RawJson.object raws).IsText text := by
  rcases h with rfl | ⟨text, htext⟩
  · exact ⟨_, .emptyObject areBlank_nil⟩
  · exact ⟨_, .object htext⟩

mutual

/-- A value that repeats no key is written in a way that is read back to it. -/
theorem exists_writtenAs : ∀ j : Json, j.HasDistinctKeys →
    ∃ raw, j.WrittenAs raw ∧ ofRaw? .nearest raw = some j ∧ ∃ text, raw.IsText text
  | .null, _ => ⟨_, .null, rfl, _, .null⟩
  | .bool true, _ => ⟨_, .bool true, rfl, _, .true⟩
  | .bool false, _ => ⟨_, .bool false, rfl, _, .false⟩
  | .number n, _ => by
    obtain ⟨t, ht, hread⟩ := n.exists_writtenAs
    refine ⟨_, .number ht, ?_, _, .number t⟩
    rw [ofRaw?, hread]
    rfl
  | .string s, _ => by
    refine ⟨_, .string s, ?_, _, .string s.toList⟩
    rw [ofRaw?, toString?_map_pieceOf]
    rfl
  | .array items, h => by
    obtain ⟨raws, hitems, hread, htext⟩ := exists_itemsWrittenAs items fun part hpart =>
      h part (List.mem_cons_of_mem _ hpart)
    refine ⟨_, .array hitems, ?_, htext.array⟩
    rw [ofRaw?, hread]
    rfl
  | .object members, h => by
    obtain ⟨raws, hmembers, hread, htext⟩ := exists_membersWrittenAs members fun part hpart =>
      h part (List.mem_cons_of_mem _ hpart)
    have hkeys : Entries.ofPairs members = members :=
      Entries.ofPairs_of_nodup (h _ List.mem_cons_self)
    refine ⟨_, .object hmembers, ?_, htext.object⟩
    rw [ofRaw?, hread, Option.map_some, hkeys]

theorem exists_itemsWrittenAs : ∀ items : List Json,
    (∀ part ∈ itemsParts items, part.KeysDiffer) →
    ∃ raws, ItemsWrittenAs items raws ∧ ofRawItems? .nearest raws = some items ∧ HaveText raws
  | [], _ => ⟨[], .nil, rfl, .inl rfl⟩
  | item :: items, h => by
    obtain ⟨raw, hitem, hread, _, htext⟩ := exists_writtenAs item fun part hpart =>
      h part (List.mem_append_left _ hpart)
    obtain ⟨raws, hitems, hreads, htexts⟩ := exists_itemsWrittenAs items fun part hpart =>
      h part (List.mem_append_right _ hpart)
    refine ⟨raw :: raws, .cons hitem hitems, ?_, htexts.cons htext⟩
    rw [ofRawItems?, hread, hreads]
    rfl

theorem exists_membersWrittenAs : ∀ members : List (String × Json),
    (∀ part ∈ membersParts members, part.KeysDiffer) →
    ∃ raws, MembersWrittenAs members raws ∧ ofRawMembers? .nearest raws = some members ∧
      MembersHaveText raws
  | [], _ => ⟨[], .nil, rfl, .inl rfl⟩
  | (key, member) :: members, h => by
    obtain ⟨raw, hmember, hread, _, htext⟩ := exists_writtenAs member fun part hpart =>
      h part (List.mem_append_left _ hpart)
    obtain ⟨raws, hmembers, hreads, htexts⟩ := exists_membersWrittenAs members
      fun part hpart => h part (List.mem_append_right _ hpart)
    refine ⟨_, .cons hmember hmembers, ?_, htexts.cons key htext⟩
    rw [ofRawMembers?, toString?_map_pieceOf, hread, hreads]
    rfl

end

/-! ### Nesting -/

mutual

/-- A value is nested as deeply as it is written. -/
theorem WrittenAs.depth_eq : ∀ {j : Json} {raw : RawJson}, j.WrittenAs raw → raw.depth = j.depth
  | _, _, .null | _, _, .bool _ | _, _, .number _ | _, _, .string _ => rfl
  | _, _, .array h => congrArg (· + 1) h.depth_eq
  | _, _, .object h => congrArg (· + 1) h.depth_eq

theorem ItemsWrittenAs.depth_eq : ∀ {items : List Json} {raws : List RawJson},
    ItemsWrittenAs items raws → RawJson.depthOfItems raws = depthOfItems items
  | _, _, .nil => rfl
  | _, _, .cons h hs => congrArg₂ max h.depth_eq hs.depth_eq

theorem MembersWrittenAs.depth_eq :
    ∀ {members : Entries Json} {raws : List (List Quoted.Piece × RawJson)},
    MembersWrittenAs members raws → RawJson.depthOfMembers raws = depthOfMembers members
  | _, _, .nil => rfl
  | _, _, .cons h hs => congrArg₂ max h.depth_eq hs.depth_eq

end

/-! ### Reading what is written -/

mutual

/-- Whatever repeats no key and has no marker is read to a document. -/
theorem WrittenAs.exists_readsAs : ∀ {j : Json} {raw : RawJson}, j.WrittenAs raw →
    j.HasDistinctKeys → j.HasNoMarker → ∃ v, raw.ReadsAs v
  | _, _, .null, _, _ => ⟨_, _, rfl, rfl⟩
  | _, _, .bool b, _, _ => ⟨_, _, rfl, rfl⟩
  | _, _, .number h, _, _ => by
    obtain ⟨m, hm⟩ := h.exists_ofNumeral?
    refine ⟨_, .number m, ?_, rfl⟩
    rw [ofRaw?, hm]
    rfl
  | _, _, .string s, _, _ => by
    refine ⟨_, .string s, ?_, rfl⟩
    rw [ofRaw?, toString?_map_pieceOf]
    rfl
  | _, _, .array h, hkeys, hmarker => by
    obtain ⟨js, vs, hread, hvs⟩ := h.exists_readsAs
      (fun part hpart => hkeys part (List.mem_cons_of_mem _ hpart))
      (fun part hpart => hmarker part (List.mem_cons_of_mem _ hpart))
    refine ⟨.array vs, .array js, ?_, ?_⟩
    · rw [ofRaw?, hread]
      rfl
    · rw [Value.ofJson, hvs]
      rfl
  | _, _, @WrittenAs.object members raws h, hkeys, hmarker => by
    obtain ⟨entries, fields, hread, hsame, hfields⟩ := h.exists_readsAs
      (fun part hpart => hkeys part (List.mem_cons_of_mem _ hpart))
      (fun part hpart => hmarker part (List.mem_cons_of_mem _ hpart))
    have hnodup : members.keys.Nodup := hkeys _ List.mem_cons_self
    have hpairs : Entries.ofPairs entries = entries := Entries.ofPairs_of_nodup (hsame ▸ hnodup)
    -- an object with the keys of no marker is none
    have hno : ∀ payload, object entries ≠ marker payload := by
      intro payload heq
      obtain rfl := object.inj heq
      match members, hsame, hmarker _ List.mem_cons_self with
      | [(key, payload')], hsame, hmarker =>
        obtain rfl : dateKey = key := List.head_eq_of_cons_eq hsame
        exact hmarker payload' rfl
    refine ⟨.object fields, .object entries, ?_, ?_⟩
    · rw [ofRaw?, hread, Option.map_some, hpairs]
    · rw [Value.ofJson_object hno, hfields]
      rfl

theorem ItemsWrittenAs.exists_readsAs : ∀ {items : List Json} {raws : List RawJson},
    ItemsWrittenAs items raws → (∀ part ∈ itemsParts items, part.KeysDiffer) →
    (∀ part ∈ itemsParts items, ∀ payload, part ≠ marker payload) →
    ∃ js vs, ofRawItems? .nearest raws = some js ∧ Value.ofJsonItems js = .ok vs
  | _, _, .nil, _, _ => ⟨[], [], rfl, rfl⟩
  | _, _, .cons h hs, hkeys, hmarker => by
    obtain ⟨v, j, hj, hv⟩ := h.exists_readsAs
      (fun part hpart => hkeys part (List.mem_append_left _ hpart))
      (fun part hpart => hmarker part (List.mem_append_left _ hpart))
    obtain ⟨js, vs, hjs, hvs⟩ := hs.exists_readsAs
      (fun part hpart => hkeys part (List.mem_append_right _ hpart))
      (fun part hpart => hmarker part (List.mem_append_right _ hpart))
    refine ⟨j :: js, v :: vs, ?_, pair_eq_ok_iff.mpr ⟨v, vs, hv, hvs, rfl⟩⟩
    rw [ofRawItems?, hj, hjs]
    rfl

theorem MembersWrittenAs.exists_readsAs :
    ∀ {members : Entries Json} {raws : List (List Quoted.Piece × RawJson)},
    MembersWrittenAs members raws → (∀ part ∈ membersParts members, part.KeysDiffer) →
    (∀ part ∈ membersParts members, ∀ payload, part ≠ marker payload) →
    ∃ entries fields, ofRawMembers? .nearest raws = some entries ∧ entries.keys = members.keys ∧
      Value.ofJsonMembers entries = .ok fields
  | _, _, .nil, _, _ => ⟨[], [], rfl, rfl, rfl⟩
  | _, _, @MembersWrittenAs.cons key _ members _ _ h hs, hkeys, hmarker => by
    obtain ⟨v, j, hj, hv⟩ := h.exists_readsAs
      (fun part hpart => hkeys part (List.mem_append_left _ hpart))
      (fun part hpart => hmarker part (List.mem_append_left _ hpart))
    obtain ⟨entries, fields, hentries, hsame, hfields⟩ := hs.exists_readsAs
      (fun part hpart => hkeys part (List.mem_append_right _ hpart))
      (fun part hpart => hmarker part (List.mem_append_right _ hpart))
    refine ⟨(key, j) :: entries, (key, some v) :: fields, ?_, congrArg (key :: ·) hsame,
      pair_eq_ok_iff.mpr ⟨v, fields, hv, hfields, rfl⟩⟩
    rw [ofRawMembers?, toString?_map_pieceOf, hj, hentries]
    rfl

end

/-! ### Documents -/

theorem mem_membersParts {members : Entries Json} {part : Json} :
    part ∈ membersParts members ↔ ∃ member ∈ members, part ∈ member.2.parts := by
  induction members with
  | nil => simp [membersParts]
  | cons member members ih =>
    obtain ⟨key, j⟩ := member
    simp [membersParts, ih]

/-- An object is plain if its members are, its keys differ and the date key is not there. -/
theorem IsPlain.of_members {members : Entries Json} (hkeys : members.keys.Nodup)
    (hdate : dateKey ∉ members.keys) (h : ∀ member ∈ members, member.2.IsPlain) :
    (object members).IsPlain := by
  constructor
  · intro part hpart
    rcases List.mem_cons.mp hpart with rfl | hpart
    · exact hkeys
    · obtain ⟨member, hmember, hpart⟩ := mem_membersParts.mp hpart
      exact (h member hmember).distinctKeys part hpart
  · intro part hpart
    rcases List.mem_cons.mp hpart with rfl | hpart
    · intro payload heq
      apply hdate
      rw [object.inj heq]
      exact List.mem_cons_self
    · obtain ⟨member, hmember, hpart⟩ := mem_membersParts.mp hpart
      exact (h member hmember).noMarker part hpart

/-- Only a marker can keep a value from being a document. -/
theorem HasNoMarker.exists_ofJson {j : Json} (h : j.HasNoMarker) : ∃ v, Value.ofJson j = .ok v := by
  rw [← errorOf?_eq_none_iff, Value.errorOf?_ofJson, List.findSome?_eq_none_iff]
  intro part hpart
  exact fault?_eq_none_iff.mpr fun payload hmarker => absurd hmarker (h part hpart payload)

theorem IsPlain.exists_isText {j : Json} (h : j.IsPlain) : ∃ text, j.IsText text := by
  obtain ⟨raw, hraw, -, text, htext⟩ := exists_writtenAs j h.distinctKeys
  exact ⟨String.ofList text, raw, hraw, text, [], by simp, htext, areBlank_nil⟩

/-- Every text of a plain value that is not nested too deeply has a document. -/
theorem IsPlain.exists_document {j : Json} (h : j.IsPlain) (hdepth : j.depth ≤ maxDepth)
    {text : String} (htext : j.IsText text) :
    ∃ j' v, ofString? .nearest text = some j' ∧ Value.ofJson j' = .ok v := by
  obtain ⟨raw, hraw, hdocument⟩ := htext
  obtain ⟨v, j', hread, hv⟩ := hraw.exists_readsAs h.distinctKeys h.noMarker
  have hfits : raw.depth ≤ maxDepth := hraw.depth_eq.trans_le hdepth
  exact ⟨j', v, ofString?_eq_some_iff.mpr ⟨raw, hdocument.ofString?_eq, hfits, hread⟩, hv⟩

/-- Every document of a value is read from some way to write the value. -/
theorem HasDocument.exists_readsAs {j : Json} {v : Value} (h : j.HasDocument v)
    (hkeys : j.HasDistinctKeys) : ∃ raw, j.WrittenAs raw ∧ raw.ReadsAs v := by
  cases h with
  | tree h =>
    obtain ⟨raw, hraw, hread, -⟩ := exists_writtenAs j hkeys
    exact ⟨raw, hraw, j, hread, h⟩
  | @text text j' v htext hread h =>
    obtain ⟨raw, hraw, hdocument⟩ := htext
    obtain ⟨raw', hraw', -, hread'⟩ := ofString?_eq_some_iff.mp hread
    obtain rfl : raw = raw' := Option.some_inj.mp (hdocument.ofString?_eq.symm.trans hraw')
    exact ⟨raw, hraw, j', hread', h⟩

/-! ### Members -/

/-- The members of an object, under their names. -/
theorem MembersWrittenAs.exists_members? {members : Entries Json}
    {raws : List (List Quoted.Piece × RawJson)} (h : MembersWrittenAs members raws) :
    ∃ named : Entries RawJson, (RawJson.object raws).members? = some named ∧
      List.Forall₂ (fun member raw => member.1 = raw.1 ∧ member.2.WrittenAs raw.2) members
        named := by
  match h with
  | .nil => exact ⟨[], rfl, .nil⟩
  | @MembersWrittenAs.cons key _ _ raw _ h hs =>
    obtain ⟨named, hnamed, hall⟩ := hs.exists_members?
    refine ⟨(key, raw) :: named, ?_, .cons ⟨rfl, h⟩ hall⟩
    exact RawJson.members?_cons_eq_some_iff.mpr ⟨key, named, toString?_map_pieceOf key, hnamed, rfl⟩

/-- Values in the same order under the same names are found together. -/
theorem lookup_writtenAs {members : Entries Json} {named : Entries RawJson}
    (h : List.Forall₂ (fun member raw => member.1 = raw.1 ∧ member.2.WrittenAs raw.2) members named)
    (name : String) : Option.Rel WrittenAs (members.lookup name) (named.lookup name) := by
  induction h with
  | nil => exact .none
  | @cons member raw members named hhead _ ih =>
    obtain ⟨key, j⟩ := member
    obtain ⟨key', raw⟩ := raw
    obtain ⟨rfl, hj⟩ : key = key' ∧ j.WrittenAs raw := hhead
    rw [List.lookup_cons, List.lookup_cons]
    cases name == key with
    | true => exact .some hj
    | false => exact ih

/-- A plain object is written without repeating a name, and each member is found where it was
    written. -/
theorem WrittenAs.object_members {members : Entries Json} {raw : RawJson}
    (h : WrittenAs (.object members) raw) (hplain : IsPlain (.object members)) :
    (∃ raws, raw = .object raws) ∧ raw.NamesDiffer ∧
      ∀ name, Option.Rel WrittenAs (members.lookup name) (raw.member? name) := by
  have hkeys : members.keys.Nodup := hplain.distinctKeys _ List.mem_cons_self
  cases h with
  | @object _ raws h =>
    obtain ⟨named, hnamed, hall⟩ := h.exists_members?
    have hsame : members.keys = named.keys := by
      unfold Entries.keys
      rw [← List.forall₂_eq_eq_eq, List.forall₂_map_left_iff, List.forall₂_map_right_iff]
      exact hall.imp fun _ _ hpair => hpair.1
    have hnames : (RawJson.object raws).NamesDiffer := by
      rw [RawJson.NamesDiffer, RawJson.keys_members? hnamed, ← hsame]
      exact hkeys.map (Option.some_injective _)
    refine ⟨⟨raws, rfl⟩, hnames, fun name => ?_⟩
    rw [RawJson.member?_eq_lookup hnames hnamed]
    exact lookup_writtenAs hall name

theorem WrittenAs.exists_member {members : Entries Json} {raw : RawJson}
    (h : WrittenAs (.object members) raw) (hplain : IsPlain (.object members)) {name : String}
    {j : Json} (hmember : members.lookup name = some j) :
    ∃ value, raw.member? name = some value ∧ j.WrittenAs value := by
  obtain ⟨-, -, hrel⟩ := h.object_members hplain
  have hname := hrel name
  rw [hmember] at hname
  generalize raw.member? name = member? at hname
  cases hname with
  | some hvalue => exact ⟨_, rfl, hvalue⟩

end Json

end SearchQuery
