import SearchQuery.Proofs.Dictionary
import SearchQuery.Proofs.Json.Markers

/-! # Documents from JSON

  What a document takes over from a JSON value, and which documents come from one.

  `Json.Denotes` says the first: scalars, the order of items, and keys with their order
  stay what they are, and a marker becomes a date. The second is answered part by part.
  A document comes from JSON if each part of it might: no entry is absent, no key stands
  twice, no object looks like a marker, and a number is of the kind that JSON numbers of
  its size have.
-/

namespace SearchQuery

/-! ### What a JSON value says -/

/-- A JSON number and the number that has its value. Integers that a signed number can
    hold are signed. -/
inductive JsonNumber.Denotes : JsonNumber → Number → Prop where
  | signed (n : Int64) (fits : -Int.pow 2 63 ≤ n.toInt ∧ n.toInt < Int.pow 2 64) :
      Denotes (.integer n.toInt fits) (.signed n)
  | unsigned (n : UInt64) (fits : -Int.pow 2 63 ≤ (n.toNat : Int) ∧ n.toNat < Int.pow 2 64)
      (h : Int64.maxValue.toInt < n.toNat) : Denotes (.integer n.toNat fits) (.unsigned n)
  | double (negative : Bool) (magnitude : Magnitude) :
      Denotes (.fraction negative magnitude) (.double (.finite negative magnitude))

mutual

/-- A JSON value and the document value that says the same. -/
inductive Json.Denotes : Json → Value → Prop where
  | null : Json.Denotes .null .null
  | bool (b : Bool) : Json.Denotes (.bool b) (.bool b)
  | number {n : JsonNumber} {m : Number} (h : n.Denotes m) : Json.Denotes (.number n) (.number m)
  | string (s : String) : Json.Denotes (.string s) (.string s)
  | date {payload : Json} {t : Timestamp} (h : payload.IsDate t) :
      Json.Denotes (.marker payload) (.date t)
  | array {items : List Json} {vs : List Value} (h : Json.ItemsDenote items vs) :
      Json.Denotes (.array items) (.array vs)
  | object {members : List (String × Json)} {fields : List (String × Option Value)}
      (hno : ∀ payload, Json.object members ≠ .marker payload)
      (h : Json.MembersDenote members fields) : Json.Denotes (.object members) (.object fields)

/-- Items in the same order. -/
inductive Json.ItemsDenote : List Json → List Value → Prop where
  | nil : Json.ItemsDenote [] []
  | cons {j : Json} {v : Value} {items : List Json} {vs : List Value} (h : Json.Denotes j v)
      (hs : Json.ItemsDenote items vs) : Json.ItemsDenote (j :: items) (v :: vs)

/-- Members with the same keys in the same order, all of them present. -/
inductive Json.MembersDenote : List (String × Json) → List (String × Option Value) → Prop where
  | nil : Json.MembersDenote [] []
  | cons (key : String) {j : Json} {v : Value} {members : List (String × Json)}
      {fields : List (String × Option Value)} (h : Json.Denotes j v)
      (hs : Json.MembersDenote members fields) :
      Json.MembersDenote ((key, j) :: members) ((key, some v) :: fields)

end

/-! ### Reading is saying the same -/

theorem Number.denotes_ofJson (n : JsonNumber) : n.Denotes (Number.ofJson n) := by
  cases n with
  | integer n fits =>
    by_cases hlt : n < Int.pow 2 63
    · have hn : (Int64.ofInt n).toInt = n := Int64.toInt_ofInt_of_le fits.1 hlt
      have h := JsonNumber.Denotes.signed (Int64.ofInt n) (by rw [hn]; exact fits)
      simp only [hn] at h
      rw [Number.ofJson, if_pos hlt]
      exact h
    · have hmax : Int64.maxValue.toInt = 2 ^ 63 - 1 := rfl
      have hlow : 2 ^ 63 ≤ n := Int.not_lt.mp hlt
      have hhigh : n < 2 ^ 64 := fits.2
      have hsize : n.toNat < UInt64.size := by
        show n.toNat < 2 ^ 64
        omega
      have hn : ((UInt64.ofNat n.toNat).toNat : Int) = n := by
        rw [UInt64.toNat_ofNat_of_lt' hsize]
        omega
      have h := JsonNumber.Denotes.unsigned (UInt64.ofNat n.toNat) (by rw [hn]; exact fits)
        (by omega)
      simp only [hn] at h
      rw [Number.ofJson, if_neg hlt]
      exact h
  | fraction negative magnitude => exact .double negative magnitude

theorem JsonNumber.Denotes.ofJson_eq {n : JsonNumber} {m : Number} (h : n.Denotes m) :
    Number.ofJson n = m := by
  cases h with
  | signed m fits =>
    have hlt : m.toInt < Int.pow 2 63 := m.toInt_lt
    rw [Number.ofJson, if_pos hlt, Int64.ofInt_toInt]
  | unsigned m fits hmax =>
    have hle : ¬ (m.toNat : Int) < Int.pow 2 63 := by
      have hmax' : Int64.maxValue.toInt = Int.pow 2 63 - 1 := rfl
      omega
    rw [Number.ofJson, if_neg hle, Int.toNat_natCast, UInt64.ofNat_toNat]
  | double negative magnitude => rfl

namespace Value

mutual

theorem denotes_of_ofJson : ∀ {j : Json} {v : Value}, ofJson j = .ok v → j.Denotes v
  | .null, _, h => by
    cases h
    exact .null
  | .bool b, _, h => by
    cases h
    exact .bool b
  | .number n, _, h => by
    cases h
    exact .number (Number.denotes_ofJson n)
  | .string s, _, h => by
    cases h
    exact .string s
  | .array items, _, h => by
    rw [ofJson, map_eq_ok_iff] at h
    obtain ⟨vs, hitems, rfl⟩ := h
    exact .array (itemsDenote_of_ofJsonItems hitems)
  | .object members, _, h => by
    by_cases hmarker : ∃ payload, Json.object members = .marker payload
    · obtain ⟨payload, hmarker⟩ := hmarker
      rw [hmarker, ofJson_marker, map_eq_ok_iff] at h
      obtain ⟨t, hread, rfl⟩ := h
      rw [hmarker]
      exact .date (Timestamp.ofJson_eq_ok_iff.mp hread)
    · have hno : ∀ payload, Json.object members ≠ .marker payload :=
        fun payload hpayload => hmarker ⟨payload, hpayload⟩
      rw [ofJson_object hno, map_eq_ok_iff] at h
      obtain ⟨fields, hmembers, rfl⟩ := h
      exact .object hno (membersDenote_of_ofJsonMembers hmembers)

theorem itemsDenote_of_ofJsonItems : ∀ {items : List Json} {vs : List Value},
    ofJsonItems items = .ok vs → Json.ItemsDenote items vs
  | [], _, h => by
    cases h
    exact .nil
  | _ :: _, _, h => by
    rw [ofJsonItems, pair_eq_ok_iff] at h
    obtain ⟨v, vs, hitem, hitems, rfl⟩ := h
    exact .cons (denotes_of_ofJson hitem) (itemsDenote_of_ofJsonItems hitems)

theorem membersDenote_of_ofJsonMembers : ∀ {members : List (String × Json)} {fields : Fields Value},
    ofJsonMembers members = .ok fields → Json.MembersDenote members fields
  | [], _, h => by
    cases h
    exact .nil
  | (key, _) :: _, _, h => by
    rw [ofJsonMembers, pair_eq_ok_iff] at h
    obtain ⟨v, fields, hmember, hmembers, rfl⟩ := h
    exact .cons key (denotes_of_ofJson hmember) (membersDenote_of_ofJsonMembers hmembers)

end

mutual

theorem ofJson_of_denotes : ∀ {j : Json} {v : Value}, j.Denotes v → ofJson j = .ok v
  | _, _, .null => rfl
  | _, _, .bool _ => rfl
  | _, _, .number h => by rw [ofJson, h.ofJson_eq]
  | _, _, .string _ => rfl
  | _, _, .date h => by
    rw [ofJson_marker, map_eq_ok_iff]
    exact ⟨_, Timestamp.ofJson_eq_ok_iff.mpr h, rfl⟩
  | _, _, .array h => by
    rw [ofJson, map_eq_ok_iff]
    exact ⟨_, ofJsonItems_of_itemsDenote h, rfl⟩
  | _, _, .object hno h => by
    rw [ofJson_object hno, map_eq_ok_iff]
    exact ⟨_, ofJsonMembers_of_membersDenote h, rfl⟩

theorem ofJsonItems_of_itemsDenote : ∀ {items : List Json} {vs : List Value},
    Json.ItemsDenote items vs → ofJsonItems items = .ok vs
  | _, _, .nil => rfl
  | _, _, .cons h hs => by
    rw [ofJsonItems, pair_eq_ok_iff]
    exact ⟨_, _, ofJson_of_denotes h, ofJsonItems_of_itemsDenote hs, rfl⟩

theorem ofJsonMembers_of_membersDenote :
    ∀ {members : List (String × Json)} {fields : List (String × Option Value)},
    Json.MembersDenote members fields → ofJsonMembers members = .ok fields
  | _, _, .nil => rfl
  | _, _, .cons key h hs => by
    rw [ofJsonMembers, pair_eq_ok_iff]
    exact ⟨_, _, ofJson_of_denotes h, ofJsonMembers_of_membersDenote hs, rfl⟩

end

/-- The document that a JSON value is read to is the one that says the same. -/
theorem ofJson_eq_ok_iff {j : Json} {v : Value} : ofJson j = .ok v ↔ j.Denotes v :=
  ⟨denotes_of_ofJson, ofJson_of_denotes⟩

end Value

/-! ### Parts of documents -/

namespace Value

mutual

/-- A value and all that lies inside it, in order. An absent entry has no parts. -/
def parts : Value → List Value
  | array items => array items :: itemsParts items
  | object fields => object fields :: fieldsParts fields
  | v => [v]

def itemsParts : List Value → List Value
  | [] => []
  | v :: vs => v.parts ++ itemsParts vs

def fieldsParts : List (String × Option Value) → List Value
  | [] => []
  | (_, none) :: fields => fieldsParts fields
  | (_, some v) :: fields => v.parts ++ fieldsParts fields

end

/-- What a part of a document from JSON is like, whatever lies inside it. -/
def IsPlain : Value → Prop
  | number (.unsigned n) => Int64.maxValue.toInt < n.toNat
  | number (.double x) => x.isFinite
  | object fields =>
    (∀ entry ∈ fields, entry.2 ≠ none) ∧ (Entries.keys fields).Nodup ∧
      Entries.keys fields ≠ [dateKey]
  | _ => True

end Value

theorem JsonNumber.Denotes.isPlain {n : JsonNumber} {m : Number} (h : n.Denotes m) :
    (Value.number m).IsPlain := by
  cases h with
  | signed m fits => exact trivial
  | unsigned m fits hmax => exact hmax
  | double negative magnitude => rfl

namespace Json

theorem MembersDenote.keys_eq : ∀ {members : List (String × Json)}
    {fields : List (String × Option Value)}, MembersDenote members fields →
    Entries.keys fields = Entries.keys members
  | _, _, .nil => rfl
  | _, _, .cons key _ hs => congrArg (key :: ·) hs.keys_eq

theorem MembersDenote.present : ∀ {members : List (String × Json)}
    {fields : List (String × Option Value)}, MembersDenote members fields →
    ∀ entry ∈ fields, entry.2 ≠ none
  | _, _, .nil, _, hentry => absurd hentry (by simp)
  | _, _, .cons _ _ hs, entry, hentry => by
    rcases List.mem_cons.mp hentry with rfl | hrest
    · simp
    · exact hs.present entry hrest

/-- Members with the date key alone are a marker. -/
theorem object_eq_marker {members : List (String × Json)}
    (h : Entries.keys members = [dateKey]) : ∃ payload, object members = marker payload := by
  match members with
  | [(key, payload)] =>
    simp only [Entries.keys, List.map_cons, List.map_nil, List.cons.injEq, and_true] at h
    exact ⟨payload, by rw [marker, ← h]⟩
  | [] => simp [Entries.keys] at h
  | _ :: _ :: _ => simp [Entries.keys] at h

mutual

/-- What says the same as a JSON value without repeated keys is plain throughout. -/
theorem Denotes.isPlain : ∀ {j : Json} {v : Value}, j.Denotes v →
    (∀ part ∈ j.parts, part.KeysDiffer) → ∀ part ∈ v.parts, part.IsPlain
  | _, _, .null, _ | _, _, .bool _, _ | _, _, .string _, _ | _, _, .date _, _ => by
    simp [Value.parts, Value.IsPlain]
  | _, _, .number h, _ => by
    have hplain := h.isPlain
    simpa [Value.parts] using hplain
  | _, _, .array h, hkeys => by
    rw [parts, List.forall_mem_cons] at hkeys
    rw [Value.parts, List.forall_mem_cons]
    exact ⟨trivial, h.isPlain hkeys.2⟩
  | _, _, .object hno h, hkeys => by
    rw [parts, List.forall_mem_cons] at hkeys
    rw [Value.parts, List.forall_mem_cons]
    refine ⟨⟨h.present, ?_, ?_⟩, h.isPlain hkeys.2⟩
    · rw [h.keys_eq]
      exact hkeys.1
    · rw [h.keys_eq]
      intro hdate
      obtain ⟨payload, hmarker⟩ := object_eq_marker hdate
      exact hno payload hmarker

theorem ItemsDenote.isPlain : ∀ {items : List Json} {vs : List Value}, ItemsDenote items vs →
    (∀ part ∈ itemsParts items, part.KeysDiffer) → ∀ part ∈ Value.itemsParts vs, part.IsPlain
  | _, _, .nil, _ => by simp [Value.itemsParts]
  | _, _, .cons h hs, hkeys => by
    rw [itemsParts, List.forall_mem_append] at hkeys
    rw [Value.itemsParts, List.forall_mem_append]
    exact ⟨h.isPlain hkeys.1, hs.isPlain hkeys.2⟩

theorem MembersDenote.isPlain : ∀ {members : List (String × Json)}
    {fields : List (String × Option Value)}, MembersDenote members fields →
    (∀ part ∈ membersParts members, part.KeysDiffer) →
    ∀ part ∈ Value.fieldsParts fields, part.IsPlain
  | _, _, .nil, _ => by simp [Value.fieldsParts]
  | _, _, .cons _ h hs, hkeys => by
    rw [membersParts, List.forall_mem_append] at hkeys
    rw [Value.fieldsParts, List.forall_mem_append]
    exact ⟨h.isPlain hkeys.1, hs.isPlain hkeys.2⟩

end

end Json

/-! ### The JSON value of a plain document -/

/-- The JSON number of a plain number. -/
theorem Number.exists_denotes {m : Number} (h : (Value.number m).IsPlain) :
    ∃ n : JsonNumber, n.Denotes m := by
  cases m with
  | signed m => exact ⟨_, .signed m (fits_toInt m)⟩
  | unsigned m =>
    have hlow : -Int.pow 2 63 ≤ (m.toNat : Int) := Int.le_trans (by decide) (Int.natCast_nonneg _)
    have hhigh : (m.toNat : Int) < (2 ^ 64 : Nat) := Int.ofNat_lt.mpr m.toNat_lt
    exact ⟨_, .unsigned m ⟨hlow, hhigh⟩ h⟩
  | double x =>
    cases x with
    | finite negative magnitude => exact ⟨_, .double negative magnitude⟩
    | nan => cases h
    | infinite negative => cases h

namespace Value

mutual

/-- A document that is plain throughout says the same as some JSON value. -/
theorem exists_denotes : ∀ v : Value, (∀ part ∈ v.parts, part.IsPlain) →
    ∃ j : Json, (∀ part ∈ j.parts, part.KeysDiffer) ∧ j.Denotes v
  | null, _ => ⟨.null, by simp [Json.parts, Json.KeysDiffer], .null⟩
  | bool b, _ => ⟨.bool b, by simp [Json.parts, Json.KeysDiffer], .bool b⟩
  | string s, _ => ⟨.string s, by simp [Json.parts, Json.KeysDiffer], .string s⟩
  | number m, h => by
    obtain ⟨n, hn⟩ := Number.exists_denotes (h (number m) (by simp [parts]))
    exact ⟨.number n, by simp [Json.parts, Json.KeysDiffer], .number hn⟩
  | date t, _ => by
    refine ⟨.marker (.number (.integer t.millis.toInt (fits_toInt t.millis))), ?_, .date (.millis t _)⟩
    simp [Json.marker, Json.parts, Json.membersParts, Json.KeysDiffer, Entries.keys]
  | array vs, h => by
    rw [parts, List.forall_mem_cons] at h
    obtain ⟨items, hkeys, hitems⟩ := exists_itemsDenote vs h.2
    refine ⟨.array items, ?_, .array hitems⟩
    rw [Json.parts, List.forall_mem_cons]
    exact ⟨trivial, hkeys⟩
  | object fields, h => by
    rw [parts, List.forall_mem_cons] at h
    obtain ⟨⟨hpresent, hdistinct, hdate⟩, hinner⟩ := h
    obtain ⟨members, hkeys, hmembers⟩ := exists_membersDenote fields hpresent hinner
    have hsame := hmembers.keys_eq
    refine ⟨.object members, ?_, .object ?_ hmembers⟩
    · rw [Json.parts, List.forall_mem_cons]
      rw [hsame] at hdistinct
      exact ⟨hdistinct, hkeys⟩
    · intro payload hmarker
      cases hmarker
      exact hdate hsame

theorem exists_itemsDenote : ∀ vs : List Value, (∀ part ∈ itemsParts vs, part.IsPlain) →
    ∃ items, (∀ part ∈ Json.itemsParts items, part.KeysDiffer) ∧ Json.ItemsDenote items vs
  | [], _ => ⟨[], by simp [Json.itemsParts], .nil⟩
  | v :: vs, h => by
    rw [itemsParts, List.forall_mem_append] at h
    obtain ⟨j, hkeys, hj⟩ := exists_denotes v h.1
    obtain ⟨items, hkeys', hitems⟩ := exists_itemsDenote vs h.2
    refine ⟨j :: items, ?_, .cons hj hitems⟩
    rw [Json.itemsParts, List.forall_mem_append]
    exact ⟨hkeys, hkeys'⟩

theorem exists_membersDenote : ∀ fields : List (String × Option Value),
    (∀ entry ∈ fields, entry.2 ≠ none) → (∀ part ∈ fieldsParts fields, part.IsPlain) →
    ∃ members, (∀ part ∈ Json.membersParts members, part.KeysDiffer) ∧
      Json.MembersDenote members fields
  | [], _, _ => ⟨[], by simp [Json.membersParts], .nil⟩
  | (key, none) :: fields, hpresent, _ => absurd rfl (hpresent (key, none) (by simp))
  | (key, some v) :: fields, hpresent, h => by
    rw [fieldsParts, List.forall_mem_append] at h
    rw [List.forall_mem_cons] at hpresent
    obtain ⟨j, hkeys, hj⟩ := exists_denotes v h.1
    obtain ⟨members, hkeys', hmembers⟩ := exists_membersDenote fields hpresent.2 h.2
    refine ⟨(key, j) :: members, ?_, .cons key hj hmembers⟩
    rw [Json.membersParts, List.forall_mem_append]
    exact ⟨hkeys, hkeys'⟩

end

end Value

/-! ### Acceptance and image -/

namespace Value

/-- Reading JSON. It succeeds exactly if each date marker holds a date, and else it fails
    for the first marker that holds none. What is read says the same as the JSON value.
    The documents that are read from JSON without repeated keys are those that are plain
    throughout; their objects are what setting the entries one after the other builds. -/
theorem ofJson_acceptance_image :
    (∀ j, (∃ v, ofJson j = .ok v) ↔
      ∀ payload, Json.marker payload ∈ j.parts → ∃ t, payload.IsDate t) ∧
    (∀ j e, ofJson j = .error e ↔ ∃ before payload after,
      j.parts = before ++ Json.marker payload :: after ∧
      (∀ earlier, Json.marker earlier ∈ before → ∃ t, earlier.IsDate t) ∧ payload.IsNoDate e) ∧
    (∀ j v, ofJson j = .ok v ↔ j.Denotes v) ∧
    (∀ v, (∃ j : Json, j.HasDistinctKeys ∧ ofJson j = .ok v) ↔ ∀ part ∈ v.parts, part.IsPlain) ∧
    (∀ v : Value, (∀ part ∈ v.parts, part.IsPlain) → ∀ fields, object fields ∈ v.parts →
      Entries.ofPairs fields = fields) := by
  have hsound : ∀ js : List Json, (∀ j ∈ js, j.fault? = none) ↔
      ∀ payload, Json.marker payload ∈ js → ∃ t, payload.IsDate t := by
    intro js
    simp only [Json.fault?_eq_none_iff]
    constructor
    · intro h payload hmem
      exact h _ hmem payload rfl
    · rintro h _ hmem payload rfl
      exact h payload hmem
  refine ⟨?_, ?_, fun j v => ofJson_eq_ok_iff, ?_, ?_⟩
  · intro j
    rw [← errorOf?_eq_none_iff, errorOf?_ofJson, List.findSome?_eq_none_iff, hsound]
  · intro j e
    rw [← errorOf?_eq_some_iff, errorOf?_ofJson, List.findSome?_eq_some_iff]
    constructor
    · rintro ⟨before, part, after, hparts, hfault, hbefore⟩
      obtain ⟨payload, rfl, hno⟩ := Json.fault?_eq_some_iff.mp hfault
      exact ⟨before, payload, after, hparts, (hsound before).mp hbefore, hno⟩
    · rintro ⟨before, payload, after, hparts, hbefore, hno⟩
      exact ⟨before, _, after, hparts, Json.fault?_eq_some_iff.mpr ⟨payload, rfl, hno⟩,
        (hsound before).mpr hbefore⟩
  · intro v
    constructor
    · rintro ⟨j, hkeys, hread⟩
      exact (ofJson_eq_ok_iff.mp hread).isPlain hkeys
    · intro h
      obtain ⟨j, hkeys, hj⟩ := exists_denotes v h
      exact ⟨j, hkeys, ofJson_eq_ok_iff.mpr hj⟩
  · intro v h fields hfields
    exact Entries.ofPairs_of_nodup (h _ hfields).2.1

end Value

end SearchQuery
