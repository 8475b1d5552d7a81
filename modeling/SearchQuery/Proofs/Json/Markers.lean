import SearchQuery.Value.OfJson

/-! # Date markers in JSON

  An object whose only key is the date key is a date marker, and its payload must be a
  date. Nothing else in a JSON value can keep it from being read as a document.

  `Json.parts` lists a JSON value and all that lies inside it, each part before what lies
  inside this part. The first part that is a marker without a date decides the error.
-/

namespace SearchQuery

/-! ### JSON values -/

namespace Json

mutual

/-- A JSON value and all that lies inside it, in document order. -/
def parts : Json → List Json
  | array items => array items :: itemsParts items
  | object members => object members :: membersParts members
  | j => [j]

def itemsParts : List Json → List Json
  | [] => []
  | j :: js => j.parts ++ itemsParts js

def membersParts : List (String × Json) → List Json
  | [] => []
  | (_, j) :: members => j.parts ++ membersParts members

end

/-- The keys of an object differ from one another. -/
def KeysDiffer : Json → Prop
  | object members => (Entries.keys members).Nodup
  | _ => True

/-- No object has a key twice, at any depth. -/
def HasDistinctKeys (j : Json) : Prop := ∀ part ∈ j.parts, part.KeysDiffer

/-- A date marker: an object whose only key is the date key. -/
def marker (payload : Json) : Json := object [(dateKey, payload)]

/-- The date that the payload of a marker gives: so many milliseconds, or a date-time. -/
inductive IsDate : Json → Timestamp → Prop where
  | millis (t : Timestamp) (fits : -Int.pow 2 63 ≤ t.millis.toInt ∧ t.millis.toInt < Int.pow 2 64) :
      IsDate (number (.integer t.millis.toInt fits)) t
  | text {s : String} {t : Timestamp} (h : Timestamp.ofRfc3339 s = .ok t) : IsDate (string s) t

/-- Why a payload gives no date. -/
inductive IsNoDate : Json → QueryError → Prop where
  | text {s : String} {fault : Timestamp.Fault} (h : Timestamp.ofRfc3339 s = .error fault) :
      IsNoDate (string s) (.invalidDocument (.dateText fault))
  | other {payload : Json} (hstring : ∀ s, payload ≠ string s) (h : ∀ t, ¬ payload.IsDate t) :
      IsNoDate payload (.invalidDocument .dateMarker)

end Json

/-! ### Date markers -/

/-- A signed number of 64 bits is an integer of JSON. -/
theorem fits_toInt (n : Int64) : -Int.pow 2 63 ≤ n.toInt ∧ n.toInt < Int.pow 2 64 := by
  have hlow : -Int.pow 2 63 ≤ n.toInt := n.le_toInt
  have hhigh : n.toInt < Int.pow 2 63 := n.toInt_lt
  exact ⟨hlow, Int.lt_trans hhigh (by decide)⟩

namespace Timestamp

theorem ofJson_millis {n : Int} (fits : -Int.pow 2 63 ≤ n ∧ n < Int.pow 2 64)
    (hlt : n < Int.pow 2 63) :
    ofJson (.number (.integer n fits)) = .ok ⟨Int64.ofInt n⟩ := if_pos hlt

theorem ofJson_too_large {n : Int} (fits : -Int.pow 2 63 ≤ n ∧ n < Int.pow 2 64)
    (hge : ¬ n < Int.pow 2 63) :
    ofJson (.number (.integer n fits)) = .error (.invalidDocument .dateMarker) := if_neg hge

theorem ofJson_text {s : String} {t : Timestamp} (h : ofRfc3339 s = .ok t) :
    ofJson (.string s) = .ok t := by
  rw [ofJson, h]
  rfl

theorem ofJson_no_text {s : String} {fault : Fault} (h : ofRfc3339 s = .error fault) :
    ofJson (.string s) = .error (.invalidDocument (.dateText fault)) := by
  rw [ofJson, h]
  rfl

theorem ofJson_eq_ok_iff {payload : Json} {t : Timestamp} :
    ofJson payload = .ok t ↔ payload.IsDate t := by
  constructor
  · intro h
    cases payload with
    | number n =>
      cases n with
      | integer n fits =>
        by_cases hlt : n < Int.pow 2 63
        · rw [ofJson_millis fits hlt] at h
          have hn : n = t.millis.toInt := by
            rw [← Except.ok.inj h]
            exact (Int64.toInt_ofInt_of_le fits.1 hlt).symm
          subst hn
          exact .millis t fits
        · rw [ofJson_too_large fits hlt] at h
          cases h
      | fraction negative magnitude => cases h
    | string s =>
      cases hs : Timestamp.ofRfc3339 s with
      | error fault =>
        rw [ofJson_no_text hs] at h
        cases h
      | ok t' =>
        rw [ofJson_text hs] at h
        exact .text (Except.ok.inj h ▸ hs)
    | _ => cases h
  · intro h
    cases h with
    | millis t fits =>
      have hlt : t.millis.toInt < Int.pow 2 63 := t.millis.toInt_lt
      rw [ofJson_millis fits hlt, Int64.ofInt_toInt]
    | text h => exact ofJson_text h

/-- What is no string fails in one way only. -/
theorem eq_dateMarker_of_ofJson {payload : Json} {e : QueryError}
    (hstring : ∀ s, payload ≠ .string s) (h : ofJson payload = .error e) :
    e = .invalidDocument .dateMarker := by
  cases payload with
  | number n =>
    cases n with
    | integer n fits =>
      by_cases hlt : n < Int.pow 2 63
      · rw [ofJson_millis fits hlt] at h
        cases h
      · rw [ofJson_too_large fits hlt] at h
        exact (Except.error.inj h).symm
    | fraction negative magnitude =>
      cases h
      rfl
  | string s => exact absurd rfl (hstring s)
  | _ =>
    cases h
    rfl

theorem ofJson_eq_error_iff {payload : Json} {e : QueryError} :
    ofJson payload = .error e ↔ payload.IsNoDate e := by
  constructor
  · intro h
    by_cases hs : ∃ s, payload = .string s
    · obtain ⟨s, rfl⟩ := hs
      cases hread : Timestamp.ofRfc3339 s with
      | ok t =>
        rw [ofJson_text hread] at h
        cases h
      | error fault =>
        rw [ofJson_no_text hread] at h
        exact Except.error.inj h ▸ .text hread
    · have hstring : ∀ s, payload ≠ .string s := fun s hpayload => hs ⟨s, hpayload⟩
      rw [eq_dateMarker_of_ofJson hstring h]
      refine .other hstring ?_
      intro t ht
      rw [ofJson_eq_ok_iff.mpr ht] at h
      cases h
  · intro h
    cases h with
    | text h => exact ofJson_no_text h
    | other hstring hno =>
      cases hread : ofJson payload with
      | ok t => exact absurd (ofJson_eq_ok_iff.mp hread) (hno t)
      | error e => rw [eq_dateMarker_of_ofJson hstring hread]

end Timestamp

namespace Json

/-- The fault of a part itself: that of a marker whose payload is no date. -/
def fault? : Json → Option QueryError
  | object [(key, payload)] => if key = dateKey then errorOf? (Timestamp.ofJson payload) else none
  | _ => none

theorem fault?_marker (payload : Json) :
    (marker payload).fault? = errorOf? (Timestamp.ofJson payload) := by
  rw [marker, fault?, if_pos rfl]

/-- Only a marker can be at fault. -/
theorem fault?_eq_some_iff {j : Json} {e : QueryError} :
    j.fault? = some e ↔ ∃ payload, j = marker payload ∧ payload.IsNoDate e := by
  constructor
  · intro h
    unfold fault? at h
    split at h
    · next key payload =>
      split at h
      · next hkey =>
        rw [errorOf?_eq_some_iff] at h
        exact ⟨payload, by rw [marker, hkey], Timestamp.ofJson_eq_error_iff.mp h⟩
      · cases h
    · cases h
  · rintro ⟨payload, rfl, h⟩
    rw [fault?_marker, errorOf?_eq_some_iff]
    exact Timestamp.ofJson_eq_error_iff.mpr h

theorem fault?_eq_none_iff {j : Json} :
    j.fault? = none ↔ ∀ payload, j = marker payload → ∃ t, payload.IsDate t := by
  constructor
  · rintro h payload rfl
    rw [fault?_marker, errorOf?_eq_none_iff] at h
    obtain ⟨t, ht⟩ := h
    exact ⟨t, Timestamp.ofJson_eq_ok_iff.mp ht⟩
  · intro h
    cases hfault : j.fault? with
    | none => rfl
    | some e =>
      obtain ⟨payload, rfl, hno⟩ := fault?_eq_some_iff.mp hfault
      obtain ⟨t, ht⟩ := h payload rfl
      have hok := Timestamp.ofJson_eq_ok_iff.mpr ht
      rw [Timestamp.ofJson_eq_error_iff.mpr hno] at hok
      cases hok

/-- Nothing lies inside the payload of a good marker. -/
theorem IsDate.fault?_parts {payload : Json} {t : Timestamp} (h : payload.IsDate t) :
    payload.parts.findSome? fault? = none := by
  cases h with
  | millis t fits => rfl
  | text h => rfl

end Json

/-! ### Acceptance -/

namespace Value

theorem ofJson_marker (payload : Json) :
    ofJson (.marker payload) = (Timestamp.ofJson payload).map date := by
  simp [Json.marker, ofJson]

/-- An object that is no marker is read member by member. -/
theorem ofJson_object {members : List (String × Json)}
    (h : ∀ payload, Json.object members ≠ .marker payload) :
    ofJson (.object members) = (ofJsonMembers members).map object := by
  match members with
  | [] => simp [ofJson]
  | [(key, payload)] =>
    have hkey : key ≠ dateKey := by
      rintro rfl
      exact h payload rfl
    simp only [ofJson, if_neg hkey, ofJsonMembers]
    cases ofJson payload <;> rfl
  | _ :: _ :: _ => simp [ofJson]

mutual

/-- Reading fails for the first bad marker. -/
theorem errorOf?_ofJson : ∀ j : Json, errorOf? (ofJson j) = j.parts.findSome? Json.fault?
  | .null | .bool _ | .number _ | .string _ => rfl
  | .array items => by
    have hitems := errorOf?_ofJsonItems items
    rw [ofJson, errorOf?_map, hitems, Json.parts, List.findSome?_cons]
    rfl
  | .object members => by
    have hmembers := errorOf?_ofJsonMembers members
    rw [Json.parts, List.findSome?_cons, ← hmembers]
    by_cases h : ∃ payload, Json.object members = .marker payload
    · obtain ⟨payload, hmarker⟩ := h
      rw [hmembers, hmarker, Json.fault?_marker, ofJson_marker, errorOf?_map]
      cases hread : Timestamp.ofJson payload with
      | error e => rfl
      | ok t =>
        -- the payload is no part that could be at fault
        have hpayload := (Timestamp.ofJson_eq_ok_iff.mp hread).fault?_parts
        cases hmarker
        simp [Json.membersParts, hpayload]
    · have hno : ∀ payload, Json.object members ≠ .marker payload :=
        fun payload hmarker => h ⟨payload, hmarker⟩
      have hsound : (Json.object members).fault? = none :=
        Json.fault?_eq_none_iff.mpr fun payload hmarker => absurd hmarker (hno payload)
      rw [hsound, ofJson_object hno, errorOf?_map]

theorem errorOf?_ofJsonItems : ∀ items : List Json,
    errorOf? (ofJsonItems items) = (Json.itemsParts items).findSome? Json.fault?
  | [] => rfl
  | j :: js => by
    have hhead := errorOf?_ofJson j
    have htail := errorOf?_ofJsonItems js
    rw [ofJsonItems, errorOf?_pair, Json.itemsParts, List.findSome?_append, hhead, htail]

theorem errorOf?_ofJsonMembers : ∀ members : List (String × Json),
    errorOf? (ofJsonMembers members) = (Json.membersParts members).findSome? Json.fault?
  | [] => rfl
  | (key, j) :: members => by
    have hhead := errorOf?_ofJson j
    have htail := errorOf?_ofJsonMembers members
    rw [ofJsonMembers, Json.membersParts, List.findSome?_append, ← hhead, ← htail]
    exact errorOf?_pair (fun v fields => (key, some v) :: fields) _ _

end

end Value

end SearchQuery
