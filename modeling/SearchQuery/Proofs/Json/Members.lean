import Mathlib.Data.List.Forall2
import SearchQuery.Geo.Json
import SearchQuery.Json.Document
import SearchQuery.Proofs.Binary64.Order
import SearchQuery.Proofs.Json.Image

/-! # Written values and their documents

  A JSON text can be looked at in two ways: as it is written, or as the document that it
  is read to. `RawJson.ReadsAs` joins the two, and what a reader may ask for is the same on
  both sides: the double of a number, and the member of an object with a given name.

  An object that repeats no name has at most one member for each name. The one name to
  leave out is the date key, since an object with nothing else becomes a date.
-/

namespace SearchQuery

/-! ### Numbers -/

namespace Magnitude

/-- An integer is a decimal without places. -/
theorem ofNat?_eq (n : Nat) : ofNat? n = Decimal.magnitude? ⟨n, 0⟩ := by
  refine Option.ext fun x => ?_
  rw [ofNat?, nearest?_eq_some_iff Nat.one_pos, Decimal.magnitude?_eq_some_iff, Attracts,
    Decimal.toRat, zpow_zero, mul_one, Nat.cast_mul, Nat.cast_one, div_one]

theorem isSome_ofNat?_two_pow : (ofNat? (2 ^ 64)).isSome = true := by decide +kernel

/-- No integer of 64 bits is too large for a double. -/
theorem exists_ofNat? {n : Nat} (h : n ≤ 2 ^ 64) : ∃ x, ofNat? n = some x := by
  obtain ⟨top, htop⟩ := Option.isSome_iff_exists.mp isSome_ofNat?_two_pow
  have htop' := (nearest?_eq_some_iff Nat.one_pos).mp htop
  have hx := Scaled.nearest_attracts (by decide : 1 < 53) (n * unitsPerOne) Nat.one_pos
  have hle : ((n * unitsPerOne : Nat) : ℚ) / (1 : Nat) ≤
      ((2 ^ 64 * unitsPerOne : Nat) : ℚ) / (1 : Nat) := by
    rw [Nat.cast_one, div_one, div_one]
    exact_mod_cast Nat.mul_le_mul_right unitsPerOne h
  have hvalue := hx.value_le (by decide) htop' hle
  have hexponent : (Scaled.nearest (by decide : 0 < 53) (n * unitsPerOne) 1).exponent ≤ 2045 := by
    by_contra hgt
    have hlt := Scaled.value_lt_of_exponent_lt (by decide)
      (Nat.lt_of_le_of_lt top.exponent_le (Nat.lt_of_not_le hgt))
    exact Nat.lt_irrefl _ (Nat.lt_of_lt_of_le hlt hvalue)
  exact ⟨_, dif_pos hexponent⟩

end Magnitude

theorem Number.toDouble_ofJson (n : JsonNumber) : (Number.ofJson n).toDouble = n.toDouble := by
  have hdenotes := Number.denotes_ofJson n
  generalize Number.ofJson n = m at hdenotes
  cases hdenotes <;> rfl

/-- A numeral is read to the double of the JSON number that it denotes. -/
theorem RawJson.double?_number {numeral : Numeral} {n : JsonNumber}
    (h : JsonNumber.ofNumeral? .nearest numeral = some n) :
    (RawJson.number numeral).double? = some n.toDouble := by
  unfold JsonNumber.ofNumeral? at h
  split at h
  · next hinteger =>
    obtain ⟨hplain, hzero, hfits⟩ := hinteger
    cases h
    rw [Numeral.isInteger, Bool.and_eq_true, Option.isNone_iff_eq_none,
      Option.isNone_iff_eq_none] at hplain
    have hmagnitude : numeral.magnitude = ⟨digitsValue numeral.whole, 0⟩ := by
      simp [Numeral.magnitude, hplain]
    have habs : numeral.toInt.natAbs = digitsValue numeral.whole := by
      unfold Numeral.toInt
      cases numeral.negative <;> simp
    -- an integer that is written with a sign is not zero, so its double has this sign
    have hsign : decide (numeral.toInt < 0) = numeral.negative := by
      unfold Numeral.toInt at hzero ⊢
      cases hnegative : numeral.negative with
      | false => simp
      | true =>
        simp only [hnegative, if_true, true_and] at hzero
        simp only [if_true, decide_eq_true_eq]
        omega
    have hbound : numeral.toInt.natAbs ≤ 2 ^ 64 := by
      have hlow : -2 ^ 63 ≤ numeral.toInt := hfits.1
      have hhigh : numeral.toInt < 2 ^ 64 := hfits.2
      omega
    obtain ⟨x, hx⟩ := Magnitude.exists_ofNat? hbound
    show numeral.magnitude.magnitude?.map _ = some (Double.ofInt numeral.toInt)
    rw [Double.ofInt, hx, hsign, hmagnitude, ← habs, ← Magnitude.ofNat?_eq, hx]
    rfl
  · obtain ⟨x, hx, rfl⟩ := Option.map_eq_some_iff.mp h
    show numeral.magnitude.magnitude?.map _ = _
    rw [show numeral.magnitude.magnitude? = some x from hx]
    rfl

/-! ### A text and its document -/

namespace RawJson

/-- The document that a written value is read to. -/
def ReadsAs (raw : RawJson) (v : Value) : Prop :=
  ∃ j, Json.ofRaw? .nearest raw = some j ∧ Value.ofJson j = .ok v

/-- An object becomes a date or an object. -/
theorem ReadsAs.object_cases {members : List (List Quoted.Piece × RawJson)} {v : Value}
    (h : ReadsAs (object members) v) :
    ∃ entries, Json.ofRawMembers? .nearest members = some entries ∧
      ((∃ t payload, v = .date t ∧ Entries.ofPairs entries = [(dateKey, payload)]) ∨
      ∃ fields, v = .object fields ∧ Value.ofJsonMembers (Entries.ofPairs entries) = .ok fields) := by
  obtain ⟨j, hj, hv⟩ := h
  rw [Json.ofRaw?, Option.map_eq_some_iff] at hj
  obtain ⟨entries, hentries, rfl⟩ := hj
  refine ⟨entries, hentries, ?_⟩
  by_cases hmarker : ∃ payload, Json.object (Entries.ofPairs entries) = .marker payload
  · obtain ⟨payload, hpayload⟩ := hmarker
    rw [hpayload, Value.ofJson_marker] at hv
    obtain ⟨t, -, rfl⟩ := map_eq_ok_iff.mp hv
    exact .inl ⟨t, payload, rfl, Json.object.inj hpayload⟩
  · rw [Value.ofJson_object fun payload hpayload => hmarker ⟨payload, hpayload⟩] at hv
    obtain ⟨fields, hfields, rfl⟩ := map_eq_ok_iff.mp hv
    exact .inr ⟨fields, rfl, hfields⟩

/-- What is no object becomes none, and has the same double in both ways. -/
theorem ReadsAs.of_not_object {raw : RawJson} {v : Value} (h : ReadsAs raw v)
    (hno : ∀ members, raw ≠ object members) : v.fields? = none ∧ raw.double? = v.double? := by
  obtain ⟨j, hj, hv⟩ := h
  cases raw with
  | object members => exact absurd rfl (hno members)
  | array items =>
    rw [Json.ofRaw?, Option.map_eq_some_iff] at hj
    obtain ⟨js, -, rfl⟩ := hj
    rw [Value.ofJson] at hv
    obtain ⟨vs, -, rfl⟩ := map_eq_ok_iff.mp hv
    exact ⟨rfl, rfl⟩
  | number numeral =>
    obtain ⟨n, hn, rfl⟩ := Option.map_eq_some_iff.mp hj
    cases hv
    rw [double?_number hn]
    exact ⟨rfl, congrArg some (Number.toDouble_ofJson n).symm⟩
  | string pieces =>
    obtain ⟨s, -, rfl⟩ := Option.map_eq_some_iff.mp hj
    cases hv
    exact ⟨rfl, rfl⟩
  | null =>
    cases hj
    cases hv
    exact ⟨rfl, rfl⟩
  | bool b =>
    cases hj
    cases hv
    exact ⟨rfl, rfl⟩

/-- A value has the same double in both ways. -/
theorem ReadsAs.double?_eq {raw : RawJson} {v : Value} (h : ReadsAs raw v) :
    raw.double? = v.double? := by
  by_cases hobject : ∃ members, raw = object members
  · obtain ⟨members, rfl⟩ := hobject
    obtain ⟨_, -, ⟨_, _, rfl, -⟩ | ⟨_, rfl, -⟩⟩ := h.object_cases
    · rfl
    · rfl
  · exact (h.of_not_object fun members hraw => hobject ⟨members, hraw⟩).2

/-! ### Members -/

/-- The names of the members of an object differ. -/
def NamesDiffer : RawJson → Prop
  | object members => (members.map fun member => Quoted.Piece.toString? member.1).Nodup
  | _ => True

instance : DecidablePred NamesDiffer
  | object _ => inferInstanceAs (Decidable (List.Nodup _))
  | null | bool _ | number _ | string _ | array _ => isTrue trivial

/-- An object has a member with a name and a value. -/
def HasMember : RawJson → String → RawJson → Prop
  | object members, name, value =>
    ∃ key, (key, value) ∈ members ∧ Quoted.Piece.toString? key = some name
  | _, _, _ => False

/-- The value of the only member of an object with a name. -/
def member? (raw : RawJson) (name : String) : Option RawJson := do
  onlyMember? (← raw.members?) name

/-- The double of a member. -/
def coordinate? (raw : RawJson) (name : String) : Option Double :=
  (raw.member? name).bind double?

theorem members?_cons_eq_some_iff {key : List Quoted.Piece} {value : RawJson}
    {members : List (List Quoted.Piece × RawJson)} {named : Entries RawJson} :
    (object ((key, value) :: members)).members? = some named ↔
      ∃ name rest, Quoted.Piece.toString? key = some name ∧
        (object members).members? = some rest ∧ named = (name, value) :: rest := by
  have hcons : (object ((key, value) :: members)).members? = (do
      let member ← (Quoted.Piece.toString? key).map (·, value)
      let rest ← (object members).members?
      return member :: rest) := List.mapM_cons
  rw [hcons]
  cases Quoted.Piece.toString? key with
  | none => simp
  | some name =>
    cases (object members).members? with
    | none => simp
    | some rest => simp [eq_comm]

theorem mem_members?_iff {members : List (List Quoted.Piece × RawJson)} {named : Entries RawJson}
    (h : (object members).members? = some named) (name : String) (value : RawJson) :
    (name, value) ∈ named ↔ (object members).HasMember name value := by
  unfold HasMember
  induction members generalizing named with
  | nil =>
    cases h
    simp
  | cons member members ih =>
    obtain ⟨key', value'⟩ := member
    obtain ⟨name', rest, hname, hrest, rfl⟩ := members?_cons_eq_some_iff.mp h
    rw [List.mem_cons, ih hrest]
    constructor
    · rintro (heq | ⟨key, hmem, hkey⟩)
      · cases heq
        exact ⟨key', List.mem_cons_self, hname⟩
      · exact ⟨key, List.mem_cons_of_mem _ hmem, hkey⟩
    · rintro ⟨key, hmem, hkey⟩
      rcases List.mem_cons.mp hmem with heq | hmem
      · cases heq
        rw [hname] at hkey
        cases hkey
        exact .inl rfl
      · exact .inr ⟨key, hmem, hkey⟩

theorem keys_members? {members : List (List Quoted.Piece × RawJson)} {named : Entries RawJson}
    (h : (object members).members? = some named) :
    members.map (fun member => Quoted.Piece.toString? member.1) = named.keys.map some := by
  induction members generalizing named with
  | nil =>
    cases h
    rfl
  | cons member members ih =>
    obtain ⟨key, value⟩ := member
    obtain ⟨name, rest, hname, hrest, rfl⟩ := members?_cons_eq_some_iff.mp h
    rw [List.map_cons, ih hrest, hname]
    rfl

theorem onlyMember?_of_nodup {named : Entries RawJson} (h : named.keys.Nodup) (name : String) :
    onlyMember? named name = named.lookup name := by
  induction named with
  | nil => rfl
  | cons member named ih =>
    obtain ⟨key, value⟩ := member
    simp only [Entries.keys, List.map_cons, List.nodup_cons] at h
    by_cases hkey : key = name
    · have hrest : named.filter (fun member => member.1 = name) = [] := by
        rw [List.filter_eq_nil_iff]
        intro member hmem hname
        have hsame : member.1 = name := by simpa using hname
        exact h.1 (List.mem_map.mpr ⟨_, hmem, hsame.trans hkey.symm⟩)
      simp [onlyMember?, hkey, hrest]
    · have hne : (name == key) = false := by simpa using Ne.symm hkey
      have htail := ih h.2
      simp only [onlyMember?] at htail ⊢
      simp only [List.filter_cons, hkey, decide_false, Bool.false_eq_true, if_false,
        List.lookup_cons, hne]
      exact htail

/-- The members of an object whose names differ are told by their names. -/
theorem exists_members? {members : List (List Quoted.Piece × RawJson)} {entries : Entries Json}
    (h : Json.ofRawMembers? .nearest members = some entries) :
    ∃ named : Entries RawJson, (object members).members? = some named ∧
      List.Forall₂ (fun member entry => member.1 = entry.1 ∧
        Json.ofRaw? .nearest member.2 = some entry.2) named entries := by
  induction members generalizing entries with
  | nil =>
    cases h
    exact ⟨[], rfl, .nil⟩
  | cons member members ih =>
    obtain ⟨key, value⟩ := member
    simp only [Json.ofRawMembers?, Option.bind_eq_bind, Option.bind_eq_some_iff, Option.pure_def,
      Option.some_inj] at h
    obtain ⟨name, hname, j, hj, rest, hrest, rfl⟩ := h
    obtain ⟨named, hnamed, hall⟩ := ih hrest
    exact ⟨(name, value) :: named, members?_cons_eq_some_iff.mpr ⟨name, named, hname, hnamed, rfl⟩,
      .cons ⟨rfl, hj⟩ hall⟩

/-- Members that are read one by one are found under the same names. -/
theorem lookup_rel {named : Entries RawJson} {entries : Entries Json}
    (h : List.Forall₂ (fun member entry => member.1 = entry.1 ∧
      Json.ofRaw? .nearest member.2 = some entry.2) named entries)
    {fields : Fields Value} (hfields : Value.ofJsonMembers entries = .ok fields) (name : String) :
    Option.Rel ReadsAs (named.lookup name) (fields.get? name) := by
  induction h generalizing fields with
  | nil =>
    cases hfields
    exact .none
  | @cons member entry named entries hhead _ ih =>
    obtain ⟨key, value⟩ := member
    obtain ⟨key', j⟩ := entry
    obtain ⟨hkey, hj⟩ := hhead
    obtain rfl : key = key' := hkey
    obtain ⟨v, rest, hv, hrest, rfl⟩ := pair_eq_ok_iff.mp hfields
    have hreads : ReadsAs value v := ⟨j, hj, hv⟩
    have htail := ih hrest
    unfold Fields.get? Fields.present at htail ⊢
    rw [List.filterMap_cons, List.lookup_cons]
    cases hname : name == key with
    | true => simpa [List.lookup_cons, hname] using hreads
    | false => simpa [List.lookup_cons, hname] using htail

/-- An object that repeats no name, and the document that it is read to. -/
structure ObjectReadsAs (raw : RawJson) (v : Value) : Prop where
  isObject : ∃ members, raw = object members
  namesDiffer : raw.NamesDiffer
  readsAs : raw.ReadsAs v

theorem nodup_of_namesDiffer {members : List (List Quoted.Piece × RawJson)}
    {named : Entries RawJson} (h : (object members).NamesDiffer)
    (hnamed : (object members).members? = some named) : named.keys.Nodup := by
  rw [NamesDiffer, keys_members? hnamed] at h
  exact h.of_map some

theorem member?_eq_lookup {members : List (List Quoted.Piece × RawJson)}
    {named : Entries RawJson} (h : (object members).NamesDiffer)
    (hnamed : (object members).members? = some named) (name : String) :
    (object members).member? name = named.lookup name := by
  rw [member?, hnamed]
  exact onlyMember?_of_nodup (nodup_of_namesDiffer h hnamed) name

end RawJson

/-- The value of a field of an object. -/
def Value.member? (v : Value) (name : String) : Option Value :=
  v.fields?.bind (Fields.get? · name)

/-- The double of a field. -/
def Value.coordinate? (v : Value) (name : String) : Option Double :=
  (v.member? name).bind Value.double?

namespace RawJson.ObjectReadsAs

variable {raw : RawJson} {v : Value}

theorem member?_eq_some_iff (h : raw.ObjectReadsAs v) {name : String} {value : RawJson} :
    raw.member? name = some value ↔ raw.HasMember name value := by
  obtain ⟨⟨members, rfl⟩, hnames, hreads⟩ := h
  obtain ⟨entries, hentries, -⟩ := hreads.object_cases
  obtain ⟨named, hnamed, -⟩ := exists_members? hentries
  rw [member?_eq_lookup hnames hnamed,
    ← Entries.mem_iff_lookup (nodup_of_namesDiffer hnames hnamed), mem_members?_iff hnamed]

/-- A member of an object and the field of its document with the same name. The date key is
    left out: it makes an object with nothing else a date. -/
theorem member_rel (h : raw.ObjectReadsAs v) {name : String} (hname : name ≠ dateKey) :
    Option.Rel ReadsAs (raw.member? name) (v.member? name) := by
  obtain ⟨⟨members, rfl⟩, hnames, hreads⟩ := h
  obtain ⟨entries, hentries, hcases⟩ := hreads.object_cases
  obtain ⟨named, hnamed, hall⟩ := exists_members? hentries
  have hkeys : named.keys = entries.keys := by
    unfold Entries.keys
    rw [← List.forall₂_eq_eq_eq, List.forall₂_map_left_iff, List.forall₂_map_right_iff]
    exact hall.imp fun _ _ hpair => hpair.1
  have hnodup : entries.keys.Nodup := hkeys ▸ nodup_of_namesDiffer hnames hnamed
  rw [Entries.ofPairs_of_nodup hnodup] at hcases
  rw [member?_eq_lookup hnames hnamed]
  rcases hcases with ⟨t, payload, rfl, rfl⟩ | ⟨fields, rfl, hfields⟩
  · -- the only member of a marker has another name
    cases hall with
    | @cons member _ _ _ hhead htail =>
      cases htail
      have hne : (name == member.1) = false := by
        rw [hhead.1]
        simpa using hname
      rw [List.lookup_cons, hne]
      exact .none
  · exact lookup_rel hall hfields name

/-- A member of an object is read to a document. -/
theorem exists_readsAs (h : raw.ObjectReadsAs v) {name : String} (hname : name ≠ dateKey)
    {value : RawJson} (hvalue : raw.member? name = some value) : ∃ field, value.ReadsAs field := by
  have hrel := h.member_rel hname
  rw [hvalue] at hrel
  generalize v.member? name = field? at hrel
  cases hrel with
  | some hreads => exact ⟨_, hreads⟩

theorem coordinate?_eq (h : raw.ObjectReadsAs v) {name : String} (hname : name ≠ dateKey) :
    raw.coordinate? name = v.coordinate? name := by
  have hmember := h.member_rel hname
  unfold coordinate? Value.coordinate?
  generalize raw.member? name = member? at hmember
  generalize v.member? name = field? at hmember
  cases hmember with
  | none => rfl
  | some hreads => exact hreads.double?_eq

end RawJson.ObjectReadsAs

end SearchQuery
