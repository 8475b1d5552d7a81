import Mathlib.Data.Finset.Card
import SearchQuery.Entries

/-! # Entries as a dictionary

  Entries are written one setting at a time, and read in four ways: as a list, as the
  list of what is present, key by key, and by their number. After any run of operations
  all four are told by the history of the settings: each key stands once, where it was
  first set, with what it was last set to.

  A run amounts to the settings of its history, one after the other, whichever
  operations made them. So everything is proved of one setting first, and then of a
  list of settings by adding one at its end.
-/

namespace SearchQuery

namespace Entries

variable {α : Type}

/-! ### One setting -/

theorem keys_set (entries : Entries α) (key : String) (value : α) :
    keys (set entries key value) =
      if key ∈ keys entries then keys entries else keys entries ++ [key] := by
  induction entries with
  | nil => rfl
  | cons entry entries ih =>
    obtain ⟨k, v⟩ := entry
    by_cases hk : k = key
    · simp [set, keys, hk]
    · have hne : ¬ key = k := fun h => hk h.symm
      simp only [keys] at ih
      by_cases hmem : key ∈ keys entries
      · simp only [keys] at hmem
        simp [set, keys, hk, ih, hmem]
      · simp only [keys] at hmem
        simp [set, keys, hk, hne, ih, hmem]

theorem nodup_keys_set {entries : Entries α} (h : (keys entries).Nodup) (key : String) (value : α) :
    (keys (set entries key value)).Nodup := by
  rw [keys_set]
  by_cases hmem : key ∈ keys entries
  · rwa [if_pos hmem]
  · rw [if_neg hmem, List.nodup_append]
    refine ⟨h, by simp, ?_⟩
    intro k hk l hl hkl
    rw [List.mem_singleton] at hl
    exact hmem (hl ▸ hkl ▸ hk)

theorem lookup_set (entries : Entries α) (key : String) (value : α) (k : String) :
    (set entries key value).lookup k = if k = key then some value else entries.lookup k := by
  induction entries with
  | nil =>
    by_cases hk : k = key
    · simp [set, hk]
    · have hne : (k == key) = false := by simpa using hk
      simp [set, List.lookup_cons, hk, hne]
  | cons entry entries ih =>
    obtain ⟨l, v⟩ := entry
    by_cases hl : l = key
    · by_cases hk : k = key
      · simp [set, hl, hk]
      · have hne : (k == key) = false := by simpa using hk
        simp [set, List.lookup_cons, hl, hk, hne]
    · by_cases hk : k = l
      · simp [set, hl, hk]
      · have hne : (k == l) = false := by simpa using hk
        simp only [set, if_neg hl, List.lookup_cons, hne]
        exact ih

theorem set_of_not_mem {entries : Entries α} {key : String} (h : key ∉ entries.keys) (value : α) :
    entries.set key value = entries ++ [(key, value)] := by
  induction entries with
  | nil => rfl
  | cons entry entries ih =>
    obtain ⟨k, v⟩ := entry
    simp only [keys, List.map_cons, List.mem_cons, not_or] at h
    have htail := ih h.2
    rw [set, if_neg (Ne.symm h.1), htail]
    rfl

/-- A key that is there keeps its place, and no other entry is touched. -/
theorem set_of_mem {entries : Entries α} {key : String} (hnodup : (keys entries).Nodup)
    (hmem : key ∈ keys entries) (value : α) :
    set entries key value =
      entries.map fun entry => if entry.1 = key then (key, value) else entry := by
  induction entries with
  | nil => cases hmem
  | cons entry entries ih =>
    obtain ⟨k, v⟩ := entry
    simp only [keys, List.map_cons, List.nodup_cons] at hnodup
    by_cases hk : k = key
    · -- the key stands here, so it does not stand again further on
      have hother : ∀ entry ∈ entries, (if entry.1 = key then (key, value) else entry) = entry := by
        intro entry hentry
        have hne : entry.1 ≠ key := by
          intro h
          exact hnodup.1 (List.mem_map.mpr ⟨entry, hentry, h.trans hk.symm⟩)
        exact if_neg hne
      have hrest := List.map_congr_left hother
      rw [List.map_id'] at hrest
      simp [set, hk, hrest]
    · have htail : key ∈ keys entries := by
        simp only [keys, List.map_cons, List.mem_cons] at hmem
        exact hmem.resolve_left fun h => hk h.symm
      simp [set, hk, ih hnodup.2 htail]

/-! ### Looking up -/

theorem mem_iff_lookup {entries : Entries α} (hnodup : (keys entries).Nodup) (key : String)
    (value : α) : (key, value) ∈ entries ↔ entries.lookup key = some value := by
  induction entries with
  | nil => simp
  | cons entry entries ih =>
    obtain ⟨k, v⟩ := entry
    simp only [keys, List.map_cons, List.nodup_cons] at hnodup
    by_cases hk : key = k
    · have hnot : (key, value) ∉ entries := by
        intro h
        exact hnodup.1 (List.mem_map.mpr ⟨_, h, hk⟩)
      simp [hk ▸ hnot, hk, eq_comm]
    · have hne : (key == k) = false := by simpa using hk
      simp only [List.mem_cons, Prod.mk.injEq, hk, false_and, false_or, List.lookup_cons, hne]
      exact ih hnodup.2

/-! ### One setting after the other -/

theorem ofPairs_append_singleton (pairs : List (String × α)) (key : String) (value : α) :
    ofPairs (pairs ++ [(key, value)]) = set (ofPairs pairs) key value := by
  simp [ofPairs]

/-- The keys stand in the order in which they were first set. -/
theorem keys_ofPairs (pairs : List (String × α)) :
    keys (ofPairs pairs) = (pairs.map Prod.fst).eraseDups := by
  induction pairs using List.reverseRecOn with
  | nil => rfl
  | append_singleton pairs pair ih =>
    obtain ⟨key, value⟩ := pair
    rw [ofPairs_append_singleton, keys_set, ih, List.map_append, List.eraseDups_append]
    by_cases hmem : key ∈ pairs.map Prod.fst
    · rw [if_pos (List.mem_eraseDups.mpr hmem)]
      simp [List.removeAll, hmem]
    · rw [if_neg fun h => hmem (List.mem_eraseDups.mp h)]
      simp [List.removeAll, hmem, List.eraseDups_cons]

theorem nodup_keys_ofPairs (pairs : List (String × α)) : (keys (ofPairs pairs)).Nodup := by
  induction pairs using List.reverseRecOn with
  | nil => exact List.nodup_nil
  | append_singleton pairs pair ih =>
    rw [ofPairs_append_singleton]
    exact nodup_keys_set ih pair.1 pair.2

/-- What a key was set to last, in a list of settings. -/
def lastSetting? (pairs : List (String × α)) (key : String) : Option α :=
  pairs.reverse.lookup key

theorem lookup_ofPairs (pairs : List (String × α)) (key : String) :
    (ofPairs pairs).lookup key = lastSetting? pairs key := by
  induction pairs using List.reverseRecOn with
  | nil => rfl
  | append_singleton pairs pair ih =>
    obtain ⟨k, value⟩ := pair
    rw [ofPairs_append_singleton, lookup_set, ih]
    by_cases hk : key = k
    · simp [lastSetting?, hk]
    · have hne : (key == k) = false := by simpa using hk
      simp [lastSetting?, List.lookup_cons, hk, hne]

/-- Entries whose keys differ are what setting them one after the other builds. -/
theorem ofPairs_of_nodup {entries : Entries α} (h : entries.keys.Nodup) :
    ofPairs entries = entries := by
  induction entries using List.reverseRecOn with
  | nil => rfl
  | append_singleton entries entry ih =>
    obtain ⟨key, value⟩ := entry
    simp only [keys, List.map_append, List.map_cons, List.map_nil] at h
    have hfront := ih (List.nodup_append.mp h).1
    have hnew : key ∉ keys entries := fun hmem =>
      (List.nodup_append.mp h).2.2 key hmem key (by simp) rfl
    rw [ofPairs_append_singleton, hfront, set_of_not_mem hnew]

end Entries

namespace Fields

variable {α : Type}

/-! ### What is present -/

theorem mem_present_iff (fields : Fields α) (key : String) (value : α) :
    (key, value) ∈ present fields ↔ (key, some value) ∈ fields := by
  unfold present
  rw [List.mem_filterMap]
  constructor
  · rintro ⟨⟨k, value?⟩, hmem, heq⟩
    obtain ⟨v, rfl, hpair⟩ := Option.map_eq_some_iff.mp heq
    cases hpair
    exact hmem
  · intro hmem
    exact ⟨(key, some value), hmem, rfl⟩

/-- Present entries are the entries without the absent ones, in the same order. -/
theorem map_present (fields : Fields α) :
    (present fields).map (fun entry => (entry.1, some entry.2)) =
      fields.filter fun entry => entry.2.isSome := by
  induction fields with
  | nil => rfl
  | cons entry fields ih =>
    obtain ⟨key, value?⟩ := entry
    cases value? with
    | none => simpa [present] using ih
    | some value => simpa [present] using ih

theorem nodup_keys_present {fields : Fields α} (h : (Entries.keys fields).Nodup) :
    (Entries.keys (present fields)).Nodup := by
  have hkeys : Entries.keys (present fields) =
      (fields.filter fun entry => entry.2.isSome).map Prod.fst := by
    rw [← map_present, List.map_map]
    rfl
  rw [hkeys]
  exact h.sublist (List.filter_sublist.map Prod.fst)

/-- Looking a key up gives the value of the entry with this key, unless it is absent. -/
theorem get?_eq_lookup {fields : Fields α} (h : (Entries.keys fields).Nodup) (key : String) :
    get? fields key = (fields.lookup key).join := by
  refine Option.ext fun value => ?_
  rw [get?, ← Entries.mem_iff_lookup (nodup_keys_present h), mem_present_iff,
    Entries.mem_iff_lookup h]
  exact Option.join_eq_some_iff.symm

/-! ### Runs -/

/-- What is done to entries. -/
inductive Operation (α : Type) where
  /-- Sets an entry, present or absent. -/
  | push (key : String) (value? : Option α)
  /-- Sets an entry that is present. -/
  | insert (key : String) (value : α)
  /-- Sets an entry that may be absent. -/
  | insertOptional (key : String) (value? : Option α)
  /-- Starts anew, with entries that are all present. -/
  | ofPairs (pairs : List (String × α))

namespace Operation

/-- The entries after an operation. -/
def apply (fields : Fields α) : Operation α → Fields α
  | push key value? => Entries.set fields key value?
  | insert key value => fields.insert key value
  | insertOptional key value? => fields.insertOptional key value?
  | ofPairs pairs => Fields.ofPairs pairs

/-- The setting that an operation makes, unless it starts anew. -/
def setting? : Operation α → Option (String × Option α)
  | push key value? => some (key, value?)
  | insert key value => some (key, some value)
  | insertOptional key value? => some (key, value?)
  | ofPairs _ => none

/-- The settings since the last start, after an operation. -/
def record (history : List (String × Option α)) : Operation α → List (String × Option α)
  | push key value? => history ++ [(key, value?)]
  | insert key value => history ++ [(key, some value)]
  | insertOptional key value? => history ++ [(key, value?)]
  | ofPairs pairs => pairs.map fun (key, value) => (key, some value)

theorem apply_of_setting? {op : Operation α} {key : String} {value? : Option α}
    (h : op.setting? = some (key, value?)) (fields : Fields α) :
    op.apply fields = Entries.set fields key value? := by
  cases op <;> cases h <;> rfl

end Operation

/-- The entries after some operations, from none. -/
def run (ops : List (Operation α)) : Fields α :=
  ops.foldl Operation.apply []

/-- The settings that some operations make, since they last started anew. -/
def history (ops : List (Operation α)) : List (String × Option α) :=
  ops.foldl Operation.record []

theorem run_append_singleton (ops : List (Operation α)) (op : Operation α) :
    run (ops ++ [op]) = op.apply (run ops) := by
  simp [run]

theorem history_append_singleton (ops : List (Operation α)) (op : Operation α) :
    history (ops ++ [op]) = op.record (history ops) := by
  simp [history]

/-- An operation does to the entries what it adds to the history. -/
theorem apply_ofPairs (history : List (String × Option α)) (op : Operation α) :
    op.apply (Entries.ofPairs history) = Entries.ofPairs (op.record history) := by
  cases op with
  | push key value? => exact (Entries.ofPairs_append_singleton history key value?).symm
  | insert key value => exact (Entries.ofPairs_append_singleton history key (some value)).symm
  | insertOptional key value? => exact (Entries.ofPairs_append_singleton history key value?).symm
  | ofPairs pairs => rfl

/-- A run amounts to the settings of its history. -/
theorem run_eq_ofPairs (ops : List (Operation α)) : run ops = Entries.ofPairs (history ops) := by
  induction ops using List.reverseRecOn with
  | nil => rfl
  | append_singleton ops op ih =>
    rw [run_append_singleton, history_append_singleton, ih, apply_ofPairs]

/-- What entries are after the settings of a history. -/
structure IsDictionaryOf (history : List (String × Option α)) (fields : Fields α) : Prop where
  /-- No key stands twice. -/
  nodup_keys : (Entries.keys fields).Nodup
  /-- The keys stand in the order in which they were first set. -/
  keys_eq : Entries.keys fields = (history.map Prod.fst).eraseDups
  /-- The entries are the keys with their last settings. -/
  mem_iff : ∀ key value?,
    (key, value?) ∈ fields ↔ Entries.lastSetting? history key = some value?
  /-- A key has the value it was last set to, unless that was absent. -/
  get?_eq : ∀ key, get? fields key = (Entries.lastSetting? history key).join
  /-- There are as many entries as keys that were ever set. -/
  length_eq : fields.length = (history.map Prod.fst).toFinset.card
  /-- What is present is the entries without the absent ones, in the same order. -/
  present_eq : (present fields).map (fun entry => (entry.1, some entry.2)) =
    fields.filter fun entry => entry.2.isSome
  /-- What is present is what looking up finds. -/
  mem_present_iff_get? : ∀ key value,
    (key, value) ∈ present fields ↔ get? fields key = some value

theorem isDictionaryOf_ofPairs (history : List (String × Option α)) :
    IsDictionaryOf history (Entries.ofPairs history) where
  nodup_keys := Entries.nodup_keys_ofPairs history
  keys_eq := Entries.keys_ofPairs history
  mem_iff key value? := by
    rw [Entries.mem_iff_lookup (Entries.nodup_keys_ofPairs history), Entries.lookup_ofPairs]
  get?_eq key := by
    rw [get?_eq_lookup (Entries.nodup_keys_ofPairs history), Entries.lookup_ofPairs]
  length_eq := by
    have hsame : (history.map Prod.fst).toFinset =
        (Entries.keys (Entries.ofPairs history)).toFinset := by
      ext key
      rw [Entries.keys_ofPairs, List.mem_toFinset, List.mem_toFinset, List.mem_eraseDups]
    rw [hsame, List.toFinset_card_of_nodup (Entries.nodup_keys_ofPairs history), Entries.keys,
      List.length_map]
  present_eq := map_present _
  mem_present_iff_get? key value :=
    Entries.mem_iff_lookup (nodup_keys_present (Entries.nodup_keys_ofPairs history)) key value

/-- After any run, entries are the dictionary of the settings that were made: they are so
    at each of its points, and a setting of a key that is there is made in place, without
    touching any other entry. -/
theorem run_isDictionaryOf (ops : List (Operation α)) :
    IsDictionaryOf (history ops) (run ops) ∧
    ∀ (op : Operation α) (key : String) (value? : Option α), op.setting? = some (key, value?) →
      history (ops ++ [op]) = history ops ++ [(key, value?)] ∧
      run (ops ++ [op]) =
        if key ∈ Entries.keys (run ops) then
          (run ops).map fun entry => if entry.1 = key then (key, value?) else entry
        else run ops ++ [(key, value?)] := by
  have hdictionary : IsDictionaryOf (history ops) (run ops) := by
    rw [run_eq_ofPairs]
    exact isDictionaryOf_ofPairs (history ops)
  refine ⟨hdictionary, ?_⟩
  intro op key value? hsetting
  constructor
  · rw [history_append_singleton]
    cases op <;> cases hsetting <;> rfl
  · rw [run_append_singleton, Operation.apply_of_setting? hsetting]
    by_cases hmem : key ∈ Entries.keys (run ops)
    · rw [if_pos hmem, Entries.set_of_mem hdictionary.nodup_keys hmem]
    · rw [if_neg hmem, Entries.set_of_not_mem hmem]

end Fields

end SearchQuery
