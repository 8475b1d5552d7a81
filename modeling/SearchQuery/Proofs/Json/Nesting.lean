import SearchQuery.Proofs.Dictionary
import SearchQuery.Proofs.Json.Members

/-! # Nesting

  How deeply JSON values and their texts are nested. A text is nested as deeply as the value
  that it is read to, unless it repeats a name: what a repeated name has replaced is no part
  of the value, however deeply it was nested.

  A document is read if it is not nested too deeply. So a text of a value is read as soon as
  the value itself is not nested too deeply, if nothing is hidden behind a repeated name.
-/

namespace SearchQuery

/-! ### Depth -/

namespace Json

mutual

/-- How many arrays and objects lie inside one another. -/
def depth : Json → Nat
  | array items => depthOfItems items + 1
  | object members => depthOfMembers members + 1
  | _ => 0

def depthOfItems : List Json → Nat
  | [] => 0
  | item :: items => max item.depth (depthOfItems items)

def depthOfMembers : List (String × Json) → Nat
  | [] => 0
  | (_, member) :: members => max member.depth (depthOfMembers members)

end

end Json

namespace RawJson

mutual

/-- No object repeats a name, at any depth. -/
def RepeatsNoName : RawJson → Prop
  | array items => ItemsRepeatNoName items
  | object members => NamesDiffer (object members) ∧ MembersRepeatNoName members
  | _ => True

def ItemsRepeatNoName : List RawJson → Prop
  | [] => True
  | item :: items => RepeatsNoName item ∧ ItemsRepeatNoName items

def MembersRepeatNoName : List (List Quoted.Piece × RawJson) → Prop
  | [] => True
  | (_, value) :: members => RepeatsNoName value ∧ MembersRepeatNoName members

end

end RawJson

namespace Json

variable {reading : NumeralReading}

/-- Members are read under the names that are written. -/
theorem keys_ofRawMembers? {members : List (List Quoted.Piece × RawJson)} {entries : Entries Json}
    (h : ofRawMembers? reading members = some entries) :
    members.map (fun member => Quoted.Piece.toString? member.1) = entries.keys.map some := by
  induction members generalizing entries with
  | nil =>
    cases h
    rfl
  | cons member members ih =>
    obtain ⟨key, value⟩ := member
    simp only [ofRawMembers?, Option.bind_eq_bind, Option.bind_eq_some_iff, Option.pure_def,
      Option.some_inj] at h
    obtain ⟨name, hname, j, -, rest, hrest, rfl⟩ := h
    rw [List.map_cons, ih hrest, hname]
    rfl

mutual

/-- A text without repeated names is nested as deeply as its value. -/
theorem depth_eq_of_ofRaw? : ∀ {raw : RawJson} {j : Json}, ofRaw? reading raw = some j →
    raw.RepeatsNoName → raw.depth = j.depth
  | .null, _, h, _ | .bool _, _, h, _ => by
    cases h
    rfl
  | .number _, _, h, _ | .string _, _, h, _ => by
    obtain ⟨_, -, rfl⟩ := Option.map_eq_some_iff.mp h
    rfl
  | .array items, _, h, hnames => by
    rw [ofRaw?, Option.map_eq_some_iff] at h
    obtain ⟨js, hjs, rfl⟩ := h
    exact congrArg (· + 1) (depth_eq_of_ofRawItems? hjs hnames)
  | .object members, _, h, ⟨hnames, hmembers⟩ => by
    rw [ofRaw?, Option.map_eq_some_iff] at h
    obtain ⟨entries, hentries, rfl⟩ := h
    have hnodup : (Entries.keys entries).Nodup := by
      rw [RawJson.NamesDiffer, keys_ofRawMembers? hentries] at hnames
      exact hnames.of_map some
    rw [Entries.ofPairs_of_nodup hnodup]
    exact congrArg (· + 1) (depth_eq_of_ofRawMembers? hentries hmembers)

theorem depth_eq_of_ofRawItems? : ∀ {items : List RawJson} {js : List Json},
    ofRawItems? reading items = some js → RawJson.ItemsRepeatNoName items →
    RawJson.depthOfItems items = depthOfItems js
  | [], _, h, _ => by
    cases h
    rfl
  | item :: items, _, h, ⟨hitem, hitems⟩ => by
    simp only [ofRawItems?, Option.bind_eq_bind, Option.bind_eq_some_iff, Option.pure_def,
      Option.some_inj] at h
    obtain ⟨j, hj, js, hjs, rfl⟩ := h
    exact congrArg₂ max (depth_eq_of_ofRaw? hj hitem) (depth_eq_of_ofRawItems? hjs hitems)

theorem depth_eq_of_ofRawMembers? :
    ∀ {members : List (List Quoted.Piece × RawJson)} {entries : Entries Json},
    ofRawMembers? reading members = some entries → RawJson.MembersRepeatNoName members →
    RawJson.depthOfMembers members = depthOfMembers entries
  | [], _, h, _ => by
    cases h
    rfl
  | (key, value) :: members, _, h, ⟨hvalue, hmembers⟩ => by
    simp only [ofRawMembers?, Option.bind_eq_bind, Option.bind_eq_some_iff, Option.pure_def,
      Option.some_inj] at h
    obtain ⟨name, -, j, hj, entries, hentries, rfl⟩ := h
    exact congrArg₂ max (depth_eq_of_ofRaw? hj hvalue) (depth_eq_of_ofRawMembers? hentries hmembers)

end

/-! ### Texts -/

theorem ofString?_eq_some_iff {text : String} {j : Json} :
    ofString? reading text = some j ↔
      ∃ raw, RawJson.ofString? text = some raw ∧ raw.depth ≤ maxDepth ∧
        ofRaw? reading raw = some j := by
  unfold ofString?
  simp only [Option.bind_eq_bind, Option.bind_eq_some_iff, Option.ite_none_right_eq_some]

variable (reading) in
/-- The texts that denote a value. A text may repeat names, but not hide behind them what is
    nested too deeply to be read. -/
def DenotedBy (j : Json) (text : String) : Prop :=
  ∃ raw, RawJson.ofString? text = some raw ∧ ofRaw? reading raw = some j ∧
    (raw.depth ≤ maxDepth ∨ raw.RepeatsNoName)

variable {j j' : Json} {text : String}

/-- A text of a value that is not nested too deeply is read to this value. -/
theorem DenotedBy.ofString?_eq (h : j.DenotedBy reading text) (hdepth : j.depth ≤ maxDepth) :
    ofString? reading text = some j := by
  obtain ⟨raw, hraw, hread, hnesting⟩ := h
  refine ofString?_eq_some_iff.mpr ⟨raw, hraw, ?_, hread⟩
  rcases hnesting with hfits | hnames
  · exact hfits
  · exact (depth_eq_of_ofRaw? hread hnames).trans_le hdepth

/-- A text of a value is read to nothing else. -/
theorem DenotedBy.eq_of_ofString? (h : j.DenotedBy reading text)
    (h' : ofString? reading text = some j') : j' = j := by
  obtain ⟨raw, hraw, hread, -⟩ := h
  obtain ⟨raw', hraw', -, hread'⟩ := ofString?_eq_some_iff.mp h'
  obtain rfl : raw = raw' := Option.some_inj.mp (hraw.symm.trans hraw')
  exact Option.some_inj.mp (hread'.symm.trans hread)

end Json

end SearchQuery
