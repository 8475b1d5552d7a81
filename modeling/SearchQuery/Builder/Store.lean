import SearchQuery.Builder.Basic

/-! # Shared fragments

  Builders that were made from one another have their older fragments in common. A
  store keeps each fragment once, at an address, together with the address of the
  fragment that it was put onto and with the number of its owners: the builders and
  the fragments that refer to it.

  A builder is given by the address of its newest fragment. Copying one adds an owner
  to this fragment and copies nothing else. When a builder is dropped, its newest
  fragment loses an owner, and a fragment without owners is taken out of the store and
  is no longer an owner of what it lay on.
-/

namespace SearchQuery

/-- A fragment in a store. -/
structure Link where
  text : String
  /-- The address of the fragment that this one was put onto. -/
  below? : Option Nat
  /-- How many builders and fragments refer to this one. -/
  owners : Nat
deriving DecidableEq, Repr

/-- Fragments by address. The address of a fragment that was taken out is not used again. -/
structure FragmentStore where
  links : Array (Option Link)
  /-- A fragment lies on an older one. -/
  below_lt : ∀ {a b : Nat} {link : Link},
    (links[a]?).join = some link → link.below? = some b → b < a
deriving DecidableEq, Repr

/-- A builder whose fragments lie in a store. -/
structure StoredBuilder where
  /-- The address of the newest fragment. -/
  newest? : Option Nat
  /-- The number of fragments. -/
  size : Nat
deriving DecidableEq, Repr

namespace FragmentStore

/-- The fragment at an address, if there is one. -/
def get? (s : FragmentStore) (a : Nat) : Option Link := (s.links[a]?).join

/-- The first address that was never used. -/
def next (s : FragmentStore) : Nat := s.links.size

theorem get?_of_next_le {s : FragmentStore} {a : Nat} (h : s.next ≤ a) : s.get? a = none := by
  unfold get?
  rw [Array.getElem?_eq_none h]
  rfl

theorem lt_next_of_get? {s : FragmentStore} {a : Nat} {link : Link} (h : s.get? a = some link) :
    a < s.next := by
  rcases Nat.lt_or_ge a s.next with hlt | hge
  · exact hlt
  · rw [get?_of_next_le hge] at h
    cases h

/-! ### Single changes -/

/-- The store without fragments. -/
def empty : FragmentStore where
  links := #[]
  below_lt h := by simp at h

/-- Changes the number of owners of a fragment. -/
def changeOwners (s : FragmentStore) (a : Nat) (change : Nat → Nat) : FragmentStore where
  links := s.links.modify a (Option.map fun link => { link with owners := change link.owners })
  below_lt := by
    intro c b link h hbelow
    rw [Array.getElem?_modify] at h
    by_cases hc : a = c
    · rw [if_pos hc, Option.join_map_eq_map_join] at h
      obtain ⟨old, hold, rfl⟩ := Option.map_eq_some_iff.mp h
      exact s.below_lt hold hbelow
    · rw [if_neg hc] at h
      exact s.below_lt h hbelow

/-- Takes a fragment out. -/
def erase (s : FragmentStore) (a : Nat) : FragmentStore where
  links := s.links.modify a fun _ => none
  below_lt := by
    intro c b link h hbelow
    rw [Array.getElem?_modify] at h
    by_cases hc : a = c
    · rw [if_pos hc] at h
      cases hlink : s.links[c]? <;> simp [hlink] at h
    · rw [if_neg hc] at h
      exact s.below_lt h hbelow

/-- Puts a fragment with one owner onto another one, at a new address. An address that
    was never used stands for no fragment. -/
def put (s : FragmentStore) (text : String) (below? : Option Nat) : FragmentStore where
  links := s.links.push (some ⟨text, below?.filter (· < s.next), 1⟩)
  below_lt := by
    intro c b link h hbelow
    rw [Array.getElem?_push] at h
    by_cases hc : c = s.links.size
    · rw [if_pos hc] at h
      cases h
      have hlt := (Option.filter_eq_some_iff.mp hbelow).2
      rw [hc]
      exact of_decide_eq_true hlt
    · rw [if_neg hc] at h
      exact s.below_lt h hbelow

theorem get?_changeOwners (s : FragmentStore) (a : Nat) (change : Nat → Nat) (c : Nat) :
    (s.changeOwners a change).get? c =
      if a = c then (s.get? c).map fun link => { link with owners := change link.owners }
      else s.get? c := by
  unfold get? changeOwners
  rw [Array.getElem?_modify]
  by_cases hc : a = c
  · rw [if_pos hc, if_pos hc, Option.join_map_eq_map_join]
  · rw [if_neg hc, if_neg hc]

theorem get?_erase (s : FragmentStore) (a c : Nat) :
    (s.erase a).get? c = if a = c then none else s.get? c := by
  unfold get? erase
  rw [Array.getElem?_modify]
  by_cases hc : a = c
  · rw [if_pos hc, if_pos hc]
    cases s.links[c]? <;> rfl
  · rw [if_neg hc, if_neg hc]

theorem get?_put (s : FragmentStore) (text : String) (below? : Option Nat) (c : Nat) :
    (s.put text below?).get? c =
      if c = s.next then some ⟨text, below?.filter (· < s.next), 1⟩ else s.get? c := by
  unfold get? put
  rw [Array.getElem?_push]
  by_cases hc : c = s.next
  · rw [if_pos hc, if_pos (show c = s.links.size from hc)]
    rfl
  · rw [if_neg hc, if_neg (show ¬ c = s.links.size from hc)]

theorem next_changeOwners (s : FragmentStore) (a : Nat) (change : Nat → Nat) :
    (s.changeOwners a change).next = s.next :=
  Array.size_modify

theorem next_erase (s : FragmentStore) (a : Nat) : (s.erase a).next = s.next :=
  Array.size_modify

theorem next_put (s : FragmentStore) (text : String) (below? : Option Nat) :
    (s.put text below?).next = s.next + 1 :=
  Array.size_push _

/-! ### Builders in a store -/

/-- One more owner of a fragment. -/
def share (s : FragmentStore) : Option Nat → FragmentStore
  | none => s
  | some a => s.changeOwners a (· + 1)

/-- One owner less of a fragment. The last owner takes the fragment with it, and then
    what it lay on has one owner less. -/
def release (s : FragmentStore) (a? : Option Nat) : FragmentStore :=
  match a? with
  | none => s
  | some a =>
    match _hlink : s.get? a with
    | none => s
    | some link =>
      if link.owners = 1 then (s.erase a).release link.below?
      else s.changeOwners a (· - 1)
termination_by a?.elim 0 (· + 1)
decreasing_by
  cases hbelow : link.below? with
  | none => simp
  | some b => simpa using s.below_lt _hlink hbelow

/-- The texts from a fragment down, oldest first, and some newer ones after them. -/
def readOnto (s : FragmentStore) (newer : List String) (a? : Option Nat) : List String :=
  match a? with
  | none => newer
  | some a =>
    match _hlink : s.get? a with
    | none => newer
    | some link => s.readOnto (link.text :: newer) link.below?
termination_by a?.elim 0 (· + 1)
decreasing_by
  cases hbelow : link.below? with
  | none => simp
  | some b => simpa using s.below_lt _hlink hbelow

/-- The builder that is kept in a store. -/
def read (s : FragmentStore) (b : StoredBuilder) : FilterBuilder where
  newestFirst := (s.readOnto [] b.newest?).reverse
  size := b.size

/-- Adds fragments to a builder, the first one below the others. The new builder owns
    its newest fragment in place of the old one. -/
def pushAll (s : FragmentStore) (b : StoredBuilder) : List String → FragmentStore × StoredBuilder
  | [] => (s, b)
  | text :: texts =>
    let a := s.next
    (s.put text b.newest?).pushAll ⟨some a, b.size + 1⟩ texts

/-- Makes a builder with more fragments, and keeps the one that it is made from. -/
def extend (s : FragmentStore) (b : StoredBuilder) (texts : List String) :
    FragmentStore × StoredBuilder :=
  (s.share b.newest?).pushAll b texts

end FragmentStore

end SearchQuery
