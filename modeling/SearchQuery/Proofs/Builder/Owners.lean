import Mathlib.Data.Finset.Card
import Mathlib.Data.Finset.Range
import SearchQuery.Builder.Store

/-! # Owners of shared fragments

  A fragment stays in a store as long as it has owners, and the number of them is only
  kept, never counted again. So all depends on this number being right. A store is
  balanced when each fragment has as many owners as hold it: those outside the store, and
  the fragments that lie on it.

  Sharing, putting and releasing move the number along with the holders. It follows that
  what is held is there, down to its oldest fragment, and that none of the three changes
  how it reads.
-/

namespace SearchQuery

namespace FragmentStore

/-! ### Counting -/

/-- A set to which one more number may have been added. -/
theorem card_of_added {old new : Finset Nat} {x : Nat} {p : Prop} [Decidable p] (hx : x ∉ old)
    (h : ∀ d, d ∈ new ↔ if d = x then p else d ∈ old) :
    new.card = old.card + if p then 1 else 0 := by
  by_cases hp : p
  · have hinsert : new = insert x old := by
      ext d
      rw [h, Finset.mem_insert]
      by_cases hd : d = x
      · simp [hd, hp]
      · simp [hd]
    rw [hinsert, Finset.card_insert_of_notMem hx, if_pos hp]
  · have hsame : new = old := by
      ext d
      rw [h]
      by_cases hd : d = x
      · simp [hd, hp, hx]
      · simp [hd]
    rw [hsame, if_neg hp]
    rfl

/-- A set from which a number is taken that may have been in it. -/
theorem card_erase_add {s : Finset Nat} {x : Nat} {p : Prop} [Decidable p] (h : x ∈ s ↔ p) :
    s.card = (s.erase x).card + if p then 1 else 0 := by
  by_cases hp : p
  · rw [if_pos hp, Finset.card_erase_add_one (h.mpr hp)]
  · rw [if_neg hp, Finset.erase_eq_of_notMem fun hx => hp (h.mp hx)]
    rfl

/-! ### Holders -/

/-- What the fragment at an address was put onto. -/
def below? (s : FragmentStore) (a : Nat) : Option Nat := (s.get? a).bind Link.below?

/-- The fragments that lie on the one at an address. -/
def above (s : FragmentStore) (a : Nat) : Finset Nat :=
  (Finset.range s.next).filter fun c => s.below? c = some a

/-- The number of owners that is kept for an address. -/
def ownersAt (s : FragmentStore) (a : Nat) : Nat := (s.get? a).elim 0 Link.owners

/-- One holder, if there is an address to hold. -/
def oneAt (a? : Option Nat) (a : Nat) : Nat := if a? = some a then 1 else 0

/-- The numbers of owners are right, when `held a` holders outside the store hold the
    fragment at `a`. -/
def IsBalanced (held : Nat → Nat) (s : FragmentStore) : Prop :=
  ∀ a, s.ownersAt a = held a + (s.above a).card

/-- The newest fragment of a builder is there. -/
def Has (s : FragmentStore) (a? : Option Nat) : Prop :=
  ∀ a, a? = some a → ∃ link, s.get? a = some link

variable {s : FragmentStore} {held : Nat → Nat}

theorem mem_above {a c : Nat} : c ∈ s.above a ↔ s.below? c = some a := by
  unfold above
  rw [Finset.mem_filter, Finset.mem_range]
  constructor
  · exact fun h => h.2
  · intro h
    obtain ⟨link, hlink, -⟩ := Option.bind_eq_some_iff.mp h
    exact ⟨lt_next_of_get? hlink, h⟩

theorem oneAt_self (a : Nat) : oneAt (some a) a = 1 := if_pos rfl

theorem oneAt_of_ne {a? : Option Nat} {a : Nat} (h : a? ≠ some a) : oneAt a? a = 0 := if_neg h

theorem exists_of_ownersAt_pos {a : Nat} (h : 0 < s.ownersAt a) : ∃ link, s.get? a = some link := by
  unfold ownersAt at h
  cases hlink : s.get? a with
  | none =>
    rw [hlink] at h
    exact absurd h (Nat.lt_irrefl 0)
  | some link => exact ⟨link, rfl⟩

theorem ownersAt_of_get? {a : Nat} {link : Link} (h : s.get? a = some link) :
    s.ownersAt a = link.owners := by
  rw [ownersAt, h]
  rfl

namespace IsBalanced

/-- What is held from outside is there. -/
theorem exists_of_held (h : s.IsBalanced held) {a : Nat} (hheld : 0 < held a) :
    ∃ link, s.get? a = some link := by
  have howners := h a
  exact exists_of_ownersAt_pos (by omega)

/-- What a fragment lies on is there. -/
theorem exists_below (h : s.IsBalanced held) {a b : Nat} {link : Link}
    (hlink : s.get? a = some link) (hbelow : link.below? = some b) :
    ∃ link', s.get? b = some link' := by
  have hmem : a ∈ s.above b := by
    rw [mem_above, below?, hlink]
    exact hbelow
  have hpos : 0 < (s.above b).card := Finset.card_pos.mpr ⟨a, hmem⟩
  have howners := h b
  exact exists_of_ownersAt_pos (by omega)

/-- A holder that is counted beside the others holds something. -/
theorem has {a? : Option Nat} (h : s.IsBalanced fun a => held a + oneAt a? a) : s.Has a? := by
  rintro a rfl
  exact h.exists_of_held (by rw [oneAt_self]; omega)

end IsBalanced

theorem below?_changeOwners (s : FragmentStore) (a : Nat) (change : Nat → Nat) (c : Nat) :
    (s.changeOwners a change).below? c = s.below? c := by
  unfold below?
  rw [get?_changeOwners]
  by_cases hc : a = c
  · rw [if_pos hc]
    cases s.get? c <;> rfl
  · rw [if_neg hc]

theorem above_changeOwners (s : FragmentStore) (a : Nat) (change : Nat → Nat) (c : Nat) :
    (s.changeOwners a change).above c = s.above c := by
  ext d
  rw [mem_above, mem_above, below?_changeOwners]

theorem ownersAt_changeOwners_self {a : Nat} {link : Link} (h : s.get? a = some link)
    (change : Nat → Nat) : (s.changeOwners a change).ownersAt a = change link.owners := by
  rw [ownersAt, get?_changeOwners, if_pos rfl, h]
  rfl

theorem ownersAt_changeOwners_of_ne {a c : Nat} (h : a ≠ c) (change : Nat → Nat) :
    (s.changeOwners a change).ownersAt c = s.ownersAt c := by
  rw [ownersAt, get?_changeOwners, if_neg h, ownersAt]

theorem IsBalanced.share (h : s.IsBalanced held) {a? : Option Nat} (ha : s.Has a?) :
    (s.share a?).IsBalanced fun a => held a + oneAt a? a := by
  cases a? with
  | none => exact h
  | some a =>
    obtain ⟨link, hlink⟩ := ha a rfl
    intro c
    have howners := h c
    show (s.changeOwners a (· + 1)).ownersAt c =
      held c + oneAt (some a) c + ((s.changeOwners a (· + 1)).above c).card
    rw [above_changeOwners]
    by_cases hc : a = c
    · subst hc
      rw [ownersAt_of_get? hlink] at howners
      rw [ownersAt_changeOwners_self hlink, oneAt_self]
      omega
    · rw [ownersAt_changeOwners_of_ne hc, oneAt_of_ne (by simpa using hc)]
      omega

/-! ### Putting -/

theorem Has.filter_eq {a? : Option Nat} (h : s.Has a?) : a?.filter (· < s.next) = a? := by
  cases a? with
  | none => rfl
  | some a =>
    obtain ⟨link, hlink⟩ := h a rfl
    exact Option.filter_some_pos (by simpa using lt_next_of_get? hlink)

theorem get?_put_of_has {a? : Option Nat} (h : s.Has a?) (text : String) (c : Nat) :
    (s.put text a?).get? c = if c = s.next then some ⟨text, a?, 1⟩ else s.get? c := by
  rw [get?_put, h.filter_eq]

theorem mem_above_put {a? : Option Nat} (h : s.Has a?) (text : String) (c d : Nat) :
    d ∈ (s.put text a?).above c ↔ if d = s.next then a? = some c else d ∈ s.above c := by
  rw [mem_above, below?, get?_put_of_has h]
  by_cases hd : d = s.next
  · rw [if_pos hd, if_pos hd]
    rfl
  · rw [if_neg hd, if_neg hd, mem_above, below?]

theorem next_not_mem_above (s : FragmentStore) (c : Nat) : s.next ∉ s.above c := by
  rw [mem_above, below?, get?_of_next_le (Nat.le_refl s.next)]
  intro h
  cases h

theorem card_above_put {a? : Option Nat} (h : s.Has a?) (text : String) (c : Nat) :
    ((s.put text a?).above c).card = (s.above c).card + oneAt a? c :=
  card_of_added (s.next_not_mem_above c) (mem_above_put h text c)

/-- The new fragment is held in place of the one that it was put onto. -/
theorem IsBalanced.put {a? : Option Nat} (h : s.IsBalanced fun a => held a + oneAt a? a)
    (text : String) : (s.put text a?).IsBalanced fun a => held a + oneAt (some s.next) a := by
  intro c
  have howners : s.ownersAt c = held c + oneAt a? c + (s.above c).card := h c
  show (s.put text a?).ownersAt c =
    held c + oneAt (some s.next) c + ((s.put text a?).above c).card
  rw [card_above_put h.has]
  by_cases hc : c = s.next
  · -- nothing could hold an address that was never used
    have hzero : s.ownersAt c = 0 := by rw [ownersAt, hc, get?_of_next_le (Nat.le_refl _)]; rfl
    have hone : (s.put text a?).ownersAt c = 1 := by
      rw [ownersAt, get?_put_of_has h.has, if_pos hc]
      rfl
    rw [hone, hc, oneAt_self]
    rw [hzero, hc] at howners
    omega
  · have hsame : (s.put text a?).ownersAt c = s.ownersAt c := by
      rw [ownersAt, get?_put_of_has h.has, if_neg hc, ownersAt]
    have hzero : oneAt (some s.next) c = 0 := oneAt_of_ne (by simpa using Ne.symm hc)
    rw [hsame, hzero]
    omega

/-! ### Releasing -/

theorem above_erase (s : FragmentStore) (a c : Nat) : (s.erase a).above c = (s.above c).erase a := by
  ext d
  rw [mem_above, below?, get?_erase, Finset.mem_erase, mem_above, below?]
  by_cases hd : a = d
  · simp [hd]
  · simp [hd, Ne.symm hd]

/-- Taking out a fragment that only one holder holds leaves what it lay on to this holder. -/
theorem IsBalanced.erase {a : Nat} {link : Link}
    (h : s.IsBalanced fun c => held c + oneAt (some a) c) (hlink : s.get? a = some link)
    (hone : link.owners = 1) : (s.erase a).IsBalanced fun c => held c + oneAt link.below? c := by
  intro c
  have howners : s.ownersAt c = held c + oneAt (some a) c + (s.above c).card := h c
  have hmem : a ∈ s.above c ↔ link.below? = some c := by
    rw [mem_above, FragmentStore.below?, hlink]
    rfl
  have hcard : (s.above c).card = ((s.above c).erase a).card + oneAt link.below? c :=
    card_erase_add hmem
  show (s.erase a).ownersAt c = held c + oneAt link.below? c + ((s.erase a).above c).card
  rw [above_erase]
  by_cases hc : a = c
  · subst hc
    -- the holder that lets go was the only one, and no fragment lies on itself
    have hzero : (s.erase a).ownersAt a = 0 := by rw [ownersAt, get?_erase, if_pos rfl]; rfl
    rw [ownersAt_of_get? hlink, hone, oneAt_self] at howners
    rw [hzero]
    omega
  · have hsame : (s.erase a).ownersAt c = s.ownersAt c := by
      rw [ownersAt, get?_erase, if_neg hc, ownersAt]
    rw [oneAt_of_ne (by simpa using hc)] at howners
    rw [hsame]
    omega

theorem IsBalanced.release {a? : Option Nat} (h : s.IsBalanced fun a => held a + oneAt a? a) :
    (s.release a?).IsBalanced held := by
  fun_induction FragmentStore.release s a? with
  | case1 s => exact h
  | case2 s a hnone =>
    obtain ⟨link, hlink⟩ := h.has a rfl
    rw [hnone] at hlink
    cases hlink
  | case3 s a link hlink hone ih => exact ih (h.erase hlink hone)
  | case4 s a link hlink hone =>
    intro c
    have howners : s.ownersAt c = held c + oneAt (some a) c + (s.above c).card := h c
    rw [above_changeOwners]
    by_cases hc : a = c
    · subst hc
      rw [ownersAt_of_get? hlink, oneAt_self] at howners
      rw [ownersAt_changeOwners_self hlink]
      omega
    · rw [oneAt_of_ne (by simpa using hc)] at howners
      rw [ownersAt_changeOwners_of_ne hc]
      omega

/-! ### Reading -/

theorem readOnto_none (s : FragmentStore) (newer : List String) : s.readOnto newer none = newer := by
  unfold readOnto
  rfl

theorem readOnto_some {a : Nat} {link : Link} (h : s.get? a = some link) (newer : List String) :
    s.readOnto newer (some a) = s.readOnto (link.text :: newer) link.below? := by
  rw [readOnto]
  split
  · next hnone =>
    rw [hnone] at h
    cases h
  · next link' hsome =>
    rw [hsome] at h
    cases h
    rfl

theorem readOnto_append (s : FragmentStore) (newer newest : List String) (a? : Option Nat) :
    s.readOnto (newer ++ newest) a? = s.readOnto newer a? ++ newest := by
  fun_induction FragmentStore.readOnto s newer a? with
  | case1 newer => exact s.readOnto_none _
  | case2 newer a hnone =>
    rw [readOnto]
    split
    · rfl
    · next link hsome =>
      rw [hnone] at hsome
      cases hsome
  | case3 newer a link hlink ih =>
    rw [readOnto_some hlink]
    exact ih

/-- What reading sees of a fragment. -/
def content? (s : FragmentStore) (a : Nat) : Option (String × Option Nat) :=
  (s.get? a).map fun link => (link.text, link.below?)

/-- Reading sees the fragments that are met on the way down, and nothing else. -/
theorem readOnto_congr {s' : FragmentStore} (met : Nat → Prop)
    (hmet : ∀ a b link, met a → s.get? a = some link → link.below? = some b → met b)
    (hsame : ∀ a, met a → s'.content? a = s.content? a) (newer : List String) {a? : Option Nat}
    (ha : ∀ a, a? = some a → met a) : s'.readOnto newer a? = s.readOnto newer a? := by
  fun_induction FragmentStore.readOnto s newer a? with
  | case1 newer => exact s'.readOnto_none newer
  | case2 newer a hnone =>
    have hcontent := hsame a (ha a rfl)
    rw [content?, content?, hnone] at hcontent
    rw [readOnto]
    split
    · rfl
    · next link hsome => simp [hsome] at hcontent
  | case3 newer a link hlink ih =>
    have hcontent := hsame a (ha a rfl)
    rw [content?, content?, hlink] at hcontent
    obtain ⟨link', hlink', heq⟩ := Option.map_eq_some_iff.mp hcontent
    rw [Prod.mk.injEq] at heq
    rw [readOnto_some hlink', heq.1, heq.2]
    exact ih fun b hb => hmet a b link (ha a rfl) hlink hb

theorem content?_changeOwners (s : FragmentStore) (a : Nat) (change : Nat → Nat) (c : Nat) :
    (s.changeOwners a change).content? c = s.content? c := by
  unfold content?
  rw [get?_changeOwners]
  by_cases hc : a = c
  · rw [if_pos hc]
    cases s.get? c <;> rfl
  · rw [if_neg hc]

theorem readOnto_share (s : FragmentStore) (a? : Option Nat) (newer : List String)
    (c? : Option Nat) : (s.share a?).readOnto newer c? = s.readOnto newer c? := by
  cases a? with
  | none => rfl
  | some a =>
    refine readOnto_congr (fun _ => True) ?_ ?_ newer fun _ _ => trivial
    · intro _ _ _ _ _ _
      trivial
    · intro c _
      exact content?_changeOwners s a _ c

theorem readOnto_put {a? c? : Option Nat} (ha : s.Has a?) (hc : s.Has c?) (text : String)
    (newer : List String) : (s.put text a?).readOnto newer c? = s.readOnto newer c? := by
  -- what is read lies below the new address, and stays there
  refine readOnto_congr (· < s.next) ?_ ?_ newer ?_
  · intro a b link hlt hlink hbelow
    exact Nat.lt_trans (s.below_lt hlink hbelow) hlt
  · intro c hlt
    rw [content?, get?_put_of_has ha, if_neg (Nat.ne_of_lt hlt), content?]
  · intro c hread
    obtain ⟨link, hlink⟩ := hc c hread
    exact lt_next_of_get? hlink

/-- Releasing changes no fragment that it leaves. -/
theorem content?_of_release {a? : Option Nat} {c : Nat} {link : Link}
    (h : (s.release a?).get? c = some link) : (s.release a?).content? c = s.content? c := by
  fun_induction FragmentStore.release s a? with
  | case1 s => rfl
  | case2 s a hnone => rfl
  | case3 s a link' hlink hone ih =>
    have hcontent := ih h
    have hthere : (s.erase a).content? c = s.content? c := by
      rw [content?, content?, get?_erase]
      by_cases hc : a = c
      · -- the fragment that was taken out is not left
        rw [content?, h, content?, get?_erase, if_pos hc] at hcontent
        cases hcontent
      · rw [if_neg hc]
    rw [hcontent, hthere]
  | case4 s a link' hlink hone => exact content?_changeOwners s a _ c

/-- What is still held after a release reads as before. -/
theorem readOnto_release {a? c? : Option Nat} (h : (s.release a?).IsBalanced held)
    (hc : (s.release a?).Has c?) (newer : List String) :
    (s.release a?).readOnto newer c? = s.readOnto newer c? := by
  refine (readOnto_congr (fun c => ∃ link, (s.release a?).get? c = some link) ?_ ?_
    newer hc).symm
  · intro a b link _ hlink hbelow
    exact h.exists_below hlink hbelow
  · rintro c ⟨link, hlink⟩
    exact (content?_of_release hlink).symm

end FragmentStore

end SearchQuery
