import Mathlib.Data.List.Induction
import SearchQuery.Builder.Workspace
import SearchQuery.Proofs.Builder.Owners

/-! # Persistence of builders

  A builder keeps the fragments that were added on its own way from an empty one,
  whatever else is done with the builders it was made from or that were made from it.

  What each slot should hold is told by the script alone: every slot gets its own list
  of texts, and no list is ever shared. The workspace agrees with this, although it
  shares fragments and takes them out when their last owner goes. The invariant that
  carries the proof is that the numbers of owners are right: the builders in the slots
  and the fragments in the store are all the holders there are.
-/

namespace SearchQuery

namespace FilterBuilder

/-- Adds fragments, the first one below the others. -/
def pushAll (b : FilterBuilder) (texts : List String) : FilterBuilder :=
  texts.foldl push b

/-- The builder with some fragments, oldest first. -/
def ofTexts (texts : List String) : FilterBuilder := empty.pushAll texts

theorem pushAll_ofTexts (texts texts' : List String) :
    (ofTexts texts).pushAll texts' = ofTexts (texts ++ texts') :=
  List.foldl_append.symm

end FilterBuilder

/-! ### Builders in a store -/

namespace FragmentStore

variable {s : FragmentStore} {held : Nat → Nat}

theorem has_next_put (s : FragmentStore) (text : String) (a? : Option Nat) :
    (s.put text a?).Has (some s.next) := by
  rintro a ⟨⟩
  rw [get?_put, if_pos rfl]
  exact ⟨_, rfl⟩

theorem Has.put {c? : Option Nat} (h : s.Has c?) (text : String) (a? : Option Nat) :
    (s.put text a?).Has c? := by
  intro c hc
  obtain ⟨link, hlink⟩ := h c hc
  refine ⟨link, ?_⟩
  rw [get?_put, if_neg (Nat.ne_of_lt (lt_next_of_get? hlink)), hlink]

theorem Has.share {c? : Option Nat} (h : s.Has c?) (a? : Option Nat) : (s.share a?).Has c? := by
  cases a? with
  | none => exact h
  | some a =>
    intro c hc
    obtain ⟨link, hlink⟩ := h c hc
    show ∃ link', (s.changeOwners a (· + 1)).get? c = some link'
    rw [get?_changeOwners, hlink]
    by_cases hac : a = c
    · exact ⟨_, if_pos hac⟩
    · exact ⟨_, if_neg hac⟩

theorem read_share (s : FragmentStore) (a? : Option Nat) (b : StoredBuilder) :
    (s.share a?).read b = s.read b := by
  rw [read, readOnto_share, read]

theorem read_put_of_has {a? : Option Nat} (ha : s.Has a?) {b : StoredBuilder}
    (hb : s.Has b.newest?) (text : String) : (s.put text a?).read b = s.read b := by
  rw [read, readOnto_put ha hb, read]

/-- The builder whose newest fragment was just put reads as the old one with this
    fragment added. -/
theorem read_put {b : StoredBuilder} (h : s.Has b.newest?) (text : String) :
    (s.put text b.newest?).read ⟨some s.next, b.size + 1⟩ = (s.read b).push text := by
  have hlink : (s.put text b.newest?).get? s.next = some ⟨text, b.newest?, 1⟩ := by
    rw [get?_put_of_has h, if_pos rfl]
  have hread : (s.put text b.newest?).readOnto [] (some s.next) =
      s.readOnto [] b.newest? ++ [text] := by
    rw [readOnto_some hlink, readOnto_put h h, ← readOnto_append, List.nil_append]
  unfold read FilterBuilder.push
  rw [hread, List.reverse_append]
  rfl

theorem read_empty (s : FragmentStore) : s.read ⟨none, 0⟩ = FilterBuilder.empty := by
  rw [read, readOnto_none]
  rfl

/-- Adding fragments hands what is held over to the newest one. -/
theorem IsBalanced.pushAll {b : StoredBuilder}
    (h : s.IsBalanced fun a => held a + oneAt b.newest? a) (texts : List String) :
    (s.pushAll b texts).1.IsBalanced fun a => held a + oneAt (s.pushAll b texts).2.newest? a := by
  induction texts generalizing s b with
  | nil => exact h
  | cons text texts ih => exact ih (b := ⟨some s.next, b.size + 1⟩) (h.put text)

theorem read_pushAll {b : StoredBuilder} (h : s.Has b.newest?) (texts : List String) :
    (s.pushAll b texts).1.read (s.pushAll b texts).2 = (s.read b).pushAll texts := by
  induction texts generalizing s b with
  | nil => rfl
  | cons text texts ih =>
    show ((s.put text b.newest?).pushAll ⟨some s.next, b.size + 1⟩ texts).1.read
        ((s.put text b.newest?).pushAll ⟨some s.next, b.size + 1⟩ texts).2 =
      ((s.read b).push text).pushAll texts
    rw [ih (has_next_put s text b.newest?), read_put h]

/-- The other builders read as before. -/
theorem read_pushAll_of_has {b c : StoredBuilder} (hb : s.Has b.newest?) (hc : s.Has c.newest?)
    (texts : List String) : (s.pushAll b texts).1.read c = s.read c := by
  induction texts generalizing s b with
  | nil => rfl
  | cons text texts ih =>
    show ((s.put text b.newest?).pushAll ⟨some s.next, b.size + 1⟩ texts).1.read c = s.read c
    rw [ih (has_next_put s text b.newest?) (hc.put text b.newest?), read_put_of_has hb hc]

theorem IsBalanced.extend {b : StoredBuilder} (h : s.IsBalanced held) (hb : s.Has b.newest?)
    (texts : List String) :
    (s.extend b texts).1.IsBalanced fun a => held a + oneAt (s.extend b texts).2.newest? a :=
  (h.share hb).pushAll texts

theorem read_extend {b : StoredBuilder} (h : s.Has b.newest?) (texts : List String) :
    (s.extend b texts).1.read (s.extend b texts).2 = (s.read b).pushAll texts := by
  unfold extend
  rw [read_pushAll (h.share b.newest?), read_share]

theorem read_extend_of_has {b c : StoredBuilder} (hb : s.Has b.newest?) (hc : s.Has c.newest?)
    (texts : List String) : (s.extend b texts).1.read c = s.read c := by
  unfold extend
  rw [read_pushAll_of_has (hb.share b.newest?) (hc.share b.newest?), read_share]

/-- What is still held after a release reads as before. -/
theorem read_release {a? : Option Nat} (h : s.IsBalanced fun a => held a + oneAt a? a)
    {b : StoredBuilder} (hb : (s.release a?).Has b.newest?) : (s.release a?).read b = s.read b := by
  rw [read, readOnto_release h.release hb, read]

end FragmentStore

namespace Workspace

variable {w : Workspace}

/-! ### Slots as holders -/

/-- The slots whose builders hold the fragment at an address. -/
def holding (w : Workspace) (a : Nat) : Finset Nat :=
  (Finset.range w.nextSlot).filter fun slot =>
    (w.stored? slot).bind StoredBuilder.newest? = some a

/-- The builders in the slots hold fragments, and nothing else outside the store does. -/
def IsBalanced (w : Workspace) : Prop := w.store.IsBalanced fun a => (w.holding a).card

theorem lt_nextSlot_of_stored? {slot : Nat} {b : StoredBuilder} (h : w.stored? slot = some b) :
    slot < w.nextSlot := by
  by_contra hge
  rw [stored?, Array.getElem?_eq_none (Nat.le_of_not_lt hge)] at h
  cases h

theorem mem_holding {a slot : Nat} :
    slot ∈ w.holding a ↔ (w.stored? slot).bind StoredBuilder.newest? = some a := by
  unfold holding
  rw [Finset.mem_filter, Finset.mem_range]
  constructor
  · exact fun h => h.2
  · intro h
    obtain ⟨b, hb, -⟩ := Option.bind_eq_some_iff.mp h
    exact ⟨lt_nextSlot_of_stored? hb, h⟩

/-- The newest fragment of a builder in a slot is there. -/
theorem IsBalanced.has (h : w.IsBalanced) {slot : Nat} {b : StoredBuilder}
    (hb : w.stored? slot = some b) : w.store.Has b.newest? := by
  intro a ha
  have hmem : slot ∈ w.holding a := by
    rw [mem_holding, hb]
    exact ha
  exact FragmentStore.IsBalanced.exists_of_held h (Finset.card_pos.mpr ⟨slot, hmem⟩)

theorem stored?_extend (w : Workspace) (b : StoredBuilder) (texts : List String) (slot : Nat) :
    (w.extend b texts).stored? slot =
      if slot = w.nextSlot then some (w.store.extend b texts).2 else w.stored? slot := by
  show ((w.slots.push (some (w.store.extend b texts).2))[slot]?).join = _
  rw [Array.getElem?_push]
  by_cases hslot : slot = w.nextSlot
  · rw [if_pos hslot, if_pos (show slot = w.slots.size from hslot)]
    rfl
  · rw [if_neg hslot, if_neg (show ¬ slot = w.slots.size from hslot), stored?]

theorem nextSlot_extend (w : Workspace) (b : StoredBuilder) (texts : List String) :
    (w.extend b texts).nextSlot = w.nextSlot + 1 :=
  Array.size_push _

theorem card_holding_extend (w : Workspace) (b : StoredBuilder) (texts : List String) (a : Nat) :
    ((w.extend b texts).holding a).card =
      (w.holding a).card + FragmentStore.oneAt (w.store.extend b texts).2.newest? a := by
  have hnew : w.nextSlot ∉ w.holding a := by
    intro hmem
    rw [mem_holding] at hmem
    obtain ⟨b', hb', -⟩ := Option.bind_eq_some_iff.mp hmem
    exact Nat.lt_irrefl _ (lt_nextSlot_of_stored? hb')
  have hmem : ∀ slot, slot ∈ (w.extend b texts).holding a ↔
      if slot = w.nextSlot then (w.store.extend b texts).2.newest? = some a
      else slot ∈ w.holding a := by
    intro slot
    rw [mem_holding, stored?_extend]
    by_cases hslot : slot = w.nextSlot
    · rw [if_pos hslot, if_pos hslot]
      rfl
    · rw [if_neg hslot, if_neg hslot, mem_holding]
  exact FragmentStore.card_of_added hnew hmem

theorem IsBalanced.extend (h : w.IsBalanced) {b : StoredBuilder} (hb : w.store.Has b.newest?)
    (texts : List String) : (w.extend b texts).IsBalanced := by
  unfold IsBalanced
  simp only [card_holding_extend]
  exact FragmentStore.IsBalanced.extend h hb texts

theorem get?_extend (h : w.IsBalanced) {b : StoredBuilder} (hb : w.store.Has b.newest?)
    (texts : List String) (slot : Nat) :
    (w.extend b texts).get? slot =
      if slot = w.nextSlot then some ((w.store.read b).pushAll texts) else w.get? slot := by
  rw [get?, stored?_extend]
  by_cases hslot : slot = w.nextSlot
  · rw [if_pos hslot, if_pos hslot, ← FragmentStore.read_extend hb]
    rfl
  · rw [if_neg hslot, if_neg hslot, get?]
    refine Option.map_congr fun c hc => ?_
    exact FragmentStore.read_extend_of_has hb (h.has hc) texts

/-! ### An emptied slot -/

theorem drop_of_stored? {slot : Nat} {b : StoredBuilder} (h : w.stored? slot = some b) :
    w.drop slot = ⟨w.store.release b.newest?, w.slots.modify slot fun _ => none⟩ := by
  rw [drop, h]

theorem drop_of_none {slot : Nat} (h : w.stored? slot = none) : w.drop slot = w := by
  rw [drop, h]

theorem nextSlot_drop (w : Workspace) (slot : Nat) : (w.drop slot).nextSlot = w.nextSlot := by
  cases hslot : w.stored? slot with
  | none => rw [drop_of_none hslot]
  | some b =>
    rw [drop_of_stored? hslot]
    exact Array.size_modify

theorem stored?_drop (w : Workspace) (slot i : Nat) :
    (w.drop slot).stored? i = if i = slot then none else w.stored? i := by
  cases hslot : w.stored? slot with
  | none =>
    rw [drop_of_none hslot]
    by_cases hi : i = slot
    · rw [if_pos hi, hi, hslot]
    · rw [if_neg hi]
  | some b =>
    rw [drop_of_stored? hslot]
    show ((w.slots.modify slot fun _ => none)[i]?).join = _
    rw [Array.getElem?_modify]
    by_cases hi : i = slot
    · rw [if_pos hi, if_pos hi.symm]
      cases w.slots[i]? <;> rfl
    · rw [if_neg hi, if_neg (Ne.symm hi), stored?]

theorem card_holding_drop {slot : Nat} {b : StoredBuilder} (h : w.stored? slot = some b)
    (a : Nat) :
    (w.holding a).card = ((w.drop slot).holding a).card + FragmentStore.oneAt b.newest? a := by
  have hmem : slot ∈ w.holding a ↔ b.newest? = some a := by
    rw [mem_holding, h]
    rfl
  have herase : (w.drop slot).holding a = (w.holding a).erase slot := by
    ext i
    rw [mem_holding, stored?_drop, Finset.mem_erase, mem_holding]
    by_cases hi : i = slot
    · simp [hi]
    · simp [hi]
  rw [herase]
  exact FragmentStore.card_erase_add hmem

/-- The slot that is emptied counts beside the others that hold the same fragment. -/
theorem IsBalanced.store_of_drop (h : w.IsBalanced) {slot : Nat} {b : StoredBuilder}
    (hb : w.stored? slot = some b) :
    w.store.IsBalanced fun a =>
      ((w.drop slot).holding a).card + FragmentStore.oneAt b.newest? a := by
  unfold IsBalanced at h
  simpa only [card_holding_drop hb] using h

theorem IsBalanced.drop (h : w.IsBalanced) (slot : Nat) : (w.drop slot).IsBalanced := by
  cases hslot : w.stored? slot with
  | none => rwa [drop_of_none hslot]
  | some b =>
    have hstore : (w.drop slot).store = w.store.release b.newest? := by rw [drop_of_stored? hslot]
    unfold IsBalanced
    rw [hstore]
    exact (h.store_of_drop hslot).release

theorem get?_drop (h : w.IsBalanced) (slot i : Nat) :
    (w.drop slot).get? i = if i = slot then none else w.get? i := by
  rw [get?, stored?_drop]
  by_cases hi : i = slot
  · rw [if_pos hi, if_pos hi]
    rfl
  · rw [if_neg hi, if_neg hi, get?]
    refine Option.map_congr fun c hc => ?_
    cases hslot : w.stored? slot with
    | none => rw [drop_of_none hslot]
    | some b =>
      have hstore : (w.drop slot).store = w.store.release b.newest? := by
        rw [drop_of_stored? hslot]
      have hstill : (w.drop slot).stored? i = some c := by rw [stored?_drop, if_neg hi, hc]
      have hhas := (h.drop slot).has hstill
      rw [hstore] at hhas ⊢
      exact FragmentStore.read_release (h.store_of_drop hslot) hhas

/-! ### Lineages -/

/-- The texts that were added on the way to the builder of each slot, unless the slot was
    emptied, after a step. A step that fails leaves them as they are. -/
def record (lineages : List (Option (List String))) : Step → List (Option (List String))
  | .new => lineages ++ [some []]
  | .derive slot derivation =>
    match lineages[slot]?.join, derivation.texts with
    | some texts, .ok added => lineages ++ [some (texts ++ added)]
    | _, _ => lineages
  | .drop slot => lineages.set slot none

/-- The lineages after a script, told by its steps alone. -/
def lineages (script : List Step) : List (Option (List String)) :=
  script.foldl record [some []]

/-- The slots hold what the lineages tell, and the numbers of owners are right. -/
structure Agrees (lineages : List (Option (List String))) (w : Workspace) : Prop where
  balanced : w.IsBalanced
  nextSlot_eq : w.nextSlot = lineages.length
  get?_eq : ∀ slot, w.get? slot = lineages[slot]?.join.map FilterBuilder.ofTexts

namespace Agrees

variable {lineages : List (Option (List String))}

theorem extend (h : Agrees lineages w) {b : StoredBuilder} (hb : w.store.Has b.newest?)
    {texts : List String} (hread : w.store.read b = FilterBuilder.ofTexts texts)
    (added : List String) :
    Agrees (lineages ++ [some (texts ++ added)]) (w.extend b added) where
  balanced := h.balanced.extend hb added
  nextSlot_eq := by
    rw [nextSlot_extend, h.nextSlot_eq, List.length_append]
    rfl
  get?_eq slot := by
    rw [get?_extend h.balanced hb, hread, FilterBuilder.pushAll_ofTexts, h.nextSlot_eq]
    by_cases hslot : slot = lineages.length
    · rw [if_pos hslot, hslot, List.getElem?_concat_length]
      rfl
    · rw [if_neg hslot, h.get?_eq]
      rcases Nat.lt_or_gt_of_ne hslot with hlt | hgt
      · rw [List.getElem?_append_left hlt]
      · have hbeyond : (lineages ++ [some (texts ++ added)]).length ≤ slot := by
          rw [List.length_append]
          exact hgt
        rw [List.getElem?_eq_none (Nat.le_of_lt hgt), List.getElem?_eq_none hbeyond]

theorem drop (h : Agrees lineages w) (slot : Nat) :
    Agrees (lineages.set slot none) (w.drop slot) where
  balanced := h.balanced.drop slot
  nextSlot_eq := by rw [nextSlot_drop, h.nextSlot_eq, List.length_set]
  get?_eq i := by
    rw [get?_drop h.balanced, List.getElem?_set]
    by_cases hi : i = slot
    · rw [if_pos hi, if_pos hi.symm]
      by_cases hlt : slot < lineages.length
      · rw [if_pos hlt]
        rfl
      · rw [if_neg hlt]
        rfl
    · rw [if_neg hi, if_neg (Ne.symm hi), h.get?_eq]

end Agrees

/-! ### Steps and scripts -/

/-- The workspace after a step, whether or not it fails. -/
def after (w : Workspace) (s : Step) : Workspace :=
  match w.step s with
  | .ok (w', _) => w'
  | .error _ => w

theorem run_append_singleton (w : Workspace) (script : List Step) (s : Step) :
    w.run (script ++ [s]) = (w.run script).after s :=
  List.foldl_concat _ _ _ _

/-- A derivation fails and adds no lineage, or it extends the builder in its slot and the
    lineage of this builder alike. -/
theorem Agrees.derive_cases {lineages : List (Option (List String))} (h : Agrees lineages w)
    (slot : Nat) (derivation : Derivation) :
    (∃ error, w.step (.derive slot derivation) = .error error ∧
      record lineages (.derive slot derivation) = lineages) ∨
    ∃ b texts added, w.stored? slot = some b ∧ w.store.read b = FilterBuilder.ofTexts texts ∧
      w.step (.derive slot derivation) = .ok (w.extend b added, some w.nextSlot) ∧
      record lineages (.derive slot derivation) = lineages ++ [some (texts ++ added)] := by
  have hget := h.get?_eq slot
  rw [get?] at hget
  simp only [step, record]
  cases hstored : w.stored? slot with
  | none =>
    rw [hstored] at hget
    have hlineage : lineages[slot]?.join = none := Option.map_eq_none_iff.mp hget.symm
    rw [hlineage]
    exact .inl ⟨_, rfl, rfl⟩
  | some b =>
    rw [hstored] at hget
    obtain ⟨texts, hlineage, hread⟩ := Option.map_eq_some_iff.mp hget.symm
    rw [hlineage]
    cases derivation.texts with
    | error error => exact .inl ⟨_, rfl, rfl⟩
    | ok added => exact .inr ⟨b, texts, added, rfl, hread.symm, rfl, rfl⟩

/-- A step does to the slots what it does to the lineages. -/
theorem Agrees.after {lineages : List (Option (List String))} (h : Agrees lineages w) (s : Step) :
    Agrees (record lineages s) (w.after s) := by
  cases s with
  | new =>
    have hhas : w.store.Has none := fun _ hnone => by cases hnone
    have hread : w.store.read ⟨none, 0⟩ = FilterBuilder.ofTexts [] := FragmentStore.read_empty _
    exact h.extend hhas hread []
  | drop slot => exact h.drop slot
  | derive slot derivation =>
    unfold Workspace.after
    rcases h.derive_cases slot derivation with
      ⟨error, hstep, hrecord⟩ | ⟨b, texts, added, hstored, hread, hstep, hrecord⟩
    · rw [hstep, hrecord]
      exact h
    · rw [hstep, hrecord]
      exact h.extend (h.balanced.has hstored) hread added

end Workspace

end SearchQuery
