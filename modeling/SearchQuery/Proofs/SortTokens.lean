import SearchQuery.Proofs.Geo.RoundTrip
import SearchQuery.Proofs.Text.Operand
import SearchQuery.SortOrder

/-! # Sort tokens determine the order

  A field name may hold anything, a colon with a direction behind it included, so a token is
  taken apart from its right end: what stands behind the last colon is the direction. What
  stands before it is the name of a field or a point in brackets. A field whose name starts
  like such a point could be taken for one, and is left out.

  Two points are told apart by their coordinates, which are words, so the first ends where
  the separator starts. The text of a finite double determines it up to the sign of zero.
-/

namespace SearchQuery

/-! ### Equality -/

/-- Points are equal if their coordinates are, as numbers. -/
protected def GeoPoint.beq (p q : GeoPoint) : Bool := p.lat == q.lat && p.lng == q.lng

/-- Terms are equal if they are of the same kind and have equal parts. -/
protected def SortTerm.beq : SortTerm → SortTerm → Bool
  | .field o, .field o' => o == o'
  | .geoPoint p direction, .geoPoint q direction' => p.beq q && direction == direction'
  | _, _ => false

/-- Orders are equal if their terms are, one by one. -/
protected def SortOrder.beq (s t : SortOrder) : Bool := s.terms.isEqv t.terms SortTerm.beq

/-! ### Tokens from their right end -/

namespace SortTerm

/-- What the token of a term has before its last colon. -/
def base : SortTerm → String
  | field o => o.field
  | geoPoint point _ => "_geoPoint(" ++ (point.text ++ ")")

/-- The direction of a term. -/
def direction : SortTerm → Direction
  | field o => o.direction
  | geoPoint _ direction => direction

theorem text_eq (term : SortTerm) : term.text = term.base ++ (":" ++ term.direction.text) := by
  cases term with
  | field o => exact String.append_assoc
  | geoPoint point d =>
    have hend : "):" = ")" ++ ":" := by decide
    rw [text, hend]
    simp only [base, direction, String.append_assoc]

/-- A direction with the colon before it is the end of no text that ends with the other. -/
theorem append_direction_inj {base base' : String} {d d' : Direction}
    (h : base ++ (":" ++ d.text) = base' ++ (":" ++ d'.text)) : base = base' ∧ d = d' := by
  have hends : ∀ rest rest' : List Char,
      'c' :: 's' :: 'a' :: rest ≠ 'c' :: 's' :: 'e' :: rest' := by simp
  -- backwards the two directions begin with `csa` and `cse`
  have hreverse := congrArg (fun s => s.toList.reverse) h
  simp only [String.toList_append, List.reverse_append] at hreverse
  cases d with
  | asc =>
    cases d' with
    | asc => exact ⟨(String.append_left_inj _).mp h, rfl⟩
    | desc => exact absurd hreverse (hends _ _)
  | desc =>
    cases d' with
    | asc => exact absurd hreverse.symm (hends _ _)
    | desc => exact ⟨(String.append_left_inj _).mp h, rfl⟩

end SortTerm

/-! ### Points -/

theorem GeoPoint.beq_of_text_eq {p q : GeoPoint} (hp : p.IsFinite) (hq : q.IsFinite)
    (h : p.text = q.text) : p.beq q = true := by
  have htext : ∀ p : GeoPoint,
      p.text.toList = p.lat.text.toList ++ (',' :: ' ' :: p.lng.text.toList) := by
    intro p
    rw [text, String.toList_append, String.toList_append, List.append_assoc]
    rfl
  have hcomma : ∀ rest : List Char, ∀ c ∈ (',' :: rest).head?, isWordChar c = false := by
    rintro rest c hc
    obtain rfl := Option.some.inj hc
    decide
  -- both latitudes are runs of word characters, which a comma ends
  have hlist := congrArg String.toList h
  rw [htext, htext] at hlist
  obtain ⟨hlat, hrest⟩ := run_append_inj p.lat.isWord_text.chars q.lat.isWord_text.chars
    (hcomma _) (hcomma _) hlist
  obtain ⟨_, _, hlng⟩ : ',' = ',' ∧ ' ' = ' ' ∧ p.lng.text.toList = q.lng.text.toList := by
    simpa using hrest
  rw [GeoPoint.beq, Bool.and_eq_true]
  exact ⟨Double.beq_of_isFinite hp.1 hq.1 (String.toList_inj.mp hlat),
    Double.beq_of_isFinite hp.2 hq.2 (String.toList_inj.mp hlng)⟩

/-! ### Orders -/

namespace SortTerm

/-- Whether the token of a term can be taken for no other: the coordinates of a point are
    numbers, and the name of a field does not begin like a point. -/
def HasOwnToken : SortTerm → Prop
  | field o => ∀ rest, o.field ≠ "_geoPoint(" ++ rest
  | geoPoint point _ => point.IsFinite

theorem beq_of_text_eq {a b : SortTerm} (ha : a.HasOwnToken) (hb : b.HasOwnToken)
    (h : a.text = b.text) : a.beq b = true := by
  rw [text_eq, text_eq] at h
  obtain ⟨hbase, hdirection⟩ := append_direction_inj h
  cases a with
  | field o =>
    cases b with
    | field o' =>
      obtain ⟨name, d⟩ := o
      obtain ⟨name', d'⟩ := o'
      have hname : name = name' := hbase
      have hd : d = d' := hdirection
      rw [hname, hd]
      exact beq_self_eq_true (OrderBy.mk name' d')
    | geoPoint q d' => exact absurd hbase (ha _)
  | geoPoint p d =>
    cases b with
    | field o' => exact absurd hbase.symm (hb _)
    | geoPoint q d' =>
      have hpoint : p.text = q.text :=
        (String.append_left_inj _).mp ((String.append_right_inj _).mp hbase)
      have hd : d = d' := hdirection
      show (p.beq q && d == d') = true
      rw [GeoPoint.beq_of_text_eq ha hb hpoint, hd, Bool.true_and]
      exact beq_self_eq_true d'

end SortTerm

namespace SortOrder

theorem isEqv_of_map_text_eq {terms terms' : List SortTerm}
    (hterms : ∀ term ∈ terms, term.HasOwnToken) (hterms' : ∀ term ∈ terms', term.HasOwnToken)
    (h : terms.map SortTerm.text = terms'.map SortTerm.text) :
    terms.isEqv terms' SortTerm.beq = true := by
  induction terms generalizing terms' with
  | nil =>
    cases terms' with
    | nil => rfl
    | cons b bs => cases h
  | cons a as ih =>
    cases terms' with
    | nil => cases h
    | cons b bs =>
      rw [List.map_cons, List.map_cons, List.cons.injEq] at h
      rw [List.forall_mem_cons] at hterms hterms'
      rw [List.isEqv, SortTerm.beq_of_text_eq hterms.1 hterms'.1 h.1, Bool.true_and]
      exact ih hterms.2 hterms'.2 h.2

/-- Orders with the same tokens are equal, if their points have numbers for coordinates and
    none of their fields has a name that starts like a point. -/
theorem beq_of_tokens_eq {s t : SortOrder} (hs : ∀ term ∈ s.terms, term.HasOwnToken)
    (ht : ∀ term ∈ t.terms, term.HasOwnToken) (h : s.tokens = t.tokens) : s.beq t = true :=
  isEqv_of_map_text_eq hs ht h

/-- Fields whose names look like tokens themselves, and a point on the equator with the
    other sign of zero. -/
theorem beq_of_tokens_eq_signs :
    let order (negative : Bool) : SortOrder := ⟨[
      .field ⟨"price:asc", .desc⟩, .field ⟨"", .asc⟩,
      .geoPoint ⟨.finite negative .zero, .finite true .plainFrom⟩ .desc,
      .field ⟨"_geoPoint", .asc⟩]⟩
    (order true).tokens = (order false).tokens ∧ (order true).beq (order false) = true := by
  intro order
  have hfield : ∀ {o : OrderBy}, "_geoPoint(".toList.isPrefixOf o.field.toList = false →
      (SortTerm.field o).HasOwnToken := by
    intro o hprefix rest heq
    have hlist : "_geoPoint(".toList <+: o.field.toList :=
      ⟨rest.toList, by rw [heq, String.toList_append]⟩
    rw [List.isPrefixOf_iff_prefix.mpr hlist] at hprefix
    cases hprefix
  have hown : ∀ negative, ∀ term ∈ (order negative).terms, term.HasOwnToken := by
    intro negative
    simp only [order, List.forall_mem_cons]
    exact ⟨hfield (by decide), hfield (by decide), ⟨rfl, rfl⟩, hfield (by decide),
      fun _ hnone => by cases hnone⟩
  have htokens : (order true).tokens = (order false).tokens := by decide +kernel
  exact ⟨htokens, beq_of_tokens_eq (hown true) (hown false) htokens⟩

end SortOrder

end SearchQuery
