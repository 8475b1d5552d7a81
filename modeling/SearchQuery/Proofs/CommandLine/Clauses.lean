import Mathlib.Data.List.Forall2
import SearchQuery.Proofs.BuilderDocuments
import SearchQuery.Proofs.CommandLine.Values
import SearchQuery.Proofs.Json.Written
import SearchQuery.Proofs.Operands

/-! # Clauses and the documents that say the same

  A filter can be built from clauses, each the text of an array of a field, an operator and an
  operand; or it can be compiled from one document, an array with an object for each clause.
  The operands are the same JSON values, but they are read in different places: as the last
  item of a clause, and as the value of an operator.

  Both commands print a text exactly if the comparisons of the clauses, each with what its
  operand is read to, compile to it. An operand that an operator takes is not nested deeply,
  so no depth limit can let one of the texts through and keep the other out.
-/

namespace SearchQuery

/-! ### Operands are shallow -/

/-- What a comparison takes is a scalar or a list of scalars. -/
theorem Comparison.operand_cases (c : Comparison) :
    c.operand.IsScalar ∨ ∃ items, c.operand = .array items ∧ ∀ v ∈ items, v.IsScalar := by
  have hliteral : ∀ l : Literal, l.toValue.IsScalar := by
    intro l
    cases l <;> trivial
  cases c with
  | equality op l => exact .inl (hliteral l)
  | order op q => exact .inl (hliteral q.toLiteral)
  | membership op ls =>
    refine .inr ⟨ls.map Literal.toValue, rfl, fun v hv => ?_⟩
    obtain ⟨l, -, rfl⟩ := List.mem_map.mp hv
    exact hliteral l
  | state op flag => exact .inl trivial
  | between range =>
    refine .inr ⟨[range.lower.toValue, range.upper.toValue], rfl, ?_⟩
    simp only [List.forall_mem_cons]
    exact ⟨hliteral _, hliteral _, fun _ hnone => by cases hnone⟩
  | stringTest op s => exact .inl trivial

namespace Json

/-- A scalar is written as a scalar, or as a date marker. -/
theorem Denotes.depth_le_one {j : Json} {v : Value} (h : j.Denotes v) (hv : v.IsScalar) :
    j.depth ≤ 1 := by
  cases h with
  | null => exact Nat.zero_le _
  | bool b => exact Nat.zero_le _
  | number h => exact Nat.zero_le _
  | string s => exact Nat.zero_le _
  | date h => cases h <;> exact Nat.le_refl _
  | array h => cases hv
  | object hno h => cases hv

theorem ItemsDenote.depth_le_one : ∀ {items : List Json} {vs : List Value}, ItemsDenote items vs →
    (∀ v ∈ vs, v.IsScalar) → depthOfItems items ≤ 1
  | _, _, .nil, _ => Nat.zero_le _
  | _, _, .cons h hs, hv => by
    rw [List.forall_mem_cons] at hv
    exact Nat.max_le.mpr ⟨h.depth_le_one hv.1, hs.depth_le_one hv.2⟩

/-- An operand that is taken is a list of scalars at most. -/
theorem Denotes.depth_le_two {j : Json} {c : Comparison} (h : j.Denotes c.operand) :
    j.depth ≤ 2 := by
  rcases c.operand_cases with hscalar | ⟨items, hitems, hscalars⟩
  · exact Nat.le_succ_of_le (h.depth_le_one hscalar)
  · rw [hitems] at h
    cases h with
    | array h => exact Nat.succ_le_succ (h.depth_le_one hscalars)

end Json

/-! ### Clauses -/

namespace CommandLine

/-- The date key is no operator. -/
theorem ofString?_dateKey : Operator.ofString? dateKey = none := by decide

/-- A clause for an ordinary field, and its text. -/
structure ClauseText where
  field : String
  spelling : String
  operand : Json
  text : String
  /-- The text is that of the array of the three parts. -/
  denoted : (Json.array [.string field, .string spelling, operand]).DenotedBy documentReading text
  /-- The field is not one of the keys with a meaning of their own. -/
  ordinary : field ∉ dateKey :: reservedKeys

namespace ClauseText

/-- The array that a clause is. -/
def json (c : ClauseText) : Json := .array [.string c.field, .string c.spelling, c.operand]

/-- The object that says what a clause says. -/
def document (c : ClauseText) : Json := .object [(c.field, .object [(c.spelling, c.operand)])]

/-- The comparison of a clause, with what its operand is read to. -/
def Means (c : ClauseText) (e : Expression) : Prop :=
  ∃ v, c.operand.Denotes v ∧ e = .compare c.field c.spelling v

variable {c : ClauseText} {e : Expression} {text : String}

theorem Means.isStructured (h : c.Means e) : e.IsStructured := by
  obtain ⟨v, -, rfl⟩ := h
  exact fun hmem => c.ordinary (List.mem_cons_of_mem _ hmem)

/-- What a comparison that compiles is: an operator that exists, with an operand that it
    takes. -/
theorem Means.exists_comparison (h : c.Means e) (htext : e.compile = .ok text) :
    ∃ comparison : Comparison, c.operand.Denotes comparison.operand ∧
      Operator.ofString? c.spelling = some comparison.operator := by
  obtain ⟨v, hv, rfl⟩ := h
  have hcompile : compileComparison c.field c.spelling v = .ok text := htext
  unfold compileComparison Predicate.ofSpelling at hcompile
  obtain ⟨predicate, hpredicate, -⟩ := map_eq_ok_iff.mp hcompile
  obtain ⟨comparison, hcomparison, -⟩ := map_eq_ok_iff.mp hpredicate
  unfold Comparison.ofSpelling at hcomparison
  split at hcomparison
  · next op hop =>
    obtain ⟨rfl, rfl⟩ := Comparison.ofOperand_eq_ok_iff.mp hcomparison
    exact ⟨comparison, hv, hop⟩
  · cases hcomparison

theorem Means.spelling_ne_dateKey (h : c.Means e) (htext : e.compile = .ok text) :
    c.spelling ≠ dateKey := by
  obtain ⟨comparison, -, hop⟩ := h.exists_comparison htext
  intro hspelling
  rw [hspelling, ofString?_dateKey] at hop
  cases hop

theorem Means.depth_operand_le (h : c.Means e) (htext : e.compile = .ok text) :
    c.operand.depth ≤ 2 := by
  obtain ⟨comparison, hdenotes, -⟩ := h.exists_comparison htext
  exact hdenotes.depth_le_two

/-- A clause is read to its field, its operator and what its operand is read to. -/
theorem json_denotes_iff {v : Value} :
    c.json.Denotes v ↔
      ∃ operand, c.operand.Denotes operand ∧
        v = .array [.string c.field, .string c.spelling, operand] := by
  constructor
  · intro h
    match h with
    | .array (.cons (.string _) (.cons (.string _) (.cons hoperand .nil))) =>
      exact ⟨_, hoperand, rfl⟩
  · intro h
    obtain ⟨operand, hoperand, rfl⟩ := h
    exact .array (.cons (.string _) (.cons (.string _) (.cons hoperand .nil)))

end ClauseText

variable {explain : String → Option String}

theorem parseDocument_eq_ok_iff {text : String} {v : Value} :
    parseDocument explain text = .ok v ↔
      ∃ j, Json.ofString? documentReading text = some j ∧ j.Denotes v := by
  unfold parseDocument
  cases Json.ofString? documentReading text with
  | none => simp
  | some j => simp [mapError_eq_ok_iff, Value.ofJson_eq_ok_iff]

/-- Adding a clause adds the fragment of what it means. -/
theorem addClause_eq_ok_iff {b b' : FilterBuilder} {c : ClauseText} :
    addClause explain b c.text = .ok b' ↔
      ∃ e text, c.Means e ∧ e.compile = .ok text ∧ b.push text = b' := by
  unfold addClause
  simp only [bind_eq_ok_iff, mapError_eq_ok_iff]
  constructor
  · intro h
    obtain ⟨v, hparse, hadd⟩ := h
    obtain ⟨j, hread, hdenotes⟩ := parseDocument_eq_ok_iff.mp hparse
    obtain rfl : j = c.json := c.denoted.eq_of_ofString? hread
    obtain ⟨operand, hoperand, rfl⟩ := ClauseText.json_denotes_iff.mp hdenotes
    obtain ⟨text, htext, hpush⟩ := map_eq_ok_iff.mp hadd
    exact ⟨.compare c.field c.spelling operand, text, ⟨operand, hoperand, rfl⟩, htext, hpush⟩
  · intro h
    obtain ⟨e, text, hmeans, htext, hpush⟩ := h
    -- an operand that is taken is shallow, so the text of the clause is read
    have hoperand := hmeans.depth_operand_le htext
    have hdepth : c.json.depth ≤ Json.maxDepth := by
      have hmax : Json.maxDepth = 127 := rfl
      simp only [ClauseText.json, Json.depth, Json.depthOfItems]
      omega
    obtain ⟨operand, hdenotes, rfl⟩ := hmeans
    refine ⟨_, parseDocument_eq_ok_iff.mpr ⟨c.json, c.denoted.ofString?_eq hdepth,
      ClauseText.json_denotes_iff.mpr ⟨operand, hdenotes, rfl⟩⟩, ?_⟩
    exact map_eq_ok_iff.mpr ⟨text, htext, hpush⟩

/-- Whether clauses mean a text: that of the comparisons of the clauses, which must all hold. -/
def Mean (clauses : List ClauseText) (text : String) : Prop :=
  ∃ es texts, List.Forall₂ ClauseText.Means clauses es ∧
    Expression.compileAll es = .ok texts ∧ joinAnd texts = text

/-- Adding clauses one after the other adds the fragments of what they mean. -/
theorem foldlM_addClause_eq_ok_iff {clauses : List ClauseText} {b b' : FilterBuilder} :
    (clauses.map ClauseText.text).foldlM (addClause explain) b = .ok b' ↔
      ∃ es texts, List.Forall₂ ClauseText.Means clauses es ∧
        Expression.compileAll es = .ok texts ∧ texts.foldl FilterBuilder.push b = b' := by
  -- the builder grows with each clause, so the induction is over all builders
  induction clauses generalizing b with
  | nil =>
    constructor
    · intro h
      exact ⟨[], [], .nil, rfl, Except.ok.inj h⟩
    · intro h
      obtain ⟨es, texts, hmeans, hcompile, hpush⟩ := h
      cases hmeans
      cases hcompile
      exact congrArg Except.ok hpush
  | cons c clauses ih =>
    rw [List.map_cons, List.foldlM_cons]
    simp only [bind_eq_ok_iff, addClause_eq_ok_iff, ih]
    constructor
    · intro h
      obtain ⟨_, ⟨e, text, hmeans, htext, rfl⟩, es, texts, hmean, htexts, hpush⟩ := h
      exact ⟨e :: es, text :: texts, .cons hmeans hmean,
        pair_eq_ok_iff.mpr ⟨text, texts, htext, htexts, rfl⟩, hpush⟩
    · intro h
      obtain ⟨es, texts, hmean, hcompile, hpush⟩ := h
      cases hmean with
      | cons hmeans hmean =>
        obtain ⟨text, texts, htext, htexts, rfl⟩ := pair_eq_ok_iff.mp hcompile
        exact ⟨b.push text, ⟨_, text, hmeans, htext, rfl⟩, _, texts, hmean, htexts, hpush⟩

theorem fragments_foldl_push (texts : List String) (b : FilterBuilder) :
    (texts.foldl FilterBuilder.push b).fragments = b.fragments ++ texts := by
  induction texts generalizing b with
  | nil => simp
  | cons text texts ih =>
    rw [List.foldl_cons, ih, FilterBuilder.fragments_push, List.append_assoc,
      List.singleton_append]

theorem build_foldl_push (texts : List String) :
    (texts.foldl FilterBuilder.push FilterBuilder.empty).build = joinAnd texts := by
  rw [FilterBuilder.build, fragments_foldl_push]
  rfl

/-- Building from clauses gives the text that they mean. -/
theorem runCommand_build_eq_ok_iff {clauses : List ClauseText} {input : ByteArray}
    {text : String} :
    runCommand explain (.build (clauses.map ClauseText.text)) input = .ok text ↔
      Mean clauses text := by
  unfold runCommand Mean
  simp only [bind_eq_ok_iff, foldlM_addClause_eq_ok_iff]
  constructor
  · intro h
    obtain ⟨_, ⟨es, texts, hmeans, htexts, rfl⟩, hbuild⟩ := h
    refine ⟨es, texts, hmeans, htexts, ?_⟩
    rw [← build_foldl_push]
    exact Except.ok.inj hbuild
  · intro h
    obtain ⟨es, texts, hmeans, htexts, rfl⟩ := h
    exact ⟨_, ⟨es, texts, hmeans, htexts, rfl⟩, congrArg Except.ok (build_foldl_push texts)⟩

/-! ### The document of clauses -/

/-- An object with an ordinary key is read as an object of what its member is read to. -/
theorem denotes_singleton_iff {key : String} (hkey : key ≠ dateKey) {j : Json} {v : Value} :
    (Json.object [(key, j)]).Denotes v ↔ ∃ w, j.Denotes w ∧ v = .object [(key, some w)] := by
  constructor
  · intro h
    cases h with
    | date h => exact absurd rfl hkey
    | object hno h =>
      cases h with
      | cons key h hs =>
        cases hs
        exact ⟨_, h, rfl⟩
  · intro h
    obtain ⟨w, hw, rfl⟩ := h
    refine .object (fun payload heq => hkey ?_) (.cons key hw .nil)
    cases heq
    rfl

namespace ClauseText

/-- The object of a clause is read to the document of what the clause means, if its operator
    is not taken for a date. -/
theorem document_denotes_iff {c : ClauseText} (hspelling : c.spelling ≠ dateKey) {v : Value} :
    c.document.Denotes v ↔ ∃ e, c.Means e ∧ v = e.document := by
  have hfield : c.field ≠ dateKey := fun hfield => c.ordinary (hfield ▸ List.mem_cons_self)
  unfold document Means
  simp only [denotes_singleton_iff hfield, denotes_singleton_iff hspelling]
  constructor
  · intro h
    obtain ⟨_, ⟨operand, hoperand, rfl⟩, rfl⟩ := h
    exact ⟨_, ⟨operand, hoperand, rfl⟩, rfl⟩
  · intro h
    obtain ⟨_, ⟨operand, hoperand, rfl⟩, rfl⟩ := h
    exact ⟨_, ⟨operand, hoperand, rfl⟩, rfl⟩

end ClauseText

/-- The objects of all clauses, in order. -/
def documents (clauses : List ClauseText) : Json := .array (clauses.map ClauseText.document)

theorem documents_denote_iff {clauses : List ClauseText}
    (h : ∀ c ∈ clauses, c.spelling ≠ dateKey) {vs : List Value} :
    Json.ItemsDenote (clauses.map ClauseText.document) vs ↔
      ∃ es, List.Forall₂ ClauseText.Means clauses es ∧ vs = Expression.documents es := by
  induction clauses generalizing vs with
  | nil =>
    constructor
    · intro hdenote
      cases hdenote
      exact ⟨[], .nil, rfl⟩
    · intro hmean
      obtain ⟨es, hes, rfl⟩ := hmean
      cases hes
      exact .nil
  | cons c clauses ih =>
    rw [List.forall_mem_cons] at h
    constructor
    · intro hdenote
      cases hdenote with
      | cons hhead htail =>
        obtain ⟨e, he, rfl⟩ := (ClauseText.document_denotes_iff h.1).mp hhead
        obtain ⟨es, hes, rfl⟩ := (ih h.2).mp htail
        exact ⟨e :: es, .cons he hes, rfl⟩
    · intro hmean
      obtain ⟨es, hes, rfl⟩ := hmean
      cases hes with
      | cons he hes =>
        exact .cons ((ClauseText.document_denotes_iff h.1).mpr ⟨_, he, rfl⟩)
          ((ih h.2).mpr ⟨_, hes, rfl⟩)

theorem areStructured_of_forall₂ {clauses : List ClauseText} {es : List Expression}
    (h : List.Forall₂ ClauseText.Means clauses es) : Expression.AreStructured es := by
  induction h with
  | nil => trivial
  | cons hmeans _ ih => exact ⟨hmeans.isStructured, ih⟩

/-- Each clause of a list that compiles has an operator that exists, and an operand that this
    operator takes. -/
theorem compile_of_forall₂ {clauses : List ClauseText} {es : List Expression}
    (h : List.Forall₂ ClauseText.Means clauses es) {texts : List String}
    (htexts : Expression.compileAll es = .ok texts) :
    ∀ c ∈ clauses, ∃ e text, c.Means e ∧ e.compile = .ok text := by
  induction h generalizing texts with
  | nil => simp
  | cons hmeans _ ih =>
    obtain ⟨text, texts, htext, hrest, rfl⟩ := pair_eq_ok_iff.mp htexts
    rw [List.forall_mem_cons]
    exact ⟨⟨_, text, hmeans, htext⟩, ih hrest⟩

theorem Mean.spelling_ne_dateKey {clauses : List ClauseText} {text : String}
    (h : Mean clauses text) : ∀ c ∈ clauses, c.spelling ≠ dateKey := by
  obtain ⟨es, texts, hmeans, htexts, -⟩ := h
  intro c hc
  obtain ⟨e, text, hmeans, htext⟩ := compile_of_forall₂ hmeans htexts c hc
  exact hmeans.spelling_ne_dateKey htext

/-- The document of clauses is as deep as three brackets around the deepest operand. -/
theorem depthOfItems_documents_le {clauses : List ClauseText} {n : Nat}
    (h : ∀ c ∈ clauses, c.operand.depth ≤ n) :
    Json.depthOfItems (clauses.map ClauseText.document) ≤ n + 2 := by
  induction clauses with
  | nil => exact Nat.zero_le _
  | cons c clauses ih =>
    rw [List.forall_mem_cons] at h
    have hrest := ih h.2
    have hoperand := h.1
    simp only [List.map_cons, Json.depthOfItems, ClauseText.document, Json.depth,
      Json.depthOfMembers]
    omega

theorem Mean.depth_documents_le {clauses : List ClauseText} {text : String}
    (h : Mean clauses text) : (documents clauses).depth ≤ Json.maxDepth := by
  obtain ⟨es, texts, hmeans, htexts, -⟩ := h
  have hoperands : ∀ c ∈ clauses, c.operand.depth ≤ 2 := by
    intro c hc
    obtain ⟨e, text, hmeans, htext⟩ := compile_of_forall₂ hmeans htexts c hc
    exact hmeans.depth_operand_le htext
  have hitems := depthOfItems_documents_le hoperands
  have hmax : Json.maxDepth = 127 := rfl
  simp only [documents, Json.depth]
  omega

/-- Compiling the document of clauses gives the text that the clauses mean, if no operator is
    taken for a date. -/
theorem runCommand_filter_documents_iff {clauses : List ClauseText}
    (hspelling : ∀ c ∈ clauses, c.spelling ≠ dateKey) {document : String}
    (h : (documents clauses).DenotedBy documentReading document) {input : ByteArray}
    {text : String} :
    runCommand explain (.filter (some document)) input = .ok text ↔ Mean clauses text := by
  rw [runCommand_filter_eq_ok_iff]
  constructor
  · intro hrun
    obtain ⟨v, hread, hcompile⟩ := hrun
    obtain ⟨j, hj, hdenotes⟩ := parseDocument_eq_ok_iff.mp hread
    obtain rfl : j = documents clauses := h.eq_of_ofString? hj
    cases hdenotes with
    | array hitems =>
      obtain ⟨es, hmeans, rfl⟩ := (documents_denote_iff hspelling).mp hitems
      have hstructured := areStructured_of_forall₂ hmeans
      rw [Expression.compileFilter_documents hstructured] at hcompile
      obtain ⟨texts, htexts, hjoin⟩ := map_eq_ok_iff.mp hcompile
      exact ⟨es, texts, hmeans, htexts, hjoin⟩
  · intro hmean
    -- for the same reason the document is read
    have hdepth := hmean.depth_documents_le
    obtain ⟨es, texts, hmeans, htexts, hjoin⟩ := hmean
    have hitems := (documents_denote_iff hspelling).mpr ⟨es, hmeans, rfl⟩
    refine ⟨.array (Expression.documents es), ?_, ?_⟩
    · exact parseDocument_eq_ok_iff.mpr ⟨documents clauses, h.ofString?_eq hdepth, .array hitems⟩
    · rw [Expression.compileFilter_documents (areStructured_of_forall₂ hmeans)]
      exact map_eq_ok_iff.mpr ⟨texts, htexts, hjoin⟩

/-! ### Both commands -/

/-- The text of an array is a value among the arguments. -/
theorem ofString_of_denotedBy {items : List Json} {text : String}
    (h : (Json.array items).DenotedBy documentReading text) :
    Argument.ofString text = .value text := by
  obtain ⟨raw, hraw, hread, -⟩ := h
  refine Argument.ofString_of_ne_dash (RawJson.toList_ne_dash hraw fun numeral heq => ?_)
  rw [heq, Json.ofRaw?, Option.map_eq_some_iff] at hread
  obtain ⟨n, -, hn⟩ := hread
  cases hn

variable (explain)

/-- Building from clauses and compiling their document print the same text, wherever the
    document is given. If building fails then compiling may succeed only because an operator
    that does not exist is taken for the key of a date. -/
theorem build_agrees_with_filter {clauses : List ClauseText} (hne : clauses ≠ [])
    {document : String} (h : (documents clauses).DenotedBy documentReading document)
    (input input' : ByteArray) (text : String) :
    (Prints explain ("build" :: clauses.map ClauseText.text) input text →
      Prints explain ["filter", document] input' text ∧
        Prints explain ["filter"] document.toUTF8 text) ∧
    ((∀ c ∈ clauses, ∃ op, Operator.ofString? c.spelling = some op) →
      Prints explain ["filter", document] input' text ∨
        Prints explain ["filter"] document.toUTF8 text →
      Prints explain ("build" :: clauses.map ClauseText.text) input text) := by
  have hvalues : AreValues (clauses.map ClauseText.text) := by
    intro argument hargument
    obtain ⟨c, -, rfl⟩ := List.mem_map.mp hargument
    exact ofString_of_denotedBy c.denoted
  have hbuild : Prints explain ("build" :: clauses.map ClauseText.text) input text ↔
      Mean clauses text := by
    rw [prints_build_iff (by simpa using hne) hvalues, runCommand_build_eq_ok_iff]
  rw [hbuild, prints_filter_argument_iff (ofString_of_denotedBy h),
    prints_filter_input_iff document input']
  constructor
  · intro hmean
    -- a clause that compiles has an operator, which is no date key
    have hfilter : runCommand explain (.filter (some document)) input' = .ok text :=
      (runCommand_filter_documents_iff hmean.spelling_ne_dateKey h).mpr hmean
    exact ⟨hfilter, hfilter⟩
  · intro hsupported hfilter
    have hspelling : ∀ c ∈ clauses, c.spelling ≠ dateKey := by
      intro c hc hdate
      obtain ⟨op, hop⟩ := hsupported c hc
      rw [hdate, ofString?_dateKey] at hop
      cases hop
    exact (runCommand_filter_documents_iff hspelling h).mp (hfilter.elim id id)

/-- Two clauses with dates, and their document. -/
theorem build_agrees_with_filter_dates :
    let first := "[\"day\",\">\",\x7b\"$date\":5\x7d]"
    let second := "[\"day\",\"$lte\",\x7b\"$date\":9\x7d]"
    let document := "[\x7b\"day\":\x7b\">\":\x7b\"$date\":5\x7d\x7d\x7d," ++
      "\x7b\"day\":\x7b\"$lte\":\x7b\"$date\":9\x7d\x7d\x7d]"
    let explain (_ : String) : Option String := some "expected value at line 1 column 1"
    Prints explain ["build", first, second] .empty "day > 5 AND day <= 9" ∧
      Prints explain ["filter", document] .empty "day > 5 AND day <= 9" ∧
      Prints explain ["filter"] document.toUTF8 "day > 5 AND day <= 9" := by
  intro first second document explain
  -- how the parts are written
  let written (s : String) : List Quoted.Piece := s.toList.map Quoted.pieceOf
  let date (n : Int) : RawJson := .object [(written dateKey, .number (NumberToken.ofInt n).numeral)]
  let clause (spelling : String) (n : Int) : RawJson :=
    .array [.string (written "day"), .string (written spelling), date n]
  let entry (spelling : String) (n : Int) : RawJson :=
    .object [(written "day", .object [(written spelling, date n)])]
  have hnil := Json.areBlank_nil
  have hdate (n : Int) : (date n).IsText _ :=
    .object (.last (.mk hnil hnil) (.number (.ofInt n)) hnil)
  have hclause (spelling : String) (n : Int) : (clause spelling n).IsText _ :=
    .array (.cons (.string _) hnil (.cons (.string _) hnil (.last (hdate n) hnil)))
  have hentry (spelling : String) (n : Int) : (entry spelling n).IsText _ :=
    .object (.last (.mk hnil hnil) (.object (.last (.mk hnil hnil) (hdate n) hnil)) hnil)
  have hfirst : (clause ">" 5).IsDocument first := ⟨_, [], by decide +kernel, hclause ">" 5, hnil⟩
  have hsecond : (clause "$lte" 9).IsDocument second :=
    ⟨_, [], by decide +kernel, hclause "$lte" 9, hnil⟩
  have hdocument : (RawJson.array [entry ">" 5, entry "$lte" 9]).IsDocument document :=
    ⟨_, [], by decide +kernel,
      .array (.cons (hentry ">" 5) hnil (.last (hentry "$lte" 9) hnil)), hnil⟩
  -- what the parts are read to
  have hread (n : Int) (fits : -Int.pow 2 63 ≤ n ∧ n < Int.pow 2 64) :
      Json.ofRaw? documentReading (date n) = some (.marker (.number (.integer n fits))) := by
    simp only [date, written, Json.ofRaw?, Json.ofRawMembers?, Json.toString?_map_pieceOf,
      NumberToken.ofNumeral?_ofInt documentReading n fits]
    rfl
  have hreadClause (spelling : String) (n : Int) (fits : -Int.pow 2 63 ≤ n ∧ n < Int.pow 2 64) :
      Json.ofRaw? documentReading (clause spelling n) =
        some (.array [.string "day", .string spelling, .marker (.number (.integer n fits))]) := by
    simp only [clause, written, Json.ofRaw?, Json.ofRawItems?, Json.toString?_map_pieceOf,
      hread n fits]
    rfl
  have hreadEntry (spelling : String) (n : Int) (fits : -Int.pow 2 63 ≤ n ∧ n < Int.pow 2 64) :
      Json.ofRaw? documentReading (entry spelling n) =
        some (.object [("day", .object [(spelling, .marker (.number (.integer n fits)))])]) := by
    simp only [entry, written, Json.ofRaw?, Json.ofRawMembers?, Json.toString?_map_pieceOf,
      hread n fits]
    rfl
  let clauses : List ClauseText := [
    { field := "day", spelling := ">", operand := .marker (.number (.integer 5 (by decide)))
      text := first
      denoted := ⟨_, hfirst.ofString?_eq, hreadClause ">" 5 (by decide), .inl (by decide)⟩
      ordinary := by decide },
    { field := "day", spelling := "$lte", operand := .marker (.number (.integer 9 (by decide)))
      text := second
      denoted := ⟨_, hsecond.ofString?_eq, hreadClause "$lte" 9 (by decide), .inl (by decide)⟩
      ordinary := by decide }]
  have hdenoted : (documents clauses).DenotedBy documentReading document := by
    refine ⟨_, hdocument.ofString?_eq, ?_, .inl (by decide)⟩
    simp only [Json.ofRaw?, Json.ofRawItems?, hreadEntry ">" 5 (by decide),
      hreadEntry "$lte" 9 (by decide)]
    rfl
  have hbuild : Prints explain ["build", first, second] .empty "day > 5 AND day <= 9" := by
    unfold Prints
    decide +kernel
  have hne : clauses ≠ [] := List.cons_ne_nil _ _
  obtain ⟨hfilter, -⟩ :=
    build_agrees_with_filter explain hne hdenoted .empty .empty "day > 5 AND day <= 9"
  exact ⟨hbuild, hfilter hbuild⟩

end CommandLine

end SearchQuery
