import SearchQuery.Proofs.CommandLine.Values
import SearchQuery.Proofs.Json.Written
import SearchQuery.Proofs.SortDocument
import SearchQuery.Proofs.StringLiteral

/-! # The two outputs of sorting

  The tokens of a sort document are printed one on each line, or as a JSON array of strings.
  Both outputs come from the same tokens: a call with the option and a call without it fail with
  the same report, or both succeed.

  As JSON the tokens are read back whatever characters they have, since all that could end a
  string or a line is escaped. As lines they are read back if there is a token, and no token has
  a line break; the only place for one in a token is the name of a field.
-/

namespace SearchQuery

open CommandLine

/-! ### Strings as JSON -/

/-- An array of strings, as it is written. -/
def RawJson.ofStrings (texts : List String) : RawJson :=
  .array (texts.map fun s => .string (s.toList.map Quoted.pieceOf))

namespace CommandLine

theorem toList_jsonList (texts : List String) :
    (jsonList texts).toList =
      '[' :: (List.intercalate [','] (texts.map fun s => Quoted.quote s.toList) ++ [']']) := by
  have hquoted : String.toList ∘ quoted = fun s : String => Quoted.quote s.toList := by
    funext s
    exact String.toList_ofList
  unfold jsonList
  rw [String.toList_append, String.toList_append, String.toList_intercalate, List.map_map, hquoted]
  rfl

/-- Strings between quotes, with commas between them, are the items of an array. -/
theorem areItems_quoted (s : String) (texts : List String) :
    RawJson.AreItems ((s :: texts).map fun s => .string (s.toList.map Quoted.pieceOf))
      (List.intercalate [','] ((s :: texts).map fun s => Quoted.quote s.toList) ++ [']']) := by
  induction texts generalizing s with
  | nil =>
    have hlast := RawJson.AreItems.last (.string s.toList) Json.areBlank_nil
    simpa using hlast
  | cons t texts ih =>
    have hcons := RawJson.AreItems.cons (.string s.toList) Json.areBlank_nil (ih t)
    simpa [List.intercalate_cons_cons] using hcons

/-- The JSON text of strings is a document. -/
theorem isDocument_jsonList (texts : List String) :
    (RawJson.ofStrings texts).IsDocument (jsonList texts) := by
  refine ⟨(jsonList texts).toList, [], by simp, ?_, Json.areBlank_nil⟩
  rw [toList_jsonList]
  cases texts with
  | nil => exact .emptyArray Json.areBlank_nil
  | cons s texts => exact .array (areItems_quoted s texts)

end CommandLine

namespace Json

variable (reading : NumeralReading)

theorem ofRawItems?_strings (texts : List String) :
    ofRawItems? reading (texts.map fun s => .string (s.toList.map Quoted.pieceOf)) =
      some (texts.map .string) := by
  induction texts with
  | nil => rfl
  | cons s texts ih =>
    rw [List.map_cons, ofRawItems?, ofRaw?, toString?_map_pieceOf, ih]
    rfl

theorem depth_ofStrings (texts : List String) : (RawJson.ofStrings texts).depth = 1 := by
  have hitems : RawJson.depthOfItems
      (texts.map fun s => .string (s.toList.map Quoted.pieceOf)) = 0 := by
    induction texts with
    | nil => rfl
    | cons s texts ih => rw [List.map_cons, RawJson.depthOfItems, ih]; rfl
  rw [RawJson.ofStrings, RawJson.depth, hitems]

/-- Strings are read back from their JSON text, whatever characters they have. -/
theorem ofString?_jsonList (texts : List String) :
    ofString? reading (jsonList texts) = some (.array (texts.map .string)) := by
  refine ofString?_eq_some_iff.mpr ⟨_, (isDocument_jsonList texts).ofString?_eq, ?_, ?_⟩
  · rw [depth_ofStrings]
    decide
  · rw [RawJson.ofStrings, ofRaw?, ofRawItems?_strings]
    rfl

end Json

namespace CommandLine

theorem not_mem_intercalate {c : Char} {separator : List Char} (hseparator : c ∉ separator)
    {items : List (List Char)} (hitems : ∀ item ∈ items, c ∉ item) :
    c ∉ List.intercalate separator items := by
  induction items with
  | nil => simp
  | cons item items ih =>
    rw [List.forall_mem_cons] at hitems
    have hrest := ih hitems.2
    cases items with
    | nil => simpa using hitems.1
    | cons next items => simp [List.intercalate_cons_cons, hitems.1, hseparator, hrest]

/-- The JSON text of strings is a single line. -/
theorem newline_not_mem_jsonList (texts : List String) : '\n' ∉ (jsonList texts).toList := by
  have hquoted : ∀ s : String, '\n' ∉ Quoted.quote s.toList := fun s hmem =>
    absurd (Quoted.le_toNat_of_mem_quote hmem) (by decide)
  have hitems : '\n' ∉ List.intercalate [','] (texts.map fun s => Quoted.quote s.toList) :=
    not_mem_intercalate (by decide) (by simp [hquoted])
  rw [toList_jsonList]
  simp [hitems]

/-! ### Lines -/

/-- The lines of a text: what stands between its line breaks. -/
def lines (text : String) : List String :=
  (text.split '\n').toList.map String.Slice.copy

/-- Lines that are joined are found again, unless there are none. -/
theorem lines_intercalate {texts : List String} (hne : texts ≠ [])
    (h : ∀ s ∈ texts, '\n' ∉ s.toList) : lines (String.intercalate "\n" texts) = texts := by
  have hsplit := String.toList_split_intercalate h
  rw [if_neg hne] at hsplit
  exact hsplit

end CommandLine

/-! ### Tokens -/

theorem GeoPoint.newline_not_mem_text (p : GeoPoint) : '\n' ∉ p.text.toList := by
  have hword : ∀ x : Double, '\n' ∉ x.text.toList := fun x hmem =>
    absurd (x.isWord_text.chars _ hmem) (by decide)
  simp [text, hword]

/-- Only the name of a field can bring a line break into a token. -/
theorem SortTerm.newline_not_mem_text {term : SortTerm}
    (h : ∀ name, term.fieldName? = some name → '\n' ∉ name.toList) : '\n' ∉ term.text.toList := by
  have hdirection : ∀ d : Direction, '\n' ∉ d.text.toList := by
    intro d
    cases d <;> decide
  cases term with
  | field o => simp [text, OrderBy.text, h o.field rfl, hdirection]
  | geoPoint p d => simp [text, p.newline_not_mem_text, hdirection]

theorem SortOrder.newline_not_mem_tokens {order : SortOrder}
    (h : ∀ name ∈ order.fieldNames, '\n' ∉ name.toList) :
    ∀ token ∈ order.tokens, '\n' ∉ token.toList := by
  intro token htoken
  obtain ⟨term, hterm, rfl⟩ := List.mem_map.mp htoken
  refine SortTerm.newline_not_mem_text fun name hname => h name ?_
  exact List.mem_filterMap.mpr ⟨term, hterm, hname⟩

/-! ### Calls -/

namespace CommandLine

/-- The arguments that ask to sort, with the option for JSON or without it. -/
def sortArguments (asJson : Bool) (rest : List String) : List String :=
  "sort" :: ((if asJson then ["--json"] else []) ++ rest)

/-- Whether a call sorts by a document: as an argument, or as the whole input. -/
inductive SortsBy (document : String) (asJson : Bool) : List String → ByteArray → Prop where
  | argument {arguments : List String}
      (h : Invocation.ofArguments arguments = .command (.sort (some document) asJson))
      (input : ByteArray) : SortsBy document asJson arguments input
  | input {arguments : List String}
      (h : Invocation.ofArguments arguments = .command (.sort none asJson)) :
      SortsBy document asJson arguments document.toUTF8

/-- Behind the name of the command there may be the option, and then a document or none. -/
theorem ofArguments_sort (asJson : Bool) {rest : List String} {document? : Option String}
    (h : ∀ given : Given, given.read .sort rest = some (given.addValues document?.toList)) :
    Invocation.ofArguments (sortArguments asJson rest) = .command (.sort document? asJson) := by
  have hname : Argument.ofString "sort" = .value "sort" := rfl
  have hoption : Argument.ofString "--json" = .flags [some .json] := by decide
  have hread : ∀ flags : List Flag,
      (Given.mk [] flags).read .sort rest = some ⟨document?.toList, flags⟩ := fun flags => h _
  have hflags : Given.nothing.addFlags .sort [some .json] = some ⟨[], [.json]⟩ := rfl
  have hcommand : ∀ flags : List Flag, Given.command? .sort ⟨document?.toList, flags⟩ =
      some (.sort document? (flags.contains .json)) := by
    intro flags
    cases document? <;> rfl
  have hgiven : Given.nothing.read .sort ((if asJson then ["--json"] else []) ++ rest) =
      some ⟨document?.toList, if asJson then [.json] else []⟩ := by
    cases asJson with
    | false => exact hread []
    | true =>
      show Given.nothing.read .sort ("--json" :: rest) = _
      rw [Given.read, hoption]
      simp only [hflags]
      exact hread [.json]
  unfold Invocation.ofArguments sortArguments Invocation.read
  simp only [hname, CommandName.ofString?, hgiven, Option.bind_some, hcommand]
  cases asJson <;> rfl

/-- The document may be an argument, behind two dashes if it starts with one itself, or the
    input. -/
theorem sortsBy_cases (document : String) (asJson : Bool) (input : ByteArray) :
    ((∀ rest, document.toList ≠ '-' :: rest) →
      SortsBy document asJson (sortArguments asJson [document]) input) ∧
    SortsBy document asJson (sortArguments asJson ["--", document]) input ∧
    SortsBy document asJson (sortArguments asJson []) document.toUTF8 := by
  refine ⟨fun hdash => .argument (ofArguments_sort asJson fun given => ?_) input,
    .argument (ofArguments_sort asJson fun given => ?_) input,
    .input (ofArguments_sort asJson fun given => ?_)⟩
  · rw [Given.read, Argument.ofString_of_ne_dash hdash]
    rfl
  · rfl
  · simp [Given.read, Given.addValues]

/-! ### Both outputs -/

/-- The tokens of a document, or why there are none. -/
def documentTokens (explain : String → Option String) (document : String) :
    Except Failure (List String) := do
  let v ← parseDocument explain document
  (compileSort (some v)).mapError .sort

/-- How tokens are printed. -/
def tokensText (asJson : Bool) (tokens : List String) : String :=
  if asJson then jsonList tokens else String.intercalate "\n" tokens

variable {explain : String → Option String}

theorem runCommand_sort {document : String} {document? : Option String} {input : ByteArray}
    (hread : readDocument explain document? input = parseDocument explain document)
    (asJson : Bool) :
    runCommand explain (.sort document? asJson) input =
      (documentTokens explain document).map (tokensText asJson) := by
  simp only [runCommand, documentTokens, hread]
  cases parseDocument explain document with
  | error failure => rfl
  | ok v => cases compileSort (some v) <;> rfl

/-- The option decides how tokens are printed, and nothing else. -/
theorem SortsBy.run_eq {document : String} {asJson : Bool} {arguments : List String}
    {input : ByteArray} (h : SortsBy document asJson arguments input) :
    run arguments input explain =
      match documentTokens explain document with
      | .ok tokens => ⟨0, tokensText asJson tokens ++ "\n", none⟩
      | .error failure => ⟨1, "", some failure.report⟩ := by
  have hcommand : ∃ document?,
      Invocation.ofArguments arguments = .command (.sort document? asJson) ∧
      readDocument explain document? input = parseDocument explain document := by
    cases h with
    | argument h => exact ⟨_, h, rfl⟩
    | input h => exact ⟨_, h, readDocument_toUTF8 document⟩
  obtain ⟨document?, hcommand, hread⟩ := hcommand
  unfold run
  simp only [hcommand, runCommand_sort hread]
  cases documentTokens explain document <;> rfl

theorem documentTokens_eq_ok_iff {document : String} {tokens : List String} :
    documentTokens explain document = .ok tokens ↔
      ∃ v order, parseDocument explain document = .ok v ∧ SortOrder.ofValue v = .ok order ∧
        order.tokens = tokens := by
  unfold documentTokens compileSort
  simp only [bind_eq_ok_iff, mapError_eq_ok_iff, map_eq_ok_iff]
  constructor
  · rintro ⟨v, hv, order, horder, htokens⟩
    exact ⟨v, order, hv, horder, htokens⟩
  · rintro ⟨v, order, hv, horder, htokens⟩
    exact ⟨v, hv, order, horder, htokens⟩

variable (explain)

/-- With the option and without it, sorting by a document fails for the same reason or gives
    the same tokens: as a JSON array that is read back to them, and line by line. -/
theorem sort_outputs_agree (document : String) :
    -- the document is an argument, behind two dashes if it starts with one itself, or the input
    (∀ asJson input,
      ((∀ rest, document.toList ≠ '-' :: rest) →
        SortsBy document asJson (sortArguments asJson [document]) input) ∧
      SortsBy document asJson (sortArguments asJson ["--", document]) input ∧
      SortsBy document asJson (sortArguments asJson []) document.toUTF8) ∧
    ∀ arguments arguments' input input', SortsBy document false arguments input →
      SortsBy document true arguments' input' →
      -- both calls fail with the same report
      (∃ failure, documentTokens explain document = .error failure ∧
        run arguments input explain = ⟨1, "", some failure.report⟩ ∧
        run arguments' input' explain = ⟨1, "", some failure.report⟩) ∨
      -- or both print the tokens that the document compiles to
      ∃ v order json, parseDocument explain document = .ok v ∧ SortOrder.ofValue v = .ok order ∧
        compileSort (some v) = .ok order.tokens ∧
        run arguments input explain = ⟨0, String.intercalate "\n" order.tokens ++ "\n", none⟩ ∧
        run arguments' input' explain = ⟨0, json ++ "\n", none⟩ ∧
        -- as JSON they are read back, and stand on one line
        (∀ reading, Json.ofString? reading json = some (.array (order.tokens.map .string))) ∧
        '\n' ∉ json.toList ∧
        -- as lines they are found again, unless there are none or a field has a line break
        (order.tokens ≠ [] → (∀ name ∈ order.fieldNames, '\n' ∉ name.toList) →
          lines (String.intercalate "\n" order.tokens) = order.tokens) := by
  refine ⟨sortsBy_cases document, ?_⟩
  intro arguments arguments' input input' hlines hjson
  rw [hlines.run_eq, hjson.run_eq]
  cases htokens : documentTokens explain document with
  | error failure => exact .inl ⟨failure, rfl, rfl, rfl⟩
  | ok tokens =>
    obtain ⟨v, order, hv, horder, rfl⟩ := documentTokens_eq_ok_iff.mp htokens
    refine .inr ⟨v, order, jsonList order.tokens, hv, horder, ?_, rfl, rfl,
      fun reading => Json.ofString?_jsonList reading order.tokens,
      newline_not_mem_jsonList order.tokens, fun hne hnames =>
        lines_intercalate hne (SortOrder.newline_not_mem_tokens hnames)⟩
    exact map_eq_ok_iff.mpr ⟨order, horder, rfl⟩

/-- Field names with a quote, a backslash and a control character, in an argument and in the
    input. -/
theorem sort_outputs_agree_escapes :
    let document := "\x7b\"q\\\"\\\\\":\"asc\",\"é\\u0001\":\"desc\"\x7d"
    let tokens := ["q\"\\:asc", "é\x01:desc"]
    let explain (_ : String) : Option String := some "expected value at line 1 column 1"
    run ["sort", document] .empty explain = ⟨0, "q\"\\:asc\né\x01:desc\n", none⟩ ∧
      lines "q\"\\:asc\né\x01:desc" = tokens ∧
      ∃ json, run ["sort", "--json"] document.toUTF8 explain = ⟨0, json ++ "\n", none⟩ ∧
        '\n' ∉ json.toList ∧
        ∀ reading, Json.ofString? reading json = some (.array (tokens.map .string)) := by
  intro document tokens explain
  -- the document is read to an object with two fields
  let written (s : String) : List Quoted.Piece := s.toList.map Quoted.pieceOf
  let raw : RawJson := .object [(written "q\"\\", .string (written "asc")),
    (written "é\x01", .string (written "desc"))]
  have hnil := Json.areBlank_nil
  have hdocument : raw.IsDocument document :=
    ⟨_, [], by decide +kernel, .object (.cons (.mk hnil hnil) (.string _) hnil
      (.last (.mk hnil hnil) (.string _) hnil)), hnil⟩
  have hraw : Json.ofRaw? documentReading raw =
      some (.object [("q\"\\", .string "asc"), ("é\x01", .string "desc")]) := by
    simp only [raw, written, Json.ofRaw?, Json.ofRawMembers?, Json.toString?_map_pieceOf]
    rfl
  have hvalue := Json.ofString?_eq_some_iff.mpr ⟨raw, hdocument.ofString?_eq, by decide, hraw⟩
  have hparse : parseDocument explain document =
      .ok (.object [("q\"\\", some (.string "asc")), ("é\x01", some (.string "desc"))]) := by
    unfold parseDocument
    rw [hvalue]
    rfl
  obtain ⟨hcalls, hboth⟩ := sort_outputs_agree explain document
  have hrepeats : SortOrder.RepeatsNothing ⟨[.field ⟨"q\"\\", .asc⟩, .field ⟨"é\x01", .desc⟩]⟩ :=
    ⟨by decide, by decide, by decide⟩
  have hdash : ∀ rest, document.toList ≠ '-' :: rest := by
    intro rest heq
    have hhead : document.toList.head? = some '\x7b' := by decide +kernel
    rw [heq] at hhead
    exact absurd (Option.some.inj hhead) (by decide)
  rcases hboth _ _ _ _ ((hcalls false .empty).1 hdash) (hcalls true .empty).2.2 with
    ⟨failure, hfailure, -⟩ | ⟨v, order, json, hv, hread, -, hlines, hjson, hback, hline, hsplit⟩
  · have hok := documentTokens_eq_ok_iff.mpr ⟨_, _, hparse, hrepeats.ofValue_document, rfl⟩
    rw [hfailure] at hok
    cases hok
  · rw [hparse] at hv
    cases hv
    obtain rfl := Except.ok.inj (hrepeats.ofValue_document.symm.trans hread)
    exact ⟨hlines, hsplit (by decide) (by decide), json, hjson, hline, hback⟩

end CommandLine

end SearchQuery
