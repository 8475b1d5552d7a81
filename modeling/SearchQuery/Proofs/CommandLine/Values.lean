import SearchQuery.CommandLine.Run

/-! # Commands and their values

  An argument that does not start with a dash is a value, and so is the text of a JSON array
  or object. A command whose arguments are all values gets them in their order. The input of
  the program counts only if no document is given, and then it is read as the document.
-/

namespace SearchQuery

namespace RawJson

/-- A text that starts with a dash can only be that of a number. -/
theorem readValue_dash (steps : Nat) (rest : List Char) :
    readValue (steps + 1) ('-' :: rest) = readNumber ('-' :: rest) := by
  have hskip : skipBlank ('-' :: rest) = '-' :: rest := List.dropWhile_cons_of_neg (by decide)
  unfold readValue
  rw [hskip]
  split
  case h_7 => rfl
  all_goals
    rename_i heq
    exact absurd (List.cons.inj heq).1 (by decide)

theorem toList_ne_dash {text : String} {raw : RawJson} (h : ofString? text = some raw)
    (hraw : ∀ numeral, raw ≠ number numeral) (rest : List Char) : text.toList ≠ '-' :: rest := by
  intro htext
  rw [ofString?, ofList?, htext, readValue_dash] at h
  unfold readNumber at h
  cases hread : Numeral.read ('-' :: rest) with
  | none => simp [hread] at h
  | some pair =>
    obtain ⟨numeral, rest'⟩ := pair
    by_cases hzero : numeral.hasLeadingZero
    · simp [hread, hzero] at h
    · simp [hread, hzero] at h
      exact hraw numeral h.2.symm

end RawJson

namespace CommandLine

/-! ### Arguments -/

theorem Argument.ofString_of_ne_dash {text : String}
    (h : ∀ rest, text.toList ≠ '-' :: rest) : Argument.ofString text = .value text := by
  unfold Argument.ofString
  split
  · next heq => exact absurd heq (h _)
  · next heq => exact absurd heq (h _)
  · next heq => exact absurd heq (h _)
  · rfl

/-- Whether arguments are all values. -/
def AreValues (arguments : List String) : Prop :=
  ∀ argument ∈ arguments, Argument.ofString argument = .value argument

theorem Given.read_values (name : CommandName) (given : Given) {arguments : List String}
    (h : AreValues arguments) : given.read name arguments = some (given.addValues arguments) := by
  induction arguments generalizing given with
  | nil => simp [Given.read, Given.addValues]
  | cons argument arguments ih =>
    have hargument := h argument List.mem_cons_self
    have hrest := ih (given.addValues [argument]) fun a ha => h a (List.mem_cons_of_mem _ ha)
    rw [Given.read, hargument]
    simpa [Given.addValues] using hrest

/-- A command with values only is given these values. -/
theorem Invocation.ofArguments_values {name : String} {commandName : CommandName}
    (hname : CommandName.ofString? name = some commandName)
    (hvalue : Argument.ofString name = .value name) {arguments : List String}
    (h : AreValues arguments) {c : Command}
    (hcommand : Given.command? commandName ⟨arguments, []⟩ = some c) :
    Invocation.ofArguments (name :: arguments) = .command c := by
  have hread := Given.nothing.read_values commandName h
  have hgiven : Given.nothing.addValues arguments = ⟨arguments, []⟩ := rfl
  unfold Invocation.ofArguments Invocation.read
  simp only [hvalue, hname, hread, hgiven, Option.bind_some, hcommand]

/-! ### Success -/

/-- Whether the program succeeds and prints a text. -/
def Prints (explain : String → Option String) (arguments : List String) (input : ByteArray)
    (text : String) : Prop :=
  run arguments input explain = ⟨0, text ++ "\n", none⟩

variable {explain : String → Option String}

theorem prints_iff {arguments : List String} {command : Command}
    (h : Invocation.ofArguments arguments = .command command) {input : ByteArray} {text : String} :
    Prints explain arguments input text ↔ runCommand explain command input = .ok text := by
  unfold Prints run
  simp only [h]
  cases runCommand explain command input <;> simp

/-- Building from clauses that are values. -/
theorem prints_build_iff {clauses : List String} (hne : clauses ≠ []) (h : AreValues clauses)
    {input : ByteArray} {text : String} :
    Prints explain ("build" :: clauses) input text ↔
      runCommand explain (.build clauses) input = .ok text := by
  obtain ⟨clause, rest, rfl⟩ := List.exists_cons_of_ne_nil hne
  have hcommand : Given.command? .build ⟨clause :: rest, []⟩ = some (.build (clause :: rest)) := rfl
  exact prints_iff (Invocation.ofArguments_values rfl rfl h hcommand)

/-- Compiling a filter that is given as an argument. -/
theorem prints_filter_argument_iff {document : String}
    (h : Argument.ofString document = .value document) {input : ByteArray} {text : String} :
    Prints explain ["filter", document] input text ↔
      runCommand explain (.filter (some document)) input = .ok text := by
  have hvalues : AreValues [document] := by
    intro argument hargument
    rw [List.mem_singleton.mp hargument, h]
  have hcommand : Given.command? .filter ⟨[document], []⟩ = some (.filter (some document)) := rfl
  exact prints_iff (Invocation.ofArguments_values rfl rfl hvalues hcommand)

theorem runCommand_filter_eq_ok_iff {document? : Option String} {input : ByteArray}
    {text : String} :
    runCommand explain (.filter document?) input = .ok text ↔
      ∃ v, readDocument explain document? input = .ok v ∧ compileFilter v = .ok text := by
  unfold runCommand
  simp only [bind_eq_ok_iff, mapError_eq_ok_iff]

/-- A text in the input is read as the document. -/
theorem readDocument_toUTF8 (document : String) :
    readDocument explain none document.toUTF8 = parseDocument explain document := by
  have hinput : String.fromUTF8? document.toUTF8 = some document := dif_pos document.isValidUTF8
  unfold readDocument
  rw [hinput]

/-- A filter in the input is compiled like one that is given as an argument. -/
theorem prints_filter_input_iff (document : String) (input : ByteArray) {text : String} :
    Prints explain ["filter"] document.toUTF8 text ↔
      runCommand explain (.filter (some document)) input = .ok text := by
  have hvalues : AreValues [] := by
    intro argument hargument
    cases hargument
  have hcommand : Given.command? .filter ⟨[], []⟩ = some (.filter none) := rfl
  have hread : readDocument explain none document.toUTF8 =
      readDocument explain (some document) input := readDocument_toUTF8 document
  rw [prints_iff (Invocation.ofArguments_values rfl rfl hvalues hcommand),
    runCommand_filter_eq_ok_iff, runCommand_filter_eq_ok_iff, hread]

end CommandLine

end SearchQuery
