import SearchQuery.Builder.Basic
import SearchQuery.CommandLine.Arguments
import SearchQuery.Json.Document
import SearchQuery.SortOrder
import SearchQuery.Value.OfJson

/-! # Running commands

  `CommandLine.run` is the whole program as a function of its arguments and its
  input: what it prints, how it ends, and the report if it fails.

  The words for what keeps a text from being JSON are those of a reader of JSON.
  They are a parameter: `explain` gives them for the text.
-/

namespace SearchQuery

namespace CommandLine

/-! ### Failures -/

/-- Why a command fails. -/
inductive Failure where
  /-- The input is not text. -/
  | inputNotText
  /-- A document is not JSON, for this cause if it is told. -/
  | notJson (cause? : Option String)
  /-- A document holds a bad date. -/
  | document (error : QueryError)
  /-- A filter document has no meaning. -/
  | filter (error : QueryError)
  /-- A sort document has no meaning. -/
  | sort (error : QueryError)
  /-- A clause has no meaning. -/
  | clause (text : String) (error : QueryError)
deriving DecidableEq, Repr

namespace Failure

/-- What the command was doing. -/
def context : Failure → String
  | inputNotText => "CLI: Failed to read document from stdin"
  | notJson _ => "CLI: Document is not valid JSON"
  | document _ => "CLI: Invalid document"
  | filter _ => "CLI: Failed to compile filter"
  | sort _ => "CLI: Failed to compile sort"
  | clause text _ => "CLI: Invalid clause " ++ text

/-- What went wrong. -/
def cause? : Failure → Option String
  | inputNotText => some "stream did not contain valid UTF-8"
  | notJson cause? => cause?
  | document error | filter error | sort error | clause _ error => some error.message

/-- A text with every line four places further in. -/
def indent (text : String) : String :=
  String.ofList ("    ".toList ++
    text.toList.flatMap fun c => if c = '\n' then "\n    ".toList else [c])

/-- The report of a failure. -/
def report (f : Failure) : String :=
  "Error: " ++ f.context ++
    match f.cause? with
    | some cause => "\n\nCaused by:\n" ++ indent cause
    | none => ""

end Failure

/-! ### Commands -/

/-- How the numerals of documents are read. -/
def documentReading : NumeralReading := .quick

section Commands

variable (explain : String → Option String)

/-- The value of a document. -/
def parseDocument (text : String) : Except Failure Value :=
  match Json.ofString? documentReading text with
  | some json => (Value.ofJson json).mapError .document
  | none => .error (.notJson (explain text))

/-- The value of the document that is given, or else of the one in the input. -/
def readDocument (document? : Option String) (input : ByteArray) : Except Failure Value :=
  match document? with
  | some text => parseDocument explain text
  | none =>
    match String.fromUTF8? input with
    | some text => parseDocument explain text
    | none => .error .inputNotText

/-- The arguments in a clause. A value that is not an array is a single argument. -/
def clauseArguments : Value → List Value
  | .array items => items
  | v => [v]

/-- Adds the comparison in the text of a clause. -/
def addClause (b : FilterBuilder) (text : String) : Except Failure FilterBuilder := do
  let v ← parseDocument explain text
  (b.compareArguments (clauseArguments v)).mapError (.clause text)

/-- A list of strings as JSON. -/
def jsonList (texts : List String) : String :=
  "[" ++ String.intercalate "," (texts.map quoted) ++ "]"

/-- The text that a command prints. -/
def runCommand (command : Command) (input : ByteArray) : Except Failure String := do
  match command with
  | .filter document? =>
    let document ← readDocument explain document? input
    (compileFilter document).mapError .filter
  | .sort document? asJson =>
    let document ← readDocument explain document? input
    let tokens ← (compileSort (some document)).mapError .sort
    return if asJson then jsonList tokens else String.intercalate "\n" tokens
  | .build clauses =>
    let b ← clauses.foldlM (addClause explain) FilterBuilder.empty
    return b.build

end Commands

/-! ### The program -/

/-- How the program ends. -/
structure Outcome where
  exitCode : Nat
  /-- What is printed. -/
  output : String
  /-- The report of a failure. -/
  failure? : Option String
deriving DecidableEq, Repr

/-- The name and the version of the program. -/
def versionLine : String := "meili-query 0.1.0"

/-- Runs the program. Unless it is explained why a text is not JSON, the report has no
    cause there. -/
def run (arguments : List String) (input : ByteArray)
    (explain : String → Option String := fun _ => none) : Outcome :=
  match Invocation.ofArguments arguments with
  | .badUsage => ⟨2, "", none⟩
  | .version => ⟨0, versionLine ++ "\n", none⟩
  | .command command =>
    match runCommand explain command input with
    | .ok text => ⟨0, text ++ "\n", none⟩
    | .error failure => ⟨1, "", some failure.report⟩

/-- Whether the program looks at its input. -/
def needsInput (arguments : List String) : Bool :=
  match Invocation.ofArguments arguments with
  | .command (.filter none) | .command (.sort none _) => true
  | _ => false

end CommandLine

end SearchQuery
