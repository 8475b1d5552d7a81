/-! # Command line arguments

  Arguments are read from left to right. Options stand before or after the name of
  a command; after `--` everything is a value. The first argument that cannot be
  right decides, except that a request for the version is granted as soon as it is
  met.

  An option may be given once before the command and once after it. Short options
  may share one dash.
-/

namespace SearchQuery

namespace CommandLine

/-- What the program is asked to do. -/
inductive Command where
  /-- Compiles a filter document, which is read from the input if it is not given. -/
  | filter (document? : Option String)
  /-- Compiles a sort document, and writes the tokens line by line or as JSON. -/
  | sort (document? : Option String) (asJson : Bool)
  /-- Builds a filter from clauses. -/
  | build (clauses : List String)
deriving DecidableEq, Repr

/-- What the arguments amount to. -/
inductive Invocation where
  /-- A command to run. -/
  | command (command : Command)
  /-- The version is asked for. -/
  | version
  /-- The arguments make no sense. -/
  | badUsage
deriving DecidableEq, Repr

/-- The names of commands. -/
inductive CommandName where
  | filter
  | sort
  | build
deriving DecidableEq, Repr

def CommandName.ofString? : String → Option CommandName
  | "filter" => some .filter
  | "sort" => some .sort
  | "build" => some .build
  | _ => none

/-! ### Options -/

/-- An argument that is not a value. -/
inductive Flag where
  | verbose
  | version
  | json
deriving DecidableEq, Repr

def Flag.ofLetter? : Char → Option Flag
  | 'v' => some .verbose
  | 'V' => some .version
  | _ => none

def Flag.ofLong? : String → Option Flag
  | "--verbose" => some .verbose
  | "--version" => some .version
  | "--json" => some .json
  | _ => none

/-- What a single argument is. -/
inductive Argument where
  /-- A value. A dash alone is one. -/
  | value (text : String)
  /-- The mark after which there are only values. -/
  | onlyValues
  /-- Options, in order; the last is unknown if `none`. -/
  | flags (flags : List (Option Flag))
deriving DecidableEq, Repr

def Argument.ofString (argument : String) : Argument :=
  match argument.toList with
  | ['-', '-'] => onlyValues
  | '-' :: '-' :: _ => flags [Flag.ofLong? argument]
  | '-' :: letter :: letters => flags ((letter :: letters).map Flag.ofLetter?)
  | _ => value argument

/-! ### After the command -/

/-- What has been read after the name of a command. -/
structure Given where
  /-- The values, in order. -/
  values : List String
  /-- The options. -/
  flags : List Flag
deriving DecidableEq, Repr

namespace Given

def nothing : Given := ⟨[], []⟩

/-- Whether a command understands an option. -/
def allows (name : CommandName) : Flag → Bool
  | .verbose => true
  | .json => name == .sort
  | .version => false

/-- Adds options, none of which may be there already. -/
def addFlags (name : CommandName) (given : Given) : List (Option Flag) → Option Given
  | [] => some given
  | some flag :: flags =>
    if allows name flag && !given.flags.contains flag then
      addFlags name { given with flags := given.flags ++ [flag] } flags
    else none
  | none :: _ => none

def addValues (given : Given) (values : List String) : Given :=
  { given with values := given.values ++ values }

/-- Reads the arguments after the name of a command. -/
def read (name : CommandName) (given : Given) : List String → Option Given
  | [] => some given
  | argument :: arguments =>
    match Argument.ofString argument with
    | .value text => read name (given.addValues [text]) arguments
    | .onlyValues => some (given.addValues arguments)
    | .flags flags =>
      match given.addFlags name flags with
      | some given => read name given arguments
      | none => none

/-- The command that has been given: at most one document, at least one clause. -/
def command? (name : CommandName) (given : Given) : Option Command :=
  match name, given.values with
  | .filter, [] => some (.filter none)
  | .filter, [document] => some (.filter (some document))
  | .sort, [] => some (.sort none (given.flags.contains .json))
  | .sort, [document] => some (.sort (some document) (given.flags.contains .json))
  | .build, clause :: clauses => some (.build (clause :: clauses))
  | _, _ => none

end Given

/-! ### Before the command -/

namespace Invocation

/-- The result of reading options before the command: how the reading ends, or
    whether the verbose option has been given so far. -/
def readFlags (verbose : Bool) : List (Option Flag) → Except Invocation Bool
  | [] => .ok verbose
  | some .version :: _ => .error version
  | some .verbose :: flags => if verbose then .error badUsage else readFlags true flags
  | _ => .error badUsage

/-- Reads the arguments; `verbose` tells whether that option has been given. -/
def read (verbose : Bool) : List String → Invocation
  | [] => badUsage
  | argument :: arguments =>
    match Argument.ofString argument with
    | .value text =>
      match CommandName.ofString? text with
      | none => badUsage
      | some name =>
        match (Given.nothing.read name arguments).bind (Given.command? name) with
        | some c => command c
        | none => badUsage
    | .onlyValues => badUsage
    | .flags flags =>
      match readFlags verbose flags with
      | .ok verbose => read verbose arguments
      | .error invocation => invocation

/-- What a list of arguments amounts to. -/
def ofArguments (arguments : List String) : Invocation :=
  read false arguments

end Invocation

end CommandLine

end SearchQuery
