import SearchQuery.CommandLine.Run

/-! # The program

  Gives the arguments and the input to `CommandLine.run`, and prints what comes
  out. The input is read only if the command looks at it.
-/

def main (arguments : List String) : IO UInt32 := do
  let input ←
    if SearchQuery.CommandLine.needsInput arguments then (← IO.getStdin).readBinToEnd
    else pure ByteArray.empty
  let outcome := SearchQuery.CommandLine.run arguments input
  IO.print outcome.output
  if let some report := outcome.failure? then IO.eprintln report
  if outcome.exitCode = 2 then
    IO.eprintln "usage: [-v] (filter [DOCUMENT] | sort [--json] [DOCUMENT] | build CLAUSE...)"
  return outcome.exitCode.toUInt32
