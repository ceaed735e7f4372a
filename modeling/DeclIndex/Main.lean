import DeclIndex.CommandLine.Program
import DeclIndex.Directory.Listing
import DeclIndex.Host.Usual

/-!
# The command

The arguments come from the command line, the files as an object on standard input: under `files`
the directory, under `here` the path of the working directory, under `time` what time it is. If the
call writes a file, the directory afterwards goes to standard output as such an object.
-/

namespace DeclIndex.CommandLine

/-- The call that arguments and an object describe. -/
def Call.ofValue (arguments : List Text) (v : Value) : Call where
  arguments := arguments
  files := Directory.ofValue ((v.field? "files").getD .null)
  here := Path.ofText ((v.field? "here").getD .null).textD
  time := ((v.field? "time").getD .null).textD

/-- The status of a call, and what it prints to standard output and to standard error. -/
def Call.answer [Host] (c : Call) : Nat × Text × Text :=
  let r := c.run
  let before := Json.compact c.files.toValue.wide
  let after := Json.compact r.files.toValue.wide
  let output := r.output ++ if after == before then [] else after ++ ['\n']
  match r.ending with
  | .status n => (n, output, r.messages)
  | .misfit _ => (1, output, r.messages ++ "The call breaks off.\n".toList)

end DeclIndex.CommandLine

open DeclIndex in
/-- Runs one call. -/
def main (arguments : List String) : IO UInt32 := do
  let _ : Host := .usual
  let input ← (← IO.getStdin).readToEnd
  let v := ((Json.read Host.levels input.toList).toOption.bind Value.narrow?).getD .null
  let (status, output, messages) :=
    (CommandLine.Call.ofValue (arguments.map String.toList) v).answer
  IO.print (String.ofList output)
  IO.eprint (String.ofList messages)
  return UInt32.ofNat status
