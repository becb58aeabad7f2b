import DocChain.Command

/-!
# The command line

`compile` prints the documents of a chain, `docs`, `doc` and `onboard` print the guide. The chain
comes from the arguments or from standard input.
-/

namespace DocChain.CommandLine

def usage : String :=
  "Usage: chainql compile [--pretty] [--strict] [--syntax-only] [CHAIN]\n" ++
  "       chainql docs\n       chainql doc <CATEGORY>\n       chainql onboard\n"

def failWith (text : String) : IO UInt32 := do
  IO.eprintln text
  return 1

/-- Reads the arguments of `compile`; the chain may be missing. -/
def readCompile : List String → (chain : Option String) → CompileCommand →
    Option (Option String × CompileCommand)
  | [], chain, command => some (chain, command)
  | arg :: rest, chain, command =>
    match arg with
    | "-p" | "--pretty" => readCompile rest chain { command with pretty := true }
    | "--strict" => readCompile rest chain { command with strict := true }
    | "--syntax-only" => readCompile rest chain { command with syntaxOnly := true }
    | "-v" | "--verbose" => readCompile rest chain command
    | _ =>
      if chain.isSome || arg.startsWith "-" then none
      else readCompile rest (some arg) command

def runCompile (chain : Option String) (command : CompileCommand) : IO UInt32 := do
  let input ← IO.getStdin
  let chain ← match chain with
    | some chain => pure (some chain)
    | none => if ← input.isTty then pure none else some <$> input.readToEnd
  match chain with
  | none => failWith CommandError.noInput.message
  | some chain =>
    match CompileCommand.run { command with chain } with
    | .error e => failWith e.message
    | .ok result =>
      IO.println (result.render command.pretty)
      return 0

end DocChain.CommandLine

open DocChain DocChain.CommandLine

def main (args : List String) : IO UInt32 := do
  match args with
  | "compile" :: rest =>
    match readCompile rest none { chain := "" } with
    | some (chain, command) => runCompile chain command
    | none => failWith usage
  | ["docs"] =>
    IO.print Guide.overview
    return 0
  | ["doc", name] =>
    match topicText name with
    | .ok text =>
      IO.print text
      return 0
    | .error e => failWith e.message
  | ["onboard"] =>
    IO.print Guide.tutorial
    return 0
  | _ => failWith usage
