import TenantOverlay.CommandLine.Run

/-!
# The program

Reads the arguments, the environment and the files that they name, and carries out what is asked
for. A daemon serves until its input ends.
-/

namespace TenantOverlay

/-- The text of a file that can be read. -/
def readText? (path : String) : IO (Option String) := do
  try return String.fromUTF8? (← IO.FS.readBinFile path)
  catch _ => return none

/-- The variables of the environment. -/
def readEnvironment : IO (List (String × String)) := do
  let text := (← readText? "/proc/self/environ").getD ""
  return (Text.splitOn (Char.ofNat 0) text.toList).filterMap fun line =>
    (Text.cut '=' line).map fun (name, value) => (String.ofList name, String.ofList value)

/-- The files of some paths that can be read. -/
def readAll (paths : List String) : IO (List (String × String)) := do
  let mut found := []
  for path in paths do
    match ← readText? path with
    | some text => found := found ++ [(path, text)]
    | none => pure ()
  return found

end TenantOverlay

open TenantOverlay in
/-- Runs the program. -/
def main (args : List String) : IO UInt32 := do
  let environment ← readEnvironment
  let asked := Invocation.ofArguments environment args
  let surroundings (files : List (String × String)) : Surroundings :=
    { files := (files.lookup ·), environment := environment }
  let named ← readAll ((surroundings []).paths asked)
  let files ← readAll ((surroundings named).paths asked)
  match (surroundings files).run asked with
  | .ended code output error =>
    IO.print output
    for line in error do IO.eprintln line
    return code.toUInt32
  | .serving daemon =>
    let show_ (notices : List Notice) : IO Unit := for n in notices do IO.println n.text
    if daemon.isShown then show_ daemon.notices
    let _ ← (← IO.getStdin).readToEnd
    let (code, said) := daemon.finish
    show_ (said.drop daemon.notices.length)
    return code.toUInt32
