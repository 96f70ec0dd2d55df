import RepoWatch.CommandLine.Session
/-!
# The program

Reads the command line and prints what a session leaves behind. The program has no carrier for
its requests, so that no server is ever reached.
-/

namespace RepoWatch

/-- The surroundings of the program: every request reaches no server. -/
def offline : CommandLine.Surroundings := ⟨fun _ => ⟨fun _ => .unreachable, 0⟩, .ofUnix 0 0⟩

end RepoWatch

/-- Runs a session with the arguments of the command line. -/
def main (arguments : List String) : IO UInt32 := do
  let token ← IO.getEnv RepoWatch.CommandLine.tokenVariable
  let out := RepoWatch.CommandLine.run arguments token RepoWatch.offline
  IO.print out.text
  IO.eprint out.errors
  return UInt32.ofNat out.exitCode
