import Usockit.Main.Cli

namespace Usockit
open Foundation

/-- What main() is compiled with: USOCKIT_VERSION_NAME and the array that is `sun_path`. -/
structure Build where
  versionName : Cstr
  sunPathSize : Nat

def Build.usockitSocketPathnameMaxLength (build : Build) : Nat := build.sunPathSize - 1

/-- The arguments of main(): argc is an int and not zero. -/
structure Argv where
  argv0 : Cstr
  args : List Cstr
  argc_int : args.length + 1 < 2 ^ 31

def Argv.argc (argv : Argv) : Nat := argv.args.length + 1

/-! ## Messages -/

def decimal (n : Nat) : Cstr := bytesOf (toString n)

def usageStringServer : Cstr := bytesOf "<socket_path> -- <program> [<args>...]"

def usageStringClient : Cstr := bytesOf "<socket_path>"

def printUsage (argv0 : Cstr) : Cstr :=
  bytesOf "usage: " ++ argv0 ++ bytesOf " " ++ usageStringServer ++ bytesOf "\n" ++
  bytesOf "   or: " ++ argv0 ++ bytesOf " " ++ usageStringClient ++ bytesOf "\n"

def outOfHeapMemory (argv0 : Cstr) : Cstr := argv0 ++ bytesOf ": out of heap memory\n"

def programMustNotBeEmpty (argv0 : Cstr) (i : Nat) : Cstr :=
  argv0 ++ bytesOf ": argument " ++ decimal i ++ bytesOf ": must not be empty\n" ++
  bytesOf "usage: " ++ argv0 ++ bytesOf " " ++ usageStringServer ++ bytesOf "\n"

def invalidArgument (argv0 arg : Cstr) : Cstr :=
  argv0 ++ bytesOf ": " ++ arg ++
  bytesOf ": invalid argument: expected either '--' or nothing here\n" ++ printUsage argv0

def argumentMustNotBeEmpty (argv : Argv) (i : Nat) : Cstr :=
  (if argv.argc = 2 then argv.argv0 ++ bytesOf ": argument must not be empty\n"
  else argv.argv0 ++ bytesOf ": argument " ++ decimal i ++ bytesOf ": must not be empty\n") ++
  printUsage argv.argv0

def missingSocketPath (argv0 : Cstr) : Cstr :=
  argv0 ++ bytesOf ": missing argument: <socket_path>\n" ++ printUsage argv0

def pathTooLong (argv0 socketPathname : Cstr) (maxLength : Nat) : Cstr :=
  argv0 ++ bytesOf ": " ++ socketPathname ++
  bytesOf ": path too long: socket path length must not be more than " ++ decimal maxLength ++
  bytesOf "\n"

def missingProgram (argv0 : Cstr) : Cstr :=
  argv0 ++ bytesOf ": missing arguments: <program> [<args>...]\n" ++ printUsage argv0

/-! ## main() up to the call of usockit_server or usockit_client -/

/-- What comes next in main(): the code after, a return from it, or a call. -/
inductive Flow
  | next (cli : Cli)
  | returned (exitCode : Nat) (stderr : Cstr)
  | callsServer (cli : Cli)
  | callsClient (cli : Cli)
  deriving DecidableEq

variable (build : Build) (argv : Argv)

/-- A turn of the loop. It allocates at most once, which succeeds where it is `granted`. -/
def mainTurn (granted : Bool) (i : Nat) (arg : Cstr) (cli : Cli) (heap : Heap) :
    Option (Flow × Heap) :=
  if cli.childProgram then
    if cli.childProgramArgvSize = 0 ∧ arg = [] then do
      let heap ← usockitCliDestroyDefinitelyInitChildProgramArgv cli heap
      some (.returned 9 (programMustNotBeEmpty argv.argv0 i), heap)
    else do
      let (retStatus, cli, heap) ← usockitCliAppendChildProgramArg granted arg cli heap
      if retStatus ≠ .success then
        let heap ← usockitCliDestroyDefinitelyInitChildProgramArgv cli heap
        some (.returned 101 (outOfHeapMemory argv.argv0), heap)
      else some (.next cli, heap)
  else if arg = bytesOf "--" then do
    let (retStatus, cli, heap) ← usockitCliInitChildProgramArgv granted cli heap
    if retStatus ≠ .success then
      let heap ← usockitCliDestroyDefinitelyNoInitChildProgramArgv cli heap
      some (.returned 101 (outOfHeapMemory argv.argv0), heap)
    else some (.next cli, heap)
  else if arg = bytesOf "--version" then do
    let heap ← usockitCliDestroyDefinitelyNoInitChildProgramArgv cli heap
    some (.returned 0 (build.versionName ++ bytesOf "\n"), heap)
  else if cli.socketPathname ≠ none then do
    let heap ← usockitCliDestroyDefinitelyNoInitChildProgramArgv cli heap
    some (.returned 7 (invalidArgument argv.argv0 arg), heap)
  else if arg ≠ [] then some (.next { cli with socketPathname := some arg }, heap)
  else do
    let heap ← usockitCliDestroyDefinitelyNoInitChildProgramArgv cli heap
    some (.returned 9 (argumentMustNotBeEmpty argv i), heap)

def mainLoop (granted : Nat → Bool) : Nat → List Cstr → Cli → Heap → Option (Flow × Heap)
  | _, [], cli, heap => some (.next cli, heap)
  | i, arg :: rest, cli, heap => do
      match ← mainTurn build argv (granted i) i arg cli heap with
      | (.next cli, heap) => mainLoop granted (i + 1) rest cli heap
      | exit => some exit

def mainServer (granted : Bool) (cli : Cli) (heap : Heap) : Option (Flow × Cli × Heap) :=
  if cli.childProgramArgvSize = 0 then
    some (.returned 3 (missingProgram argv.argv0), cli, heap)
  else do
    let (retStatus, cli, heap) ← usockitCliShrinkToFitChildProgramArgv granted cli heap
    if retStatus ≠ .success then
      some (.returned 101 (outOfHeapMemory argv.argv0), cli, heap)
    else some (.callsServer cli, cli, heap)

def mainAfterLoop (granted : Bool) (cli : Cli) (heap : Heap) : Option (Flow × Heap) :=
  match cli.socketPathname with
  | none => do
      let heap ← usockitCliDestroy cli heap
      some (.returned 3 (missingSocketPath argv.argv0), heap)
  | some socketPathname =>
      if socketPathname.length > build.usockitSocketPathnameMaxLength then do
        let heap ← usockitCliDestroy cli heap
        some (.returned 48 (pathTooLong argv.argv0 socketPathname
          build.usockitSocketPathnameMaxLength), heap)
      else if cli.childProgram then do
        match ← mainServer argv granted cli heap with
        | (.callsServer cli, _, heap) => some (.callsServer cli, heap)
        | (exit, cli, heap) =>
            let heap ← usockitCliDestroyDefinitelyInitChildProgramArgv cli heap
            some (exit, heap)
      else some (.callsClient cli, heap)

/-- main() until it returns or calls usockit_server or usockit_client. `granted i` says whether
the allocation succeeds that turn `i` of the loop makes, or main_server where `i` is argc. -/
def main (granted : Nat → Bool) : Option (Flow × Heap) := do
  match ← mainLoop build argv granted 1 argv.args usockitCliCreate ⟨[]⟩ with
  | (.next cli, heap) => mainAfterLoop build argv (granted argv.argc) cli heap
  | exit => some exit

end Usockit
