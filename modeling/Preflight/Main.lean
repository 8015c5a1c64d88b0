import Preflight.CommandLine.Run

/-!
# The program

The outer layer: reads the environment and files, draws release identifiers, and prints what a
command answers.
-/

namespace Preflight

/-- The environment variables of the process. -/
def environment : IO (List (String × String)) := do
  let text ← try IO.FS.readFile "/proc/self/environ" catch _ => pure ""
  return (splitParts '\x00' text.toList).filterMap fun entry =>
    splitAtFirst? '=' (String.ofList entry)

/-- Read a file. -/
def readInputFile (path : String) : IO (Except ReadError String) := do
  try
    return .ok (← IO.FS.readFile path)
  catch e =>
    return .error (match e with
      | .noFileOrDirectory _ _ _ => .notFound
      | .inappropriateType _ 21 _ => .isDirectory
      | .inappropriateType _ 20 _ => .notADirectory
      | .invalidArgument _ 36 _ => .nameTooLong
      | e => .other (toString e))

/-- A number of 128 bits drawn at random, in hexadecimal. -/
def randomId : IO String := do
  let bytes ← IO.getRandomBytes 16
  return String.join (bytes.toList.map fun b => hexText 2 b.toNat)

end Preflight

open Preflight in
/-- Run the command line. -/
def main (words : List String) : IO UInt32 := do
  let env ← environment
  let base ← randomId
  let outcome ← CommandLine.run readInputFile (fun version => base ++ hexText 16 version.toNat)
    env words
  (← IO.getStdout).putStr outcome.stdout
  match outcome.error with
  | some message => (← IO.getStderr).putStrLn ("✗ " ++ message)
  | none => pure ()
  return outcome.exitCode
