import QueryAssembly.CommandLine

/-!
# The program

The thin outer layer: it fetches arguments, environment and input, hands them to `runProgram`, and
prints what comes back.
-/

namespace QueryAssembly

/-- Read a stream to its end, after what has been read already. -/
partial def readStream (stream : IO.FS.Stream) (before : ByteArray) : IO ByteArray := do
  let chunk ← stream.read 65536
  if chunk.isEmpty then return before
  readStream stream (before ++ chunk)

/-- The reason for which a file cannot be read; system calls report the number of an error with
either sign. -/
def inputError (error : IO.Error) : InputError :=
  match error with
  | .noFileOrDirectory _ _ _ => .notFound
  | .inappropriateType _ code _ | .invalidArgument _ code _ =>
    if code = 20 || code = 0 - 20 then .notDirectory
    else if code = 21 || code = 0 - 21 then .isDirectory
    else if code = 36 || code = 0 - 36 then .nameTooLong
    else .other (toString error)
  | _ => .other (toString error)

/-- The bytes of an input. -/
def fetch : Input → IO (Except InputError ByteArray)
  | .standard => do
    let stream ← IO.getStdin
    match ← (readStream stream .empty).toBaseIO with
    | .ok bytes => return .ok bytes
    | .error error => return .error (inputError error)
  | .file name => do
    match ← (IO.FS.readBinFile name).toBaseIO with
    | .ok bytes => return .ok bytes
    | .error error => return .error (inputError error)

/-- The variables of the environment that matter. -/
def fetchEnvironment : IO Environment := do
  let mut found : List (String × String) := []
  for name in Tuning.variableNames do
    match ← IO.getEnv name with
    | some text => found := (name, text) :: found
    | none => pure ()
  return .ofList found

/-- Fetch what a run needs, run, and print what comes back. -/
def runMain (arguments : List String) : IO UInt32 := do
  let environment ← fetchEnvironment
  let contents ←
    match Invocation.parse arguments with
    | some invocation => fetch invocation.input
    | none => pure (.ok .empty)
  let outcome := runProgram arguments environment fun _ => contents
  IO.print outcome.output
  if outcome.exitCode ≠ 0 then IO.eprintln outcome.errors
  return outcome.exitCode.toUInt32

end QueryAssembly

/-- Run the program. -/
def main (arguments : List String) : IO UInt32 :=
  QueryAssembly.runMain arguments
