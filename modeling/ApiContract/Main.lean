import ApiContract.CommandLine.Run

/-!
# Main — the program

All that a run may look at is read first: its two environment variables and the files its arguments
name.
-/

open ApiContract

/-- The fault that an error of the system stands for. -/
def faultOf : IO.Error → FileFault
  | .noFileOrDirectory _ _ _ => .missing
  | .inappropriateType _ code _ => if code = 21 then .isDirectory else .notDirectory
  | .permissionDenied _ _ _ => .denied
  | .invalidArgument _ _ _ => .nameTooLong
  | e => .other e.toString

/-- The contents of the file at a path, or why there are none. -/
def contentsAt (path : String) : IO (String × Except FileFault ByteArray) := do
  try return (path, .ok (← IO.FS.readBinFile path))
  catch e => return (path, .error (faultOf e))

/-- Run the program and leave its outcome behind. -/
def main (args : List String) : IO UInt32 := do
  let settings ← [targetVariable, timeoutVariable].mapM fun name => return (name, ← IO.getEnv name)
  let env (name : String) : Option String := (settings.lookup name).join
  let paths := match CommandLine.read args with
    | .ok invocation => invocation.paths env
    | .error _ => []
  let files ← (paths.filter fun path => !isUrlTarget path).mapM contentsAt
  let read (path : String) : Except FileFault ByteArray :=
    (files.lookup path).getD (.error .missing)
  let outcome := CommandLine.run read env args
  IO.print outcome.output
  IO.eprint outcome.errors
  return outcome.code.toUInt32
