import Reckoner.CommandLine.Response

/-!
Contract: the program itself.

Owns: reading the file that a request names, and writing the response.

Does not own: any decision about either.
-/

namespace Reckoner

def readFile? (path : String) : IO (Option ByteArray) := do
  try
    return some (← IO.FS.readBinFile path)
  catch _ =>
    return none

/-- The files that a request needs. -/
def filesOf : Request → IO (String → Option ByteArray)
  | .run options path => do
      if options.file then
        let content ← readFile? path
        return fun _ => content
      else
        return fun _ => none
  | _ => return fun _ => none

end Reckoner

def main (arguments : List String) : IO UInt32 := do
  let request := Reckoner.Request.ofArguments arguments
  let response := Reckoner.Response.ofRequest (← Reckoner.filesOf request) request
  (← IO.getStdout).putStr response.output
  (← IO.getStderr).putStr response.errors
  return UInt32.ofNat response.status
