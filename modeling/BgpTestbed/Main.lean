import BgpTestbed.CommandLine

/-!
# The program

Runs the command line on the files of the operating system.
-/

open BgpTestbed
open BgpTestbed.Files

namespace BgpTestbed.Program

/-- Error numbers come with either sign. -/
def errorNumber (code : UInt32) : UInt32 :=
  min code (0 - code)

def faultOfNumber (error : IO.Error) (code : UInt32) : FileFault :=
  match errorNumber code with
  | 2 => .notFound
  | 17 => .alreadyExists
  | 20 => .notDirectory
  | 21 => .isDirectory
  | 36 => .nameTooLong
  | _ => .other (toString error)

/-- The fault that an error of the operating system stands for. -/
def faultOf (error : IO.Error) : FileFault :=
  match error with
  | .noFileOrDirectory _ code _ | .noSuchThing _ code _
  | .alreadyExists _ code _ | .inappropriateType _ code _
  | .invalidArgument _ code _ | .resourceExhausted _ code _
  | .otherError code _ => faultOfNumber error code
  | _ => .other (toString error)

/-- Runs an action on a path, which must not contain a NUL byte. -/
def guarded (path : String) (action : IO α) : IO (Except FileFault α) := do
  if FileSystem.hasNul path then pure (.error .nulInPath)
  else
    try
      let value ← action
      pure (.ok value)
    catch error => pure (.error (faultOf error))

instance : Store IO where
  isDirectory path :=
    ({ root := path, fileName := "." } : IO.FS.DirEntry).path.isDir
  createDirectory path := guarded path (IO.FS.createDir path)
  write path content := guarded path (IO.FS.writeBinFile path content)
  read path := guarded path (IO.FS.readBinFile path)

def usage : String :=
  "Usage: bgptestbed [-o DIR | --out DIR] [-a | --abstract] [--ir FILE] INPUT\n"

def run (arguments : List String) : IO UInt32 := do
  let outcome : CommandLine.Outcome ← CommandLine.run arguments
  match outcome with
  | .refused .help => IO.print usage
  | .refused .usage => IO.eprint usage
  | _ => pure ()
  if let some report := outcome.report? then
    let coloured ← (← IO.getStdout).isTty
    IO.eprint (report.text coloured)
  pure (UInt32.ofNat outcome.exitCode)

end BgpTestbed.Program

def main (arguments : List String) : IO UInt32 :=
  BgpTestbed.Program.run arguments
