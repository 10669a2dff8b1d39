import BgpTestbed.Files.FileSystem

/-!
# Stores

What a program needs from the place where its files are.  A file system that
is threaded through as a state is such a place.
-/

namespace BgpTestbed.Files

class Store (m : Type → Type) where
  isDirectory : String → m Bool
  createDirectory : String → m (Except FileFault Unit)
  write : String → ByteArray → m (Except FileFault Unit)
  read : String → m (Except FileFault ByteArray)

/-- The outcome of a change and the files after it, which are the old ones if
the change is not possible. -/
def changed {σ : Type} (files : σ) (result : Except FileFault σ) :
    Except FileFault Unit × σ :=
  match result with
  | .error fault => (.error fault, files)
  | .ok files => (.ok (), files)

instance : Store (StateM FileSystem) where
  isDirectory path files := (files.isDirectory path, files)
  createDirectory path files := changed files (files.createDirectory path)
  write path content files := changed files (files.write path content)
  read path files := (files.read path, files)

/-- Creates the directory of the first path, and before it those of the later
paths that are missing.  A directory that exists is no fault. -/
def createAbove [Monad m] [Store m] :
    List String → m (Except FileFault Unit)
  | [] => pure (.ok ())
  | path :: above => do
      let settle (fault : FileFault) : m (Except FileFault Unit) := do
        if ← Store.isDirectory path then pure (.ok ()) else pure (.error fault)
      match ← Store.createDirectory path with
      | .ok () => pure (.ok ())
      | .error .notFound =>
          match ← createAbove above with
          | .error fault => pure (.error fault)
          | .ok () =>
              match ← Store.createDirectory path with
              | .ok () => pure (.ok ())
              | .error fault => settle fault
      | .error fault => settle fault

/-- Creates a directory together with those above it. -/
def createDirectories [Monad m] [Store m] (path : String) :
    m (Except FileFault Unit) :=
  createAbove (ancestors path)

/-- Reads a file that has to hold UTF-8 text. -/
def readText [Monad m] [Store m] (path : String) :
    m (Except FileFault String) := do
  match ← Store.read path with
  | .error fault => pure (.error fault)
  | .ok content =>
      match String.fromUTF8? content with
      | some text => pure (.ok text)
      | none => pure (.error .notText)

def writeText [Monad m] [Store m] (path text : String) :
    m (Except FileFault Unit) :=
  Store.write path text.toUTF8

end BgpTestbed.Files
