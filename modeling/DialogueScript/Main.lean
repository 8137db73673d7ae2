import DialogueScript.CommandLine.Answer

/-!
# The program

Reads the files that a command names, and writes the answer. Playing goes line by line.
-/

namespace DialogueScript.CommandLine

/-- The bytes of the file at a path. -/
def fileAt (path : Text) : IO (Option (List UInt8)) := do
  match ← (IO.FS.readBinFile (String.ofList path)).toBaseIO with
  | .ok bytes => return some bytes.toList
  | .error _ => return none

/-- The names in the folder at a path. -/
def namesAt (path : Text) : IO (Option (List Text)) := do
  let folder := (← IO.currentDir) / String.ofList path
  match ← folder.readDir.toBaseIO with
  | .ok entries => return some (entries.toList.map (·.fileName.toList))
  | .error _ => return none

/-- Adds the folders that a path goes through. -/
def addFolders (path : Text) (tree : FileTree) : IO FileTree := do
  let steps := FileTree.steps path
  let ends := (List.range steps.length).map fun n => Text.joinWith ['/'] (steps.take (n + 1))
  ends.foldlM (fun tree path => do
    match ← namesAt (FileTree.join ['/'] path) with
    | some _ => return tree.makeDirectory path
    | none => return tree) tree

/-- Adds what is at a path, and for a folder all that is in it. -/
partial def addAll (path : Text) (tree : FileTree) : IO FileTree := do
  match ← fileAt path with
  | some content => return tree.write path content
  | none =>
    match ← namesAt path with
    | some names =>
      names.foldlM (fun tree name => addAll (FileTree.join path name) tree)
        (tree.makeDirectory path)
    | none => return tree

/-- Adds the file or the folder at a path, without what is in the folder. -/
def addOne (path : Text) (tree : FileTree) : IO FileTree := do
  match ← fileAt path with
  | some content => return tree.write path content
  | none =>
    match ← namesAt path with
    | some _ => return tree.makeDirectory path
    | none => return tree

/-- The files that a request needs. -/
def readFiles (folder : Text) : Request → IO FileTree
  | .run script _ _ | .play script | .check (.script script) _ => do
    let path := FileTree.join folder script
    addOne path (← addFolders path (.directory []))
  | .check (.folder scripts) _ => do
    let path := FileTree.join folder scripts
    addAll path (← addFolders path (.directory []))

/-- Writes a text at once. -/
def write (text : Text) : IO Unit := do
  let output ← IO.getStdout
  output.putStr (String.ofList text)
  output.flush

/-- Writes an answer and ends with its code. -/
def finish (answer : Answer) : IO UInt32 := do
  write answer.written
  return answer.code.toUInt32

/-- Plays on until the session or the input ends. -/
partial def converse (mode : LineMode) : IO UInt32 := do
  match mode.status with
  | .finished | .failed _ => finish (Answer.ofLineMode mode)
  | .reading _ =>
    match LineMode.linesOf (← (← IO.getStdin).getLine).toList with
    | [] => finish (Answer.ofLineMode mode)
    | line :: _ =>
      let (text, mode) := mode.feed line
      write text
      converse mode

/-- Plays a script. -/
def playScript (workspace : Workspace) (script : Text) : IO UInt32 := do
  match Answer.openSession workspace script with
  | .error fault => finish (Answer.ofFault fault)
  | .ok session =>
    let (text, mode) := LineMode.start session
    write text
    converse mode

/-- Explains the arguments on the error stream if they make no sense. -/
def refuse (refusal : Refusal) : IO UInt32 := do
  if refusal = .usage then
    (← IO.getStderr).putStr (String.ofList Answer.help)
  finish (Answer.ofRefusal refusal)

end DialogueScript.CommandLine

open DialogueScript.CommandLine in
/-- The program. -/
def main (arguments : List String) : IO UInt32 := do
  match Request.ofArguments (arguments.map String.toList) with
  | .error refusal => refuse refusal
  | .ok request =>
    let folder := (← IO.currentDir).toString.toList
    let workspace : Workspace := ⟨← readFiles folder request, folder⟩
    match request with
    | .play script => playScript workspace script
    | request => finish (Answer.ofRequest workspace [] request)
