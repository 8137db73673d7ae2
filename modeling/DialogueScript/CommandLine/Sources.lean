import DialogueScript.CommandLine.Fault

/-!
# Finding scripts

Reads the scripts that a command names. Paths are taken from the working folder.
-/

namespace DialogueScript.CommandLine

/-- The files that a command sees, and the path of the folder it works in. -/
structure Workspace where
  files : FileTree
  folder : Text

/-- A script as it stands in a file. -/
structure SourceFile where
  path : Text
  source : Text
  deriving DecidableEq, Repr

namespace Workspace

/-- A path from the root, and what is there. -/
def locate (workspace : Workspace) (path : Text) : Except Fault (Text × FileTree) :=
  let path := FileTree.join workspace.folder path
  match workspace.files.find? path with
  | some tree => .ok (path, tree)
  | none => .error (.pathMissing path)

/-- The script in a file with this content. -/
def sourceFile (path : Text) (content : List UInt8) : Except Fault SourceFile :=
  match FileTree.decode? content with
  | some source => .ok ⟨path, source⟩
  | none => .error .notText

/-- Reads a script. -/
def readScript (workspace : Workspace) (path : Text) : Except Fault SourceFile := do
  match ← workspace.locate path with
  | (path, .file content) => sourceFile path content
  | (path, .directory _) => .error (.notFile path)

/-- Has the file the extension of scripts? -/
def isScriptName (name : Text) : Bool := FileTree.extension? name == some "dlg".toList

/-- Reads all scripts below a folder, in the order of their paths. -/
def readFolder (workspace : Workspace) (path : Text) : Except Fault (List SourceFile) := do
  let (path, tree) ← workspace.locate path
  if tree.isFile then .error (.notFolder path)
  else
    let scripts := tree.files.filter fun file => (file.1.getLast?.map isScriptName).getD false
    if scripts.isEmpty then .error (.noScripts path)
    else scripts.mapM fun file => sourceFile (FileTree.pathBelow path file.1) file.2

end Workspace

end DialogueScript.CommandLine
