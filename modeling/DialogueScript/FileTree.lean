import DialogueScript.Text.Basic

/-!
# File trees

Files and directories as a value, the paths that lead into it, and what a program asks of it: what
is at a path, the files below it in the order of their names, and a file's content as text.

Main statement: `find?_write` (a file that was written is found where it was written).
-/

namespace DialogueScript

/-- A file with its bytes, or a directory with its entries by name. -/
inductive FileTree
  | file (content : List UInt8)
  | directory (entries : List (Text × FileTree))

namespace FileTree

/-- The names that a path goes through. -/
def steps (path : Text) : List Text := Text.splitAll '/' path

/-- The path that leads from one path along another; a path from the root stands for itself. -/
def join (base path : Text) : Text :=
  if path.head? = some '/' then path
  else if base.isEmpty || base.getLast? = some '/' then base ++ path
  else base ++ '/' :: path

/-- Does the name stay where it is? -/
def staysHere (name : Text) : Bool := name.isEmpty || name == ['.']

/-- Does the name lead up? -/
def leadsUp (name : Text) : Bool := name == ['.', '.']

/-- Goes along names, knowing the directories above. Above the root is the root. A file leads
nowhere, not even to itself. -/
def descend (above : List FileTree) (here : FileTree) : List Text → Option FileTree
  | [] => some here
  | name :: rest =>
    match here with
    | file _ => none
    | directory entries =>
      if staysHere name then descend above here rest
      else if leadsUp name then
        match above with
        | [] => descend [] here rest
        | parent :: further => descend further parent rest
      else
        match entries.find? fun entry => entry.1 == name with
        | some (_, child) => descend (here :: above) child rest
        | none => none

/-- What is at a path. -/
def find? (tree : FileTree) (path : Text) : Option FileTree := descend [] tree (steps path)

/-- Is it a file? -/
def isFile : FileTree → Bool
  | file _ => true
  | directory _ => false

mutual

/-- The files, each with the names that lead to it, in the order of the entries. -/
def files : FileTree → List (List Text × List UInt8)
  | file content => [([], content)]
  | directory entries => filesOfEntries entries

/-- The files of entries. -/
def filesOfEntries : List (Text × FileTree) → List (List Text × List UInt8)
  | [] => []
  | (name, tree) :: rest =>
    tree.files.map (fun found => (name :: found.1, found.2)) ++ filesOfEntries rest

end

/-- The path of names below a base. -/
def pathBelow (base : Text) (names : List Text) : Text := names.foldl join base

/-- Changes the entry of a name, which is an empty directory if it is new. The entries stay in
ascending order. -/
def changeEntry (name : Text) (change : FileTree → FileTree) :
    List (Text × FileTree) → List (Text × FileTree)
  | [] => [(name, change (directory []))]
  | entry :: rest =>
    if name < entry.1 then (name, change (directory [])) :: entry :: rest
    else if name = entry.1 then (name, change entry.2) :: rest
    else entry :: changeEntry name change rest

/-- Changes what is at the end of names; directories on the way are made if they are missing. -/
def changeAt (change : FileTree → FileTree) : List Text → FileTree → FileTree
  | [], tree => change tree
  | name :: rest, directory entries =>
    directory (changeEntry name (changeAt change rest) entries)
  | name :: rest, file _ =>
    directory (changeEntry name (changeAt change rest) [])

/-- Goes one name further along names from the root that are all names of entries. -/
def stepFrom (names : List Text) (name : Text) : List Text :=
  if staysHere name then names else if leadsUp name then names.dropLast else names ++ [name]

/-- The names of entries that a path goes through in the end. -/
def properSteps (path : Text) : List Text := (steps path).foldl stepFrom []

/-- Puts a tree at a path. -/
def put (tree : FileTree) (path : Text) (content : FileTree) : FileTree :=
  changeAt (fun _ => content) (properSteps path) tree

/-- Writes a file. -/
def write (tree : FileTree) (path : Text) (content : List UInt8) : FileTree :=
  tree.put path (file content)

/-- Makes a directory unless there is one. -/
def makeDirectory (tree : FileTree) (path : Text) : FileTree :=
  changeAt (fun old => if old.isFile then directory [] else old) (properSteps path) tree

/-- The text of a file, if its bytes are one. -/
def decode? (content : List UInt8) : Option Text :=
  (String.fromUTF8? ⟨content.toArray⟩).map String.toList

/-- The extension of a name: what is behind its last point, unless the name starts with it. -/
def extension? (name : Text) : Option Text :=
  let tail := name.reverse.takeWhile (· != '.')
  if name == ['.', '.'] || name.length ≤ tail.length + 1 then none else some tail.reverse

theorem find?_changeEntry (name : Text) (change : FileTree → FileTree)
    (entries : List (Text × FileTree)) :
    ∃ old, (changeEntry name change entries).find? (fun entry => entry.1 == name) =
      some (name, change old) := by
  induction entries with
  | nil => exact ⟨directory [], by simp [changeEntry]⟩
  | cons entry rest ih =>
    simp only [changeEntry]
    split
    · exact ⟨directory [], by simp⟩
    · split
      · exact ⟨entry.2, by simp⟩
      · rename_i hne
        obtain ⟨old, hold⟩ := ih
        exact ⟨old, by simp [Ne.symm hne, hold]⟩

theorem descend_changeAt {names : List Text} {content : FileTree}
    (h : ∀ name ∈ names, staysHere name = false ∧ leadsUp name = false)
    (above : List FileTree) (tree : FileTree) :
    descend above (changeAt (fun _ => content) names tree) names = some content := by
  induction names generalizing above tree with
  | nil => simp [changeAt, descend]
  | cons name rest ih =>
    obtain ⟨hstay, hup⟩ := h name (by simp)
    have hrest := ih fun other ho => h other (List.mem_cons_of_mem _ ho)
    cases tree with
    | file old =>
      obtain ⟨child, hc⟩ := find?_changeEntry name (changeAt (fun _ => content) rest) []
      simp [changeAt, descend, hstay, hup, hc, hrest]
    | directory entries =>
      obtain ⟨child, hc⟩ := find?_changeEntry name (changeAt (fun _ => content) rest) entries
      simp [changeAt, descend, hstay, hup, hc, hrest]

theorem foldl_stepFrom {names : List Text} (start : List Text)
    (h : ∀ name ∈ names, staysHere name = false ∧ leadsUp name = false) :
    names.foldl stepFrom start = start ++ names := by
  induction names generalizing start with
  | nil => simp
  | cons name rest ih =>
    obtain ⟨hstay, hup⟩ := h name (by simp)
    rw [List.foldl_cons, ih _ fun other ho => h other (List.mem_cons_of_mem _ ho)]
    simp [stepFrom, hstay, hup]

theorem find?_write {tree : FileTree} {path : Text} {content : List UInt8}
    (h : ∀ name ∈ steps path, staysHere name = false ∧ leadsUp name = false) :
    (tree.write path content).find? path = some (file content) := by
  have hproper : properSteps path = steps path := foldl_stepFrom [] h
  simp only [write, put, find?, hproper]
  exact descend_changeAt h [] tree

end FileTree

end DialogueScript
