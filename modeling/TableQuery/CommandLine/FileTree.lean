/-!
# Files in folders

A path leads to a place by its steps, which stand between slashes and are taken one after the
other. An empty step and a dot stay at a folder, two dots go to the folder around it, and a name
goes to what is kept under that name. So several paths may lead to one file.

* `FileTree.locate`: where a path leads;
* `FileTree.read`: the text that is kept there;
* `FileTree.write`: the files when another text is kept there;
* `FileTree.read_replace`: what is read afterwards, at any path.
-/

namespace TableQuery.CommandLine

/-- Why a file cannot be read. -/
inductive ReadFault
  | missing
  | directory
  | notDirectory
  | other (message : String)
deriving DecidableEq, Repr

def ReadFault.message : ReadFault → String
  | missing => "No such file or directory (os error 2)"
  | directory => "Is a directory (os error 21)"
  | notDirectory => "Not a directory (os error 20)"
  | other message => message

/-- The names that lead from the top to a file or a folder, the last first. -/
abbrev Place := List String

/-- The folders, the files with their texts, and where paths begin. -/
structure FileTree where
  folders : List Place
  files : List (Place × String)
  /-- The folder at which a path begins, and the steps that are left of it. -/
  origin : String → Place × String := fun path => ([], path)

/-- The pieces of a text between slashes. -/
def slashPieces : List Char → List (List Char)
  | [] => [[]]
  | c :: rest =>
    if c = '/' then [] :: slashPieces rest
    else match slashPieces rest with
      | [] => [[c]]
      | piece :: pieces => (c :: piece) :: pieces

namespace FileTree

/-- Where a step leads. It can be taken at a folder only. -/
def step (tree : FileTree) (place : Place) (name : String) : Except ReadFault Place :=
  if place ∈ tree.folders then
    match name with
    | "" | "." => .ok place
    | ".." => .ok place.tail
    | _ => .ok (name :: place)
  else if (tree.files.lookup place).isSome then .error .notDirectory
  else .error .missing

/-- Where a path leads, whether or not something is kept there. -/
def locate (tree : FileTree) (path : String) : Except ReadFault Place :=
  let (start, way) := tree.origin path
  ((slashPieces way.toList).map String.ofList).foldlM tree.step start

/-- The text of the file that a path leads to. -/
def read (tree : FileTree) (path : String) : Except ReadFault String := do
  let place ← tree.locate path
  match tree.files.lookup place with
  | some text => .ok text
  | none => .error (if place ∈ tree.folders then .directory else .missing)

/-- The files with another text in the one at a place. -/
def replace (tree : FileTree) (place : Place) (text : String) : FileTree :=
  { tree with
    files := tree.files.map fun (other, old) => (other, if other = place then text else old) }

/-- The files with another text in the one that a path leads to. -/
def write (tree : FileTree) (path text : String) : FileTree :=
  match tree.locate path with
  | .ok place => tree.replace place text
  | .error _ => tree

/-! ## Reading what was written -/

theorem lookup_replace (tree : FileTree) (place other : Place) (text : String) :
    (tree.replace place text).files.lookup other =
      (tree.files.lookup other).map fun old => if other = place then text else old := by
  simp only [replace]
  induction tree.files with
  | nil => rfl
  | cons entry files ih =>
    obtain ⟨p, old⟩ := entry
    simp only [List.map_cons, List.lookup_cons, ih]
    by_cases h : other = p
    · simp [h]
    · simp [beq_eq_false_iff_ne.2 h]

/-- Paths lead to the same places when the text of a file has changed. -/
theorem locate_replace (tree : FileTree) (place : Place) (text path : String) :
    (tree.replace place text).locate path = tree.locate path := by
  have h : (tree.replace place text).step = tree.step := by
    funext p name
    simp only [step, lookup_replace, Option.isSome_map]
    rfl
  unfold locate
  rw [h]
  rfl

/-- What was written can be read at every path to the file, and the other files are as before. -/
theorem read_replace (tree : FileTree) (place : Place) (text path : String) :
    (tree.replace place text).read path =
      (tree.read path).map fun old =>
        if (tree.locate path).toOption = some place then text else old := by
  unfold read
  rw [locate_replace]
  cases tree.locate path with
  | error fault => rfl
  | ok other =>
    simp only [bind, Except.bind, lookup_replace]
    cases tree.files.lookup other with
    | none => rfl
    | some old => simp [Except.map, Except.toOption]

end FileTree

end TableQuery.CommandLine
