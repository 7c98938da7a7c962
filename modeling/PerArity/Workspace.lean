import PerArity.FileTree
import PerArity.Path
import PerArity.Text.Quoted
import PerArity.Text.Raw

/-!
# Working in a file tree

A workspace is a file tree and the directory that relative paths start from. A path is followed name
by name: every name but the last has to lead to a directory, and a double dot leads one step up from
wherever the path has led so far. So a path may fail at a place that it would leave again.

A name can be too long for any directory, and a written path too long to be followed at all. The
first is noticed when the name is reached, the second before anything else, and it is a property of
the workspace, because there need not be such a limit.

## Making directories

`makeDirectory` makes one directory, whose parent has to exist. `makeDirectories` makes a directory
with everything above it: it first tries the whole path and only when something is missing turns to
the parent, in the same way, and then tries once more. A directory that exists already is no
failure, wherever it is met. Because the path is followed by name, the parent of `a/..` is `a`,
which is therefore made although the path ends above it.

A refusal concerns the path that was being made, and what was made before it stays.

## The stack

`makeDirectories` calls itself for the parent, and every call takes room on a stack. Trying a path
and looking whether there is a directory take some more room each, so either may be what does not
fit. If a path is tried in vain on the way up, nothing has been made yet; if there is no room for a
look on the way back, the directories above have been made and stay.

## Writing files

A file is emptied before the text is encoded. So a text that has no encoding leaves an empty file.
-/

namespace PerArity

/-! ## Failures -/

/-- Why an operation on files was refused. -/
inductive Refusal where
  /-- A name on the way does not exist. -/
  | missing
  /-- Something stands at the place already. -/
  | alreadyExists
  /-- A name on the way is a file. -/
  | notDirectory
  /-- A directory stands where a file was to be written. -/
  | isDirectory
  /-- A name is longer than a directory can hold, or a path longer than can be followed. -/
  | nameTooLong
  deriving DecidableEq

namespace Refusal

/-- The number of a refusal. -/
def number : Refusal → Nat
  | missing => 2
  | alreadyExists => 17
  | notDirectory => 20
  | isDirectory => 21
  | nameTooLong => 36

/-- The wording of a refusal. -/
def text : Refusal → String
  | missing => "No such file or directory"
  | alreadyExists => "File exists"
  | notDirectory => "Not a directory"
  | isDirectory => "Is a directory"
  | nameTooLong => "File name too long"

end Refusal

/-- The wording of a refusal that concerns a path. -/
def Refusal.message (refusal : Refusal) (path : Path) : String :=
  s!"[Errno {refusal.number}] {refusal.text}: {Text.quoted path.toString}"

/-- Why an operation on files failed. -/
inductive FileError where
  /-- It was refused at a path. -/
  | refused (refusal : Refusal) (path : Path)
  /-- There was no room left on the stack. -/
  | tooDeep
  /-- The text that was to be written has no encoding. -/
  | unencodable (place : RawText.Unencodable)
  deriving DecidableEq

/-! ## The stack -/

/-- What is done within a call that makes a directory. -/
inductive Stack.Work where
  /-- To try the path. -/
  | attempt
  /-- To look whether there is a directory. -/
  | check
  deriving DecidableEq

/-- How much room there is for calls that call themselves. -/
structure Stack where
  /-- Whether some work does not fit within a number of calls. -/
  overflows : Nat → Stack.Work → Bool

namespace Stack

/-- A stack with room for everything. -/
def unlimited : Stack := ⟨fun _ _ ↦ false⟩

/-- The calls that some work takes besides those within which it is done. -/
def Work.calls : Work → Nat
  | attempt => 5
  | check => 6

/-- A stack for a number of calls. -/
def ofCalls (limit : Nat) : Stack := ⟨fun depth work ↦ limit < depth + work.calls⟩

/-- The stack of the program: a thousand calls, of which five lead to the first directory. -/
def ofProgram : Stack := ofCalls 995

end Stack

/-! ## Workspaces -/

/-- A file tree and a directory in it. -/
structure Workspace where
  /-- The directory that relative paths start from. -/
  directory : Location
  /-- The tree. -/
  tree : FileTree
  /-- The greatest number of bytes in the written form of a path, if there is one. -/
  pathLimit : Option Nat := none
  /-- The room for calls. -/
  stack : Stack := Stack.unlimited

/-- The state after an operation, which may have failed half-way, and its outcome. -/
structure Attempt (ε α : Type) where
  /-- The workspace afterwards. -/
  workspace : Workspace
  /-- The result, or why there is none. -/
  outcome : Except ε α

namespace Workspace

variable (w : Workspace)

/-- The directory of a workspace as a path. -/
def path : Path := ⟨.root, w.directory⟩

/-- The location where the components of a path start. -/
def origin : Path.Anchor → Location
  | .relative => w.directory
  | _ => []

/-- The greatest number of bytes in a name. -/
def maxNameBytes : Nat := 255

/-- The limit on the bytes of a path where nothing else is known. -/
def usualPathLimit : Nat := 4095

/-- Whether a path is short enough to be followed. -/
def fits (p : Path) : Bool :=
  match w.pathLimit with
  | none => true
  | some limit => p.toString.utf8ByteSize ≤ limit

/-- Goes from a directory to the directory of a name in it. -/
def enter (l : Location) (name : String) : Except Refusal Location :=
  if name = ".." then .ok l.dropLast
  else if maxNameBytes < name.utf8ByteSize then .error .nameTooLong
  else
    match w.tree.get? (l ++ [name]) with
    | some .directory => .ok (l ++ [name])
    | some (.file _) => .error .notDirectory
    | none => .error .missing

/-- Follows names from a directory, all of which have to lead to directories. -/
def walk (l : Location) (names : List String) : Except Refusal Location := names.foldlM w.enter l

/-- Whether a path leads to a directory. -/
def isDirectory (p : Path) : Bool := w.fits p && (w.walk (w.origin p.anchor) p.components).isOk

/-- The location that the last of some names stands for, if the others are followed from a
directory. There is none if there is no name or the last is a double dot; then the names lead to a
directory. -/
def place (start : Location) (names : List String) : Except Refusal (Option Location) :=
  match names.getLast? with
  | none => .ok none
  | some name => do
    let l ← w.walk start names.dropLast
    if name = ".." then .ok none
    else if maxNameBytes < name.utf8ByteSize then .error .nameTooLong
    else .ok (some (l ++ [name]))

/-- The location that a path names, if it does not lead to a directory by its form. A path that is
too long is refused before any of its names is looked at. -/
def slot (p : Path) : Except Refusal (Option Location) :=
  if w.fits p then w.place (w.origin p.anchor) p.components else .error .nameTooLong

/-- The workspace with an entry put at a location. -/
def insert (l : Location) (e : Entry) : Workspace := { w with tree := w.tree.insert l e }

/-- Makes one directory, whose parent has to exist. -/
def makeDirectory (p : Path) : Except Refusal Workspace := do
  match ← w.slot p with
  | none => .error .alreadyExists
  | some l =>
    match w.tree.get? l with
    | some _ => .error .alreadyExists
    | none => .ok (w.insert l .directory)

/-- The end of an attempt to make a directory that was refused, within a number of calls: no failure
if there is one. -/
def unlessDirectory (depth : Nat) (p : Path) (refusal : Refusal) : Attempt FileError Unit :=
  if w.stack.overflows depth .check then ⟨w, .error .tooDeep⟩
  else if w.isDirectory p then ⟨w, .ok ()⟩
  else ⟨w, .error (.refused refusal p)⟩

/-- Tries to make a directory for the second time, after what is above it was made. -/
def makeAgain (depth : Nat) (p : Path) : Attempt FileError Unit :=
  if w.stack.overflows depth .attempt then ⟨w, .error .tooDeep⟩
  else
    match w.makeDirectory p with
    | .ok made => ⟨made, .ok ()⟩
    | .error refusal => w.unlessDirectory depth p refusal

/-- Makes the directory with the given components, the last one first, and those above it, within a
number of calls. -/
def makeDirectoriesUp (anchor : Path.Anchor) (w : Workspace) (depth : Nat) :
    List String → Attempt FileError Unit
  | [] => w.makeAgain depth ⟨anchor, []⟩
  | name :: above =>
    let p : Path := ⟨anchor, (name :: above).reverse⟩
    if w.stack.overflows depth .attempt then ⟨w, .error .tooDeep⟩
    else
      match w.makeDirectory p with
      | .ok made => ⟨made, .ok ()⟩
      | .error .missing =>
        let parent := makeDirectoriesUp anchor w (depth + 1) above
        match parent.outcome with
        | .error e => ⟨parent.workspace, .error e⟩
        | .ok () => parent.workspace.makeAgain (depth + 1) p
      | .error refusal => w.unlessDirectory depth p refusal

/-- Makes a directory and those above it, as far as they do not exist. -/
def makeDirectories (p : Path) : Attempt FileError Unit :=
  makeDirectoriesUp p.anchor w 1 p.components.reverse

/-- The place of the file that a path names. The directory has to exist. -/
def filePlace (p : Path) : Except Refusal Location := do
  match ← w.slot p with
  | none => .error .isDirectory
  | some l =>
    match w.tree.get? l with
    | some .directory => .error .isDirectory
    | _ => .ok l

/-- Writes a text to a file, in place of what was in it. -/
def writeFile (p : Path) (content : RawText) : Attempt FileError Unit :=
  match w.filePlace p with
  | .error refusal => ⟨w, .error (.refused refusal p)⟩
  | .ok l =>
    match content.encode with
    | .error place => ⟨w.insert l (.file ""), .error (.unencodable place)⟩
    | .ok text => ⟨w.insert l (.file text), .ok ()⟩

end Workspace

end PerArity
