import MockHost.Error.Failure
import MockHost.Path

/-!
# File trees

Files and directories by place, which is the list of the names on the way from the root. The
system finds what a path leads to by going from one directory to the next; each must let it look
for something there, and no name may be too long. There are no links. Beyond that, what the system
refuses at which place is part of the tree, so that any permissions and faults of a disk can be
stated.

Questions about a path and the making of directories are modelled on what callers get to see: a
question is answered with no where a path leads nowhere, and passes on any other error.

## Main definitions

* `FileTree`: Files and directories, and what the system refuses.
* `FileError`: Why an access fails.
* `FileTree.find`: What a path leads to.
* `FileTree.holds`, `FileTree.isDirectory`: Questions about a path.
* `FileTree.read`, `FileTree.write`, `FileTree.touch`: Access to a file.
* `FileTree.makeDirectory`: A directory with those around it.
-/

namespace MockHost

/-- What lies at a place. -/
inductive FileTree.Entry where
  | file (content : Bytes)
  | directory
  deriving DecidableEq, Repr

/-- What the system may refuse at a place. -/
inductive FileTree.Access where
  /-- To look for something in a directory. -/
  | search
  | read
  /-- To change a file, or to put something new into a directory. -/
  | write
  deriving DecidableEq, Repr

/-- Files and directories by their place from the root. -/
structure FileTree where
  /-- The working directory, which is there with everything above it. -/
  workingDirectory : List Text
  entries : List (List Text × FileTree.Entry) := []
  /-- What the system refuses, and with which error. -/
  refusals : List (FileTree.Access × List Text × ErrorNumber) := []

/-- Why an access to a file or directory fails. -/
inductive FileError where
  | system (e : SystemError)
  /-- The system is not asked, as the text is not a path. -/
  | path (f : Path.Fault)
  deriving DecidableEq, Repr

namespace FileError

/-- An error of the system on a path. -/
def numbered (n : ErrorNumber) (path : Text) : FileError := .system (.onFile n path)

/-- The failure of an access, an error of the system as it is. -/
def toFailure : FileError → Failure
  | .system e => .system e
  | .path f => .path f

/-- The failure of an access, an error of the system as a report says. -/
def reportedBy (report : Text → ErrorReport) : FileError → Failure
  | .system e => .reported (report e.message)
  | .path f => .path f

/-- Whether a directory on the way is missing. -/
def isMissing : FileError → Bool
  | .system e => e.number? == some 2
  | .path _ => false

end FileError

namespace FileTree

/-- The place that a path goes to, if there is a way. -/
def placeOf (t : FileTree) (path : Text) : List Text := Path.resolve t.workingDirectory path

/-- The entry at a place. -/
def entry? (t : FileTree) (place : List Text) : Option Entry :=
  if place.isPrefixOf t.workingDirectory then some .directory
  else (t.entries.find? fun e => e.1 == place).map Prod.snd

/-- The error with which the system refuses something at a place, if it does. -/
def refusal? (t : FileTree) (access : Access) (place : List Text) : Option ErrorNumber :=
  (t.refusals.find? fun r => r.1 == access && r.2.1 == place).map fun r => r.2.2

/-- Why a name cannot be looked for in a directory, if it cannot. -/
def barrier? (t : FileTree) (place : List Text) (name : Text) : Option ErrorNumber :=
  match t.refusal? .search place with
  | some n => some n
  | none => if Path.longestName < Path.size name then some 36 else none

/-- What names lead to from a place, or why they lead nowhere. As long as there are names left, what
    lies there has to be a directory, even if the next name leads up again. -/
def follow (t : FileTree) (place : List Text) : List Text → Except ErrorNumber (Option Entry)
  | [] => .ok (t.entry? place)
  | name :: rest =>
    match t.entry? place with
    | none => .error 2
    | some (.file _) => .error 20
    | some .directory =>
      match t.barrier? place name with
      | some n => .error n
      | none => t.follow (Path.step place name) rest

/-- What a path leads to, which may be a place where there is nothing, or why it leads nowhere. -/
def find (t : FileTree) (path : Text) : Except FileError (Option Entry) :=
  match Path.fault? path with
  | some f => .error (.path f)
  | none =>
    if Path.longest < Path.size path then .error (.numbered 36 path)
    else (t.follow (Path.start t.workingDirectory path) (Path.names path)).mapError fun n =>
      .numbered n path

/-! ### Questions -/

/-- Whether an error only says that a path leads nowhere: something is missing, something on the way
    is no directory, or there is no end of links. -/
def leadsNowhere (e : SystemError) : Bool :=
  match e.number? with
  | some n => [2, 20, 9, 40].contains n
  | none => false

/-- Whether what a path leads to answers a question. A text that is not a path leads nowhere. -/
def asks (t : FileTree) (question : Option Entry → Bool) (path : Text) : Except SystemError Bool :=
  match t.find path with
  | .ok e => .ok (question e)
  | .error (.path _) => .ok false
  | .error (.system e) => if leadsNowhere e then .ok false else .error e

/-- Whether a path leads to something. -/
def holds (t : FileTree) (path : Text) : Except SystemError Bool := t.asks Option.isSome path

/-- Whether a path leads to a directory. -/
def isDirectory (t : FileTree) (path : Text) : Except SystemError Bool :=
  t.asks (· == some .directory) path

/-! ### Files -/

/-- The tree with an entry put at a place. -/
def put (t : FileTree) (place : List Text) (e : Entry) : FileTree :=
  { t with entries := t.entries.filter (fun old => old.1 != place) ++ [(place, e)] }

/-- The tree with an entry put where a path leads, if that may be written to which this changes. -/
def putIn (t : FileTree) (changed : List Text) (path : Text) (e : Entry) :
    Except FileError FileTree :=
  match t.refusal? .write changed with
  | some n => .error (.numbered n path)
  | none => .ok (t.put (t.placeOf path) e)

/-- The content of a file. -/
def read (t : FileTree) (path : Text) : Except FileError Bytes :=
  match t.find path with
  | .error e => .error e
  | .ok none => .error (.numbered 2 path)
  | .ok (some e) =>
    match t.refusal? .read (t.placeOf path), e with
    | some n, _ => .error (.numbered n path)
    | none, .directory => .error (.numbered 21 path)
    | none, .file content => .ok content

/-- The tree with the content of a file changed; one that is not there is made, empty at first. -/
def change (t : FileTree) (path : Text) (f : Bytes → Bytes) : Except FileError FileTree :=
  match t.find path with
  | .error e => .error e
  | .ok (some .directory) => .error (.numbered 21 path)
  | .ok (some (.file content)) => t.putIn (t.placeOf path) path (.file (f content))
  | .ok none => t.putIn (t.placeOf path).dropLast path (.file (f []))

/-- The tree with the content of a file replaced or the file made. -/
def write (t : FileTree) (path : Text) (content : Bytes) : Except FileError FileTree :=
  t.change path fun _ => content

/-- The tree with a file that can be added to. -/
def touch (t : FileTree) (path : Text) : Except FileError FileTree := t.change path id

/-- The tree without what a path leads to. -/
def delete (t : FileTree) (path : Text) : FileTree :=
  match t.find path with
  | .ok (some _) => { t with entries := t.entries.filter fun e => e.1 != t.placeOf path }
  | _ => t

/-! ### Directories -/

/-- The tree with a directory made where there is nothing. -/
def makeOne (t : FileTree) (path : Text) : Except FileError FileTree :=
  match t.find path with
  | .error e => .error e
  | .ok (some _) => .error (.numbered 17 path)
  | .ok none => t.putIn (t.placeOf path).dropLast path .directory

/-- The tree with a directory, which is made unless it is there. Why it could not be made counts only
    if it turns out not to be there; then it counts before what asking for it may have come to. -/
def ensureOne (t : FileTree) (path : Text) : Except FileError FileTree :=
  match t.makeOne path with
  | .ok t => .ok t
  | .error (.path f) => .error (.path f)
  | .error (.system e) =>
    match t.isDirectory path with
    | .ok true => .ok t
    | .ok false => .error (.system e)
    | .error e => .error (.system e)

/-- The tree with a directory and with those above it, which are made only if it cannot be made
    without. An error comes with the tree as it is then. -/
def ensure (t : FileTree) (path : Text) : List Text → Except (FileError × FileTree) FileTree
  | [] => (t.ensureOne path).mapError fun e => (e, t)
  | directory :: above =>
    match t.makeOne path with
    | .ok t => .ok t
    | .error e =>
      if e.isMissing then
        match t.ensure directory above with
        | .error e => .error e
        | .ok t => (t.ensureOne path).mapError fun e => (e, t)
      else (t.ensureOne path).mapError fun e => (e, t)

/-- The tree with a directory and those on the way to it. -/
def makeDirectory (t : FileTree) (path : Text) : Except (FileError × FileTree) FileTree :=
  t.ensure path (Path.above path)

/-- The tree with a directory, as far as that can be made. -/
def withDirectory (t : FileTree) (path : Text) : FileTree := (t.makeDirectory path).toOption.getD t

/-- The tree with a file and the directories around it, as far as they can be made. -/
def withFile (t : FileTree) (path : Text) (content : Bytes) : FileTree :=
  let t := t.withDirectory (Path.parent path)
  (t.write path content).toOption.getD t

/-- The paths of the files under a directory, from there, in order. -/
def filesUnder (t : FileTree) (directory : Text) : List Text :=
  let place := t.placeOf directory
  (t.entries.filterMap fun e =>
    match e with
    | (p, .file _) => if place.isPrefixOf p then some (Text.join "/" (p.drop place.length)) else none
    | (_, .directory) => none).mergeSort Text.notAfter

end FileTree

end MockHost
