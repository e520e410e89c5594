import MirrorGate.Lib.FileTree
import MirrorGate.Recovery.System

/-!
# A State Root on Disk

The statements about what happens to directories need an operating system in
which calls agree with each other. Here the state root is a tree of nodes, a
descriptor below it is a path, and every call reads or changes the tree as
the manual says. A call may still be refused for a reason that is not in the
tree. Everything else, that is the journal's files, the clock, the fault hook
and all cgroups, belongs to the surroundings, about which nothing is assumed
except that they do not change the tree.

Nobody else changes the tree during a call, so that a descriptor and its path
mean the same thing.

## Main definitions

* `Node`, `Tree`: What is below the state root.
* `Surroundings`: What the tree does not decide.
* `Disk`: A tree in its surroundings.
* `Disk.os`: The operating system of a disk.
-/

namespace MirrorGate

/-- An object of the state root: its status and its ownership attribute. -/
structure Node where
  status : Stat
  token : Option (List UInt8)
deriving DecidableEq, Repr

namespace Node

def IsDirectory (node : Node) : Prop := node.status.mode = modeDirectory

instance (node : Node) : Decidable node.IsDirectory := inferInstanceAs (Decidable (_ = _))

end Node

/-- The objects of the state root, by path. -/
abbrev Tree : Type := FileTree String Node

/-- The calls on an object of the state root. -/
inductive FileCall where
  | dup
  | openDir
  | fstat
  | getxattr
  | statAt
  | rename
  | listdir
  | unlink
  | rmdir
  | fchmod
deriving DecidableEq, Repr

/-- What the tree does not decide. `refuses` is the error with which a call on
    a path is refused, if it is, and `outside` answers all calls that are not
    about the state root. -/
structure Surroundings (E F : Type) where
  outside : Os E F
  refuses : FileCall → List String → E → Option OsError × E

/-- A state root with its surroundings. -/
structure Disk (E : Type) where
  tree : Tree
  env : E

/-- A directory of the state root, or a descriptor of something else. -/
abbrev Handle (F : Type) : Type := List String ⊕ F

namespace Disk

variable {E F α : Type}

/-- Let the surroundings answer. -/
def elsewhere (f : E → α × E) (disk : Disk E) : α × Disk E :=
  ((f disk.env).1, { disk with env := (f disk.env).2 })

/-- A call on the tree, unless it is refused. -/
def attempt (world : Surroundings E F) (call : FileCall) (path : List String)
    (f : Tree → Except OsError α × Tree) (disk : Disk E) : Except OsError α × Disk E :=
  match world.refuses call path disk.env with
  | (some e, env) => (.error e, { disk with env := env })
  | (none, env) => ((f disk.tree).1, ⟨(f disk.tree).2, env⟩)

/-- A call that only reads the tree. -/
def inquire (world : Surroundings E F) (call : FileCall) (path : List String)
    (f : Tree → Except OsError α) : Disk E → Except OsError α × Disk E :=
  attempt world call path (fun tree => (f tree, tree))

/-- Open the directory at a path. -/
def openAt (tree : Tree) (path : List String) : Except OsError (Handle F) :=
  match tree.lookup path with
  | none => .error .notFound
  | some node => if node.IsDirectory then .ok (.inl path) else .error (.other "not a directory")

def nodeAt (tree : Tree) (path : List String) : Except OsError Node :=
  match tree.lookup path with
  | none => .error .notFound
  | some node => .ok node

def tokenAt (tree : Tree) (path : List String) : Except OsError (List UInt8) :=
  match (tree.lookup path).bind Node.token with
  | none => .error (.other "no such attribute")
  | some token => .ok token

/-- Move a directory to another name. An empty directory of that name is
    replaced. -/
def renameAt (source target : List String) (tree : Tree) : Except OsError Unit × Tree :=
  match tree.lookup source with
  | none => (.error .notFound, tree)
  | some _ =>
    if source = target then (.ok (), tree)
    else if h : tree.CanMove source target then
      if ∃ node ∈ tree.lookup target, ¬ node.IsDirectory then
        (.error (.other "not a directory"), tree)
      else (.ok (), tree.move source target h)
    else (.error (.other "rename refused"), tree)

/-- Remove a file that is no directory. -/
def unlinkAt (path : List String) (tree : Tree) : Except OsError Unit × Tree :=
  match tree.lookup path with
  | none => (.error .notFound, tree)
  | some node =>
    if node.IsDirectory then (.error (.other "is a directory"), tree)
    else if h : tree.Bare path then (.ok (), tree.erase path h)
    else (.error (.other "not empty"), tree)

/-- Remove an empty directory. -/
def rmdirAt (path : List String) (tree : Tree) : Except OsError Unit × Tree :=
  match tree.lookup path with
  | none => (.error .notFound, tree)
  | some node =>
    if ¬ node.IsDirectory then (.error (.other "not a directory"), tree)
    else if h : tree.Bare path then (.ok (), tree.erase path h)
    else (.error (.other "not empty"), tree)

/-- The operating system of a disk. -/
def os (world : Surroundings E F) : Os (Disk E) (Handle F) where
  sha256 := world.outside.sha256
  scandir := elsewhere world.outside.scandir
  readFile name := elsewhere (world.outside.readFile name)
  publish := elsewhere world.outside.publish
  moveAside name := elsewhere (world.outside.moveAside name)
  rootFd := .inl []
  quarantineFd := .inl ["quarantine"]
  dup
    | .inl path => inquire world .dup path (fun _ => .ok (.inl path))
    | .inr fd => elsewhere (fun env =>
      (((world.outside.dup fd env).1.map Sum.inr), (world.outside.dup fd env).2))
  openDir
    | .inl path, name => inquire world .openDir (path ++ [name])
        (fun tree => openAt tree (path ++ [name]))
    | .inr fd, name => elsewhere (fun env =>
      ((world.outside.openDir fd name env).1.map Sum.inr, (world.outside.openDir fd name env).2))
  fstat
    | .inl path => inquire world .fstat path (fun tree => (nodeAt tree path).map Node.status)
    | .inr fd => elsewhere (world.outside.fstat fd)
  getxattr
    | .inl path => inquire world .getxattr path (fun tree => tokenAt tree path)
    | .inr fd => elsewhere (world.outside.getxattr fd)
  statAt
    | .inl path, name => inquire world .statAt (path ++ [name])
        (fun tree => (nodeAt tree (path ++ [name])).map Node.status)
    | .inr fd, name => elsewhere (world.outside.statAt fd name)
  rename
    | .inl source, leaf, .inl target, name =>
      attempt world .rename (source ++ [leaf]) (renameAt (source ++ [leaf]) (target ++ [name]))
    | .inr source, leaf, .inr target, name => elsewhere (world.outside.rename source leaf target name)
    | _, _, _, _ => fun disk => (.error (.other "cross-device link"), disk)
  listdir
    | .inl path => inquire world .listdir path (fun tree => .ok (tree.children path))
    | .inr fd => elsewhere (world.outside.listdir fd)
  unlink
    | .inl path, name => attempt world .unlink (path ++ [name]) (unlinkAt (path ++ [name]))
    | .inr fd, name => elsewhere (world.outside.unlink fd name)
  rmdir
    | .inl path, name => attempt world .rmdir (path ++ [name]) (rmdirAt (path ++ [name]))
    | .inr fd, name => elsewhere (world.outside.rmdir fd name)
  fchmod
    | .inl path => inquire world .fchmod path (fun _ => .ok ())
    | .inr fd => elsewhere (world.outside.fchmod fd)
  readAt
    | .inl _, _ => fun disk => (.error (.other "not a controller file"), disk)
    | .inr fd, name => elsewhere (world.outside.readAt fd name)
  writeAt
    | .inl _, _, _ => fun disk => (.error (.other "not a controller file"), disk)
    | .inr fd, name, data => elsewhere (world.outside.writeAt fd name data)
  monotonic := elsewhere world.outside.monotonic
  sleep disk := { disk with env := world.outside.sleep disk.env }
  interrupted point := elsewhere (world.outside.interrupted point)
  openDelegation parent := elsewhere (fun env =>
    ((world.outside.openDelegation parent env).1.map Sum.inr,
      (world.outside.openDelegation parent env).2))

end Disk

end MirrorGate
