import Etr.Bootstrap.Request
import Etr.Library.FileTree

/-!
Contract: `open_private_log_file` of `src/config.rs`, on Unix.

Owns the components of a path, the check of a directory with its sticky mode,
the walk that opens or creates each component, the checks of the final file,
and what no other user can do to any entry on the way.

Does not own the paths that are asked for. A system call may fail for reasons of
its own at any time.
-/

namespace Etr.Config

open Etr.Bootstrap Etr.Library

/-! ## Paths -/

/-- The bytes of a file name. -/
abbrev FileName := List UInt8

/-- `Component`, without the prefixes of another platform. -/
inductive PathComponent where
  | rootDir
  | curDir
  | parentDir
  | normal (name : FileName)
deriving DecidableEq, Repr

/-- What is between the separators of a path. -/
def pathParts (current : FileName) : List UInt8 → List FileName
  | [] => [current]
  | byte :: rest =>
      if byte = 0x2f then current :: pathParts [] rest else pathParts (current ++ [byte]) rest

/-- One part; empty ones and single dots are skipped. -/
def PathComponent.ofPart (part : FileName) : Option PathComponent :=
  if part = [] ∨ part = [0x2e] then none
  else if part = [0x2e, 0x2e] then some .parentDir
  else some (.normal part)

/-- `components`; a leading separator or dot is a component. -/
def components (path : List UInt8) : List PathComponent :=
  let parts := pathParts [] path
  let front : List PathComponent :=
    if path.head? = some 0x2f then [.rootDir]
    else if parts.head? = some [0x2e] then [.curDir]
    else []
  front ++ parts.filterMap PathComponent.ofPart

def fileName (path : List UInt8) : Option FileName :=
  match (components path).getLast? with
  | some (.normal name) => some name
  | _ => none

/-- The components of `parent`. -/
def parentComponents (path : List UInt8) : List PathComponent :=
  (components path).dropLast

/-- The names among components. -/
def normalNames (path : List PathComponent) : List FileName :=
  path.filterMap fun component =>
    match component with
    | .normal name => some name
    | _ => none

/-! ## The system -/

inductive Errno where
  | enoent
  | eexist
  | enotdir
  | eloop
  | eisdir
  | other (code : Nat)
deriving DecidableEq, Repr

/-- The system calls, as far as the kernel may have its own reasons to fail one. -/
inductive LogCall where
  | openStart
  | openDirectory (directory : Nat) (name : FileName)
  | makeDirectory (directory : Nat) (name : FileName)
  | reopenDirectory (directory : Nat) (name : FileName)
  | openFile (directory : Nat) (name : FileName)
  | stat (node : Nat)
  | chmod (node : Nat)
  | getFlags (node : Nat)
  | setFlags (node : Nat)
deriving DecidableEq, Repr

abbrev LogTree := FileTree FileName

/-- What the function runs under. -/
structure LogSystem where
  /-- `geteuid`, which also owns what is created. -/
  euid : Nat
  egid : Nat
  umask : FileMode
  /-- The text of `/proc/sys/kernel/overflowuid`, if it can be read. -/
  overflowuid : Option Text
  /-- The nodes of `/` and of the working directory. -/
  root : Nat
  workingDirectory : Nat
  refuse : LogTree → LogCall → Option Errno

/-- Why there is no log file. -/
inductive LogFileError where
  | noFileName
  | traversal
  | notADirectory
  | nonPrivateUnderSticky
  | untrustedDirectory
  | untrustedFile (path : List UInt8)
  | os (errno : Errno)
deriving DecidableEq, Repr

/-- The texts; `display` shows a path, `osText` is the text of an error number. -/
def LogFileError.message (display : List UInt8 → String) (osText : Errno → String) :
    LogFileError → String
  | .noFileName => "log path has no file name"
  | .traversal => "refusing log path containing '..' traversal"
  | .notADirectory => "log path component is not a directory"
  | .nonPrivateUnderSticky =>
      "refusing to traverse non-private directory under sticky temp directory"
  | .untrustedDirectory => "refusing to traverse untrusted or writable directory in log path"
  | .untrustedFile path => "refusing to write to untrusted log file " ++ display path
  | .os errno => osText errno

/-! ### System calls -/

/-- `openat` of a directory, with `O_DIRECTORY` and `O_NOFOLLOW`. -/
def openDirectory (system : LogSystem) (call : LogCall) (tree : LogTree) (directory : Nat)
    (name : FileName) : Except Errno Nat :=
  match system.refuse tree call with
  | some errno => .error errno
  | none =>
      match tree.child? directory name with
      | none => .error .enoent
      | some child =>
          match tree.node? child with
          | some node => if node.kind.IsDirectory then .ok child else .error .enotdir
          | none => .error .enoent

/-- The group of what is created in a directory. -/
def newGroup (system : LogSystem) (parent : FileNode FileName) : Nat :=
  if parent.mode &&& 0o2000 = 0 then system.egid else parent.gid

/-- What `mkdirat` makes; the set-group-id bit is passed on. -/
def newDirectory (system : LogSystem) (parent : FileNode FileName) : FileNode FileName where
  uid := system.euid
  gid := newGroup system parent
  mode := 0o700 &&& ~~~system.umask ||| parent.mode &&& 0o2000
  links := 2
  kind := .directory []

/-- What `openat` makes with `O_CREAT`. -/
def newFile (system : LogSystem) (parent : FileNode FileName) : FileNode FileName where
  uid := system.euid
  gid := newGroup system parent
  mode := 0o600 &&& ~~~system.umask
  links := 1
  kind := .regular

/-- A new node in a directory. -/
def create (tree : LogTree) (directory : Nat) (name : FileName)
    (make : FileNode FileName → FileNode FileName) : Except Errno LogTree :=
  match tree.node? directory with
  | some parent =>
      if parent.kind.IsDirectory then
        .ok (tree.insert directory name (make parent))
      else
        .error .enotdir
  | none => .error .enoent

/-- `mkdirat` with `0700`. -/
def makeDirectory (system : LogSystem) (tree : LogTree) (directory : Nat) (name : FileName) :
    Except Errno LogTree :=
  match system.refuse tree (.makeDirectory directory name) with
  | some errno => .error errno
  | none =>
      match tree.child? directory name with
      | some _ => .error .eexist
      | none => create tree directory name (newDirectory system)

/-- `openat` of the file to write and append, with `O_CREAT` and `O_NOFOLLOW`. -/
def openFile (system : LogSystem) (tree : LogTree) (directory : Nat) (name : FileName) :
    Except Errno (LogTree × Nat) :=
  match system.refuse tree (.openFile directory name) with
  | some errno => .error errno
  | none =>
      match tree.child? directory name with
      | none =>
          (create tree directory name (newFile system)).map fun made => (made, tree.nodes.length)
      | some child =>
          match (tree.node? child).map FileNode.kind with
          | some (.directory _) => .error .eisdir
          | some .symlink => .error .eloop
          | some _ => .ok (tree, child)
          | none => .error .enoent

/-- `set_permissions`, with its result ignored. -/
def setPermissions (system : LogSystem) (tree : LogTree) (node : Nat) (mode : FileMode) : LogTree :=
  match system.refuse tree (.chmod node) with
  | some _ => tree
  | none => tree.chmod node mode

/-! ## Directories -/

/-- `parse::<u32>`: decimal digits behind an optional plus sign. -/
def parseU32 (text : Text) : Option Nat :=
  let digits := if text.head? = some '+' then text.tail else text
  if digits.isEmpty then none
  else if digits.all Char.isDigit then
    let value := digits.foldl (fun value digit => value * 10 + (digit.toNat - '0'.toNat)) 0
    if value < 2 ^ 32 then some value else none
  else none

def isRootOrUsernsOverflowUid (system : LogSystem) (uid : Nat) : Bool :=
  if uid = 0 then
    true
  else
    (system.overflowuid.bind fun text => parseU32 (trim text)).any fun overflow => uid == overflow

/-- `verify_trusted_log_dir`; the mode it leaves behind is its result. -/
def verifyTrustedLogDir (system : LogSystem) (tree : LogTree) (directory : Nat)
    (underStickyDir : Bool) : Except LogFileError Bool :=
  match system.refuse tree (.stat directory), tree.node? directory with
  | some errno, _ => .error (.os errno)
  | none, none => .error (.os .enoent)
  | none, some node =>
      if ¬node.kind.IsDirectory then
        .error .notADirectory
      else if underStickyDir then
        if node.uid ≠ system.euid ∨ node.mode &&& 0o077 ≠ 0 then
          .error .nonPrivateUnderSticky
        else
          .ok true
      else if node.mode &&& 0o022 = 0 ∧
          (node.uid = system.euid ∨ isRootOrUsernsOverflowUid system node.uid) then
        .ok false
      else if node.mode &&& 0o1000 ≠ 0 ∧ isRootOrUsernsOverflowUid system node.uid then
        .ok true
      else
        .error .untrustedDirectory

/-- One component: open it, or create it and open it then. -/
def enterDirectory (system : LogSystem) (tree : LogTree) (directory : Nat) (name : FileName) :
    LogTree × Except LogFileError Nat :=
  match openDirectory system (.openDirectory directory name) tree directory name with
  | .ok next => (tree, .ok next)
  | .error .enoent =>
      match makeDirectory system tree directory name with
      | .ok made =>
          match openDirectory system (.reopenDirectory directory name) made directory name with
          | .ok next => (setPermissions system made next 0o700, .ok next)
          | .error errno => (made, .error (.os errno))
      | .error .eexist =>
          match openDirectory system (.reopenDirectory directory name) tree directory name with
          | .ok next => (tree, .ok next)
          | .error errno => (tree, .error (.os errno))
      | .error errno => (tree, .error (.os errno))
  | .error errno => (tree, .error (.os errno))

/-- The loop over the components of the parent. -/
def walkDirectories (system : LogSystem) (tree : LogTree) (directory : Nat)
    (underStickyDir : Bool) : List FileName → LogTree × Except LogFileError Nat
  | [] => (tree, .ok directory)
  | name :: rest =>
      match enterDirectory system tree directory name with
      | (entered, .error error) => (entered, .error error)
      | (entered, .ok next) =>
          match verifyTrustedLogDir system entered next underStickyDir with
          | .error error => (entered, .error error)
          | .ok under => walkDirectories system entered next under rest

/-! ## The file -/

/-- The file that is opened, and whether it is left in nonblocking mode. -/
structure LogFile where
  node : Nat
  nonblocking : Bool
deriving DecidableEq, Repr

/-- The two calls of `fcntl`. -/
def clearNonblock (system : LogSystem) (tree : LogTree) (node : Nat) : LogFile where
  node := node
  nonblocking :=
    (system.refuse tree (.getFlags node)).isSome || (system.refuse tree (.setFlags node)).isSome

/-- The checks of the opened file. -/
def acceptFile (system : LogSystem) (path : List UInt8) (tree : LogTree) (file : Nat) :
    LogTree × Except LogFileError LogFile :=
  match system.refuse tree (.stat file), tree.node? file with
  | some errno, _ => (tree, .error (.os errno))
  | none, none => (tree, .error (.os .enoent))
  | none, some node =>
      if node.kind ≠ .regular ∨ node.uid ≠ system.euid ∨ node.links ≠ 1 then
        (tree, .error (.untrustedFile path))
      else
        let changed := setPermissions system tree file 0o600
        (changed, .ok (clearNonblock system changed file))

/-- `/` for an absolute path, the working directory for any other. -/
def startNode (system : LogSystem) (path : List UInt8) : Nat :=
  if (components path).head? = some .rootDir then system.root else system.workingDirectory

/-- `open` of the start directory, and its check. -/
def openStart (system : LogSystem) (tree : LogTree) (start : Nat) : Except LogFileError Bool :=
  match system.refuse tree .openStart, tree.node? start with
  | some errno, _ => .error (.os errno)
  | none, none => .error (.os .enoent)
  | none, some node =>
      if node.kind.IsDirectory then
        verifyTrustedLogDir system tree start false
      else
        .error (.os .enotdir)

def openPrivateLogFile (system : LogSystem) (tree : LogTree) (path : List UInt8) :
    LogTree × Except LogFileError LogFile :=
  match fileName path with
  | none => (tree, .error .noFileName)
  | some name =>
      if .parentDir ∈ components path then
        (tree, .error .traversal)
      else
        match openStart system tree (startNode system path) with
        | .error error => (tree, .error error)
        | .ok under =>
            match walkDirectories system tree (startNode system path) under
                (normalNames (parentComponents path)) with
            | (walked, .error error) => (walked, .error error)
            | (walked, .ok directory) =>
                match openFile system walked directory name with
                | .error errno => (walked, .error (.os errno))
                | .ok (opened, file) => acceptFile system path opened file

/-! ## What is protected -/

/-- The users that are trusted with the log: the effective user, root, and the
overflow user of a user namespace. -/
def Trusted (system : LogSystem) (uid : Nat) : Prop :=
  uid = system.euid ∨ isRootOrUsernsOverflowUid system uid = true

/-- An entry of a directory that is no symbolic link, and that nobody else may
rename, unlink or replace. -/
def ProtectedEntry (system : LogSystem) (tree : LogTree) (directory child : Nat) : Prop :=
  ∃ parent node, tree.node? directory = some parent ∧ tree.node? child = some node ∧
    parent.kind.IsDirectory ∧ node.kind ≠ .symlink ∧
    ∀ subject, parent.MayReplace node subject → Trusted system subject.uid

/-- What is promised of an opened file: the path has no `..`, every entry from
the start directory to the file is protected, and the file is a regular one of
the effective user with a single link. -/
structure OpenedPrivately (system : LogSystem) (path : List UInt8) (tree : LogTree)
    (file : LogFile) : Prop where
  noTraversal : .parentDir ∉ components path
  protectedEntries : tree.Descends (ProtectedEntry system tree) (startNode system path)
    (normalNames (components path)) file.node
  ownFile : ∃ node, tree.node? file.node = some node ∧ node.kind = .regular ∧
    node.uid = system.euid ∧ node.links = 1

/-- What the check leaves of a directory: nobody else writes into it, or it is a
sticky one of a trusted user, and the sticky mode is on. -/
def Guarded (system : LogSystem) (node : FileNode FileName) (underStickyDir : Bool) : Prop :=
  Trusted system node.uid ∧
    (node.mode &&& 0o022 = 0 ∨ underStickyDir = true ∧ node.Sticky)

section Walk

variable {system : LogSystem} {tree next final : LogTree} {directory child : Nat}
  {name : FileName} {under after : Bool} {parent node : FileNode FileName}

/-! ### The check of a directory -/

theorem verifyTrustedLogDir_eq_ok
    (verified : verifyTrustedLogDir system tree directory under = .ok after) :
    ∃ node, tree.node? directory = some node ∧ node.kind.IsDirectory ∧
      Guarded system node after ∧ (under = true → after = true ∧ node.uid = system.euid) := by
  unfold verifyTrustedLogDir at verified
  split at verified
  · cases verified
  · cases verified
  · rename_i node called found
    refine ⟨node, found, ?_⟩
    split at verified
    · cases verified
    · rename_i isDirectory
      refine ⟨not_not.mp isDirectory, ?_⟩
      split at verified
      · rename_i sticky
        split at verified
        · cases verified
        · rename_i isPrivate
          obtain rfl := Except.ok.inj verified
          have own : node.uid = system.euid := by
            by_contra other
            exact isPrivate (Or.inl other)
          have closed : node.mode &&& 0o077 = 0 := by
            by_contra exposed
            exact isPrivate (Or.inr exposed)
          have closedToOthers : node.mode &&& 0o022 = 0 :=
            FileNode.mask_eq_zero (by decide) closed
          exact ⟨⟨Or.inl own, Or.inl closedToOthers⟩, fun _ => ⟨rfl, own⟩⟩
      · rename_i notUnder
        split at verified
        · rename_i closed
          obtain rfl := Except.ok.inj verified
          exact ⟨⟨closed.2, Or.inl closed.1⟩, fun isUnder => absurd isUnder notUnder⟩
        · split at verified
          · rename_i sticky
            obtain rfl := Except.ok.inj verified
            exact ⟨⟨Or.inr sticky.2, Or.inr ⟨rfl, sticky.1⟩⟩,
              fun isUnder => absurd isUnder notUnder⟩
          · cases verified

theorem trusted_zero : Trusted system 0 := Or.inr rfl

/-- Behind a guarded directory an entry is up to trusted users, if under a
sticky directory it is one of the effective user. -/
theorem trusted_of_mayReplace (guarded : Guarded system parent under)
    (own : under = true → node.uid = system.euid) {subject : Subject}
    (may : parent.MayReplace node subject) : Trusted system subject.uid := by
  obtain ⟨trusted, closed | ⟨isUnder, sticky⟩⟩ := guarded
  · rcases FileNode.uid_of_mayReplace_closed closed may with superuser | owner
    · exact superuser ▸ trusted_zero
    · exact owner ▸ trusted
  · rcases FileNode.uid_of_mayReplace_sticky sticky may with superuser | entry | owner
    · exact superuser ▸ trusted_zero
    · exact Or.inl (entry.trans (own isUnder))
    · exact owner ▸ trusted

/-- Growth leaves an entry protected. -/
theorem ProtectedEntry.grows (isProtected : ProtectedEntry system tree directory child)
    (grows : tree.Grows next) : ProtectedEntry system next directory child := by
  obtain ⟨parent, node, foundParent, found, isDirectory, noLink, trusted⟩ := isProtected
  obtain ⟨grownParent, foundGrownParent, parentGrows⟩ := grows directory parent foundParent
  obtain ⟨grown, foundGrown, nodeGrows⟩ := grows child node found
  refine ⟨grownParent, grown, foundGrownParent, foundGrown,
    (FileNode.isDirectory_of_grows parentGrows.kind).mpr isDirectory, ?_, ?_⟩
  · intro link
    have kind := nodeGrows.kind
    rw [link] at kind
    cases shape : node.kind with
    | symlink => exact noLink shape
    | _ =>
        rw [shape] at kind
        cases kind
  · intro subject may
    exact trusted subject (FileNode.mayReplace_of_grows parentGrows nodeGrows isDirectory may)

theorem Guarded.grows {grown : FileNode FileName} (guarded : Guarded system node under)
    (grows : node.Grows grown) (isDirectory : node.kind.IsDirectory) :
    Guarded system grown under := by
  unfold Guarded FileNode.Sticky
  rw [grows.uid, grows.mode isDirectory]
  exact guarded

/-! ### The system calls -/

theorem openDirectory_eq_ok {call : LogCall}
    (opened : openDirectory system call tree directory name = .ok child) :
    tree.child? directory name = some child ∧
      ∃ node, tree.node? child = some node ∧ node.kind.IsDirectory := by
  unfold openDirectory at opened
  split at opened
  · cases opened
  · split at opened
    · cases opened
    · rename_i found entry
      split at opened
      · rename_i node isNode
        split at opened
        · rename_i isDirectory
          obtain rfl := Except.ok.inj opened
          exact ⟨entry, node, isNode, isDirectory⟩
        · cases opened
      · cases opened

theorem create_eq_ok {make : FileNode FileName → FileNode FileName}
    (created : create tree directory name make = .ok next) :
    ∃ parent, tree.node? directory = some parent ∧ parent.kind.IsDirectory ∧
      next = tree.insert directory name (make parent) := by
  unfold create at created
  split at created
  · rename_i parent found
    split at created
    · rename_i isDirectory
      exact ⟨parent, found, isDirectory, (Except.ok.inj created).symm⟩
    · cases created
  · cases created

/-- A directory that is made is a new node. -/
theorem makeDirectory_eq_ok (made : makeDirectory system tree directory name = .ok next) :
    tree.Grows next ∧ next.child? directory name = some tree.nodes.length := by
  unfold makeDirectory at made
  split at made
  · cases made
  · split at made
    · cases made
    · rename_i missing
      obtain ⟨parent, found, isDirectory, rfl⟩ := create_eq_ok made
      exact ⟨tree.grows_insert directory name _,
        FileTree.child?_insert found isDirectory missing⟩

theorem child?_setPermissions (mode : FileMode) :
    (setPermissions system tree child mode).child? directory name =
      tree.child? directory name := by
  unfold setPermissions
  split
  · rfl
  · exact tree.child?_chmod child mode

/-- No mask and no set-group-id bit gives rights to others. -/
theorem newDirectory_mode (system : LogSystem) (parent : FileNode FileName) :
    (newDirectory system parent).mode &&& 0o077 = 0 := by
  have owner : (0o700 : FileMode) &&& ~~~system.umask &&& 0o077 = 0 := by
    rw [BitVec.and_comm 0o700, BitVec.and_assoc]
    exact BitVec.and_zero
  have group : parent.mode &&& 0o2000 &&& 0o077 = 0 := by
    rw [BitVec.and_assoc]
    exact BitVec.and_zero
  rw [newDirectory, BitVec.and_or_distrib_right, owner, group]
  rfl

theorem verifyTrustedLogDir_private (answered : system.refuse tree (.stat directory) = none)
    (found : tree.node? directory = some node) (isDirectory : node.kind.IsDirectory)
    (own : node.uid = system.euid) (closed : node.mode &&& 0o077 = 0) :
    verifyTrustedLogDir system tree directory under = .ok under := by
  have closedToOthers : node.mode &&& 0o022 = 0 := FileNode.mask_eq_zero (by decide) closed
  simp only [verifyTrustedLogDir, answered, found]
  rw [if_neg (not_not.mpr isDirectory)]
  cases under with
  | true =>
      have isPrivate : ¬(node.uid ≠ system.euid ∨ node.mode &&& 0o077 ≠ 0) := by
        rintro (other | exposed)
        · exact other own
        · exact exposed closed
      rw [if_pos rfl, if_neg isPrivate]
  | false => rw [if_neg Bool.false_ne_true, if_pos ⟨closedToOthers, Or.inl own⟩]

/-- **A directory that the walk makes passes its own check**, in either mode and
whether or not its mode could be set. -/
theorem verifyTrustedLogDir_made (made : makeDirectory system tree directory name = .ok next)
    (final_eq : final = setPermissions system next tree.nodes.length 0o700)
    (answered : system.refuse final (.stat tree.nodes.length) = none) :
    verifyTrustedLogDir system final tree.nodes.length under = .ok under := by
  obtain ⟨parent, isNew⟩ : ∃ parent, next.node? tree.nodes.length =
      some (newDirectory system parent) := by
    unfold makeDirectory at made
    split at made
    · cases made
    · split at made
      · cases made
      · obtain ⟨parent, -, -, rfl⟩ := create_eq_ok made
        exact ⟨parent, tree.node?_insert_new directory name _⟩
  unfold setPermissions at final_eq
  split at final_eq
  · rw [final_eq] at answered ⊢
    exact verifyTrustedLogDir_private answered isNew ⟨[], rfl⟩ rfl (newDirectory_mode system parent)
  · rw [final_eq] at answered ⊢
    have changed : (next.chmod tree.nodes.length 0o700).node? tree.nodes.length =
        some { newDirectory system parent with mode := 0o700 } := by
      rw [FileTree.chmod, FileTree.node?_modify, isNew, Option.map_some, if_pos rfl]
    have closed : (0o700 : FileMode) &&& 0o077 = 0 := by decide
    exact verifyTrustedLogDir_private answered changed ⟨[], rfl⟩ rfl closed

/-- Only a directory that was made is given a mode. -/
theorem grows_makeDirectory_chmod (made : makeDirectory system tree directory name = .ok next)
    {call : LogCall} (opened : openDirectory system call next directory name = .ok child) :
    tree.Grows (setPermissions system next child 0o700) := by
  obtain ⟨grows, isNew⟩ := makeDirectory_eq_ok made
  have entry := (openDirectory_eq_ok opened).1
  rw [isNew] at entry
  obtain rfl := Option.some.inj entry
  unfold setPermissions
  split
  · exact grows
  · exact grows.chmod_new (List.getElem?_eq_none (Nat.le_refl _)) 0o700

theorem grows_enterDirectory (system : LogSystem) (tree : LogTree) (directory : Nat)
    (name : FileName) : tree.Grows (enterDirectory system tree directory name).1 := by
  unfold enterDirectory
  split
  · exact .refl tree
  · split
    · rename_i made isMade
      split
      · rename_i opened
        exact grows_makeDirectory_chmod isMade opened
      · exact (makeDirectory_eq_ok isMade).1
    · split
      · exact .refl tree
      · exact .refl tree
    · exact .refl tree
  · exact .refl tree

/-- A directory that is entered is an entry of the tree that is left. -/
theorem enterDirectory_eq_ok
    (entered : enterDirectory system tree directory name = (next, .ok child)) :
    tree.Grows next ∧ next.child? directory name = some child := by
  have grows := grows_enterDirectory system tree directory name
  rw [entered] at grows
  refine ⟨grows, ?_⟩
  unfold enterDirectory at entered
  split at entered
  · rename_i opened
    cases entered
    exact (openDirectory_eq_ok opened).1
  · split at entered
    · split at entered
      · rename_i opened
        cases entered
        exact (child?_setPermissions 0o700).trans (openDirectory_eq_ok opened).1
      · cases entered
    · split at entered
      · rename_i opened
        cases entered
        exact (openDirectory_eq_ok opened).1
      · cases entered
    · cases entered
  · cases entered

/-- So is the file that is opened. -/
theorem openFile_eq_ok (opened : openFile system tree directory name = .ok (next, child)) :
    tree.Grows next ∧ next.child? directory name = some child := by
  unfold openFile at opened
  split at opened
  · cases opened
  · split at opened
    · rename_i missing
      cases created : create tree directory name (newFile system) with
      | error errno =>
          rw [created] at opened
          cases opened
      | ok made =>
          rw [created] at opened
          cases opened
          obtain ⟨parent, found, isDirectory, rfl⟩ := create_eq_ok created
          exact ⟨tree.grows_insert directory name _,
            FileTree.child?_insert found isDirectory missing⟩
    · rename_i entry
      split at opened
      · cases opened
      · cases opened
      · cases opened
        exact ⟨.refl tree, entry⟩
      · cases opened

/-! ### The walk -/

/-- An entry behind a guarded directory is protected. -/
theorem protectedEntry_of_guarded (foundParent : tree.node? directory = some parent)
    (isDirectory : parent.kind.IsDirectory) (guarded : Guarded system parent under)
    (found : tree.node? child = some node) (noLink : node.kind ≠ .symlink)
    (own : under = true → node.uid = system.euid) : ProtectedEntry system tree directory child :=
  ⟨parent, node, foundParent, found, isDirectory, noLink,
    fun _ may => trusted_of_mayReplace guarded own may⟩

/-- What the walk has reached: a guarded directory along protected entries. -/
structure Reached (system : LogSystem) (tree : LogTree) (start : Nat) (names : List FileName)
    (directory : Nat) (under : Bool) (parent : FileNode FileName) : Prop where
  found : tree.node? directory = some parent
  isDirectory : parent.kind.IsDirectory
  guarded : Guarded system parent under
  path : tree.Descends (ProtectedEntry system tree) start names directory

/-- One more component. -/
theorem Reached.enter {start : Nat} {names : List FileName}
    (reached : Reached system tree start names directory under parent)
    (entered : enterDirectory system tree directory name = (next, .ok child))
    (verified : verifyTrustedLogDir system next child under = .ok after) :
    ∃ node, Reached system next start (names ++ [name]) child after node := by
  obtain ⟨grows, entry⟩ := enterDirectory_eq_ok entered
  obtain ⟨node, found, isDirectory, guarded, own⟩ := verifyTrustedLogDir_eq_ok verified
  obtain ⟨grown, foundGrown, parentGrows⟩ := grows directory parent reached.found
  have noLink : node.kind ≠ .symlink := by
    intro link
    rw [link] at isDirectory
    obtain ⟨entries, impossible⟩ := isDirectory
    cases impossible
  have isProtected : ProtectedEntry system next directory child :=
    protectedEntry_of_guarded foundGrown
      ((FileNode.isDirectory_of_grows parentGrows.kind).mpr reached.isDirectory)
      (reached.guarded.grows parentGrows reached.isDirectory) found noLink
      (fun isUnder => (own isUnder).2)
  have front := reached.path.grows grows fun _ _ entryProtected => entryProtected.grows grows
  exact ⟨node, found, isDirectory, guarded, front.concat entry isProtected⟩

/-- However many components there are. -/
theorem Reached.walk {start last : Nat} {names rest : List FileName}
    (reached : Reached system tree start names directory under parent)
    (walked : walkDirectories system tree directory under rest = (final, .ok last)) :
    ∃ under parent, Reached system final start (names ++ rest) last under parent := by
  induction rest generalizing tree directory under parent names with
  | nil =>
      cases walked
      rw [List.append_nil]
      exact ⟨under, parent, reached⟩
  | cons name rest inductionHypothesis =>
      rw [walkDirectories] at walked
      split at walked
      · cases walked
      · rename_i entered
        split at walked
        · cases walked
        · rename_i verified
          obtain ⟨node, further⟩ := reached.enter entered verified
          have others := inductionHypothesis further walked
          rw [List.append_assoc] at others
          exact others

/-- The start directory is the first one that is guarded. -/
theorem reached_start {start : Nat} (opened : openStart system tree start = .ok under) :
    ∃ parent, Reached system tree start [] start under parent := by
  unfold openStart at opened
  split at opened
  · cases opened
  · cases opened
  · split at opened
    · obtain ⟨node, found, isDirectory, guarded, -⟩ := verifyTrustedLogDir_eq_ok opened
      exact ⟨node, found, isDirectory, guarded, rfl⟩
    · cases opened

/-! ### The file -/

theorem acceptFile_eq_ok {path : List UInt8} {file : LogFile}
    (accepted : acceptFile system path tree child = (next, .ok file)) :
    file.node = child ∧ next = setPermissions system tree child 0o600 ∧
      ∃ node, tree.node? child = some node ∧ node.kind = .regular ∧
        node.uid = system.euid ∧ node.links = 1 := by
  unfold acceptFile at accepted
  split at accepted
  · cases accepted
  · cases accepted
  · rename_i node called found
    split at accepted
    · cases accepted
    · rename_i checked
      simp only [not_or, not_not] at checked
      cases accepted
      exact ⟨rfl, rfl, node, found, checked⟩

theorem not_isDirectory_regular : ¬(FileKind.regular : FileKind FileName).IsDirectory := by
  decide

/-- The mode of a file that is set leaves the tree as it is. -/
theorem grows_setPermissions (found : tree.node? child = some node) (file : node.kind = .regular)
    (mode : FileMode) : tree.Grows (setPermissions system tree child mode) := by
  unfold setPermissions
  split
  · exact .refl tree
  · exact FileTree.grows_chmod_file found (file ▸ not_isDirectory_regular) mode

/-- A path that names a file ends in its name. -/
theorem normalNames_of_fileName {path : List UInt8} (named : fileName path = some name) :
    normalNames (components path) = normalNames (parentComponents path) ++ [name] := by
  unfold fileName at named
  split at named
  · rename_i last isLast
    obtain rfl := Option.some.inj named
    have whole : components path = parentComponents path ++ [.normal last] :=
      (List.dropLast_append_getLast? _ isLast).symm
    rw [whole, normalNames, List.filterMap_append]
    rfl
  · cases named

/-- The stages of a call that succeeds. -/
theorem openPrivateLogFile_eq_ok {path : List UInt8} {file : LogFile}
    (opened : openPrivateLogFile system tree path = (final, .ok file)) :
    ∃ name under walked directory created child,
      fileName path = some name ∧ .parentDir ∉ components path ∧
      openStart system tree (startNode system path) = .ok under ∧
      walkDirectories system tree (startNode system path) under
        (normalNames (parentComponents path)) = (walked, .ok directory) ∧
      openFile system walked directory name = .ok (created, child) ∧
      acceptFile system path created child = (final, .ok file) := by
  unfold openPrivateLogFile at opened
  split at opened
  · cases opened
  · rename_i name named
    split at opened
    · cases opened
    · rename_i noTraversal
      split at opened
      · cases opened
      · rename_i under started
        split at opened
        · cases opened
        · rename_i walked directory isWalked
          split at opened
          · cases opened
          · rename_i created child isFile
            exact ⟨name, under, walked, directory, created, child, named, noTraversal, started,
              isWalked, isFile, opened⟩

/-- The file is one more protected entry, and the mode it is given changes
nothing about that. -/
theorem Reached.file {start : Nat} {names : List FileName} {path : List UInt8} {file : LogFile}
    (reached : Reached system tree start names directory under parent)
    (opened : openFile system tree directory name = .ok (next, child))
    (accepted : acceptFile system path next child = (final, .ok file)) :
    final.Descends (ProtectedEntry system final) start (names ++ [name]) file.node ∧
      ∃ node, final.node? file.node = some node ∧ node.kind = .regular ∧
        node.uid = system.euid ∧ node.links = 1 := by
  obtain ⟨grows, entry⟩ := openFile_eq_ok opened
  obtain ⟨rfl, rfl, node, found, regular, own, single⟩ := acceptFile_eq_ok accepted
  obtain ⟨grownParent, foundParent, parentGrows⟩ := grows directory parent reached.found
  have noLink : node.kind ≠ .symlink := by
    rw [regular]
    decide
  have isProtected : ProtectedEntry system next directory file.node :=
    protectedEntry_of_guarded foundParent
      ((FileNode.isDirectory_of_grows parentGrows.kind).mpr reached.isDirectory)
      (reached.guarded.grows parentGrows reached.isDirectory) found noLink fun _ => own
  have front := reached.path.grows grows fun _ _ entryProtected => entryProtected.grows grows
  have kept : next.Grows (setPermissions system next file.node 0o600) :=
    grows_setPermissions found regular 0o600
  refine ⟨(front.concat entry isProtected).grows kept
    fun _ _ entryProtected => entryProtected.grows kept, ?_⟩
  obtain ⟨grown, foundGrown, nodeGrows⟩ := kept file.node node found
  refine ⟨grown, foundGrown, ?_, nodeGrows.uid.trans own, nodeGrows.links.trans single⟩
  have kind := nodeGrows.kind
  rw [regular] at kind
  generalize grown.kind = shape at kind
  cases kind
  rfl

theorem grows_walkDirectories (names : List FileName) :
    tree.Grows (walkDirectories system tree directory under names).1 := by
  induction names generalizing tree directory under with
  | nil => exact .refl tree
  | cons name rest inductionHypothesis =>
      have grows := grows_enterDirectory system tree directory name
      rw [walkDirectories]
      split
      · rename_i entered
        rw [entered] at grows
        exact grows
      · rename_i entered
        rw [entered] at grows
        split
        · exact grows
        · exact grows.trans inductionHypothesis

theorem grows_acceptFile (path : List UInt8) :
    tree.Grows (acceptFile system path tree child).1 := by
  unfold acceptFile
  split
  · exact .refl tree
  · exact .refl tree
  · rename_i node called found
    split
    · exact .refl tree
    · rename_i checked
      simp only [not_or, not_not] at checked
      exact grows_setPermissions found checked.1 0o600

/-- **Whatever comes of a call, it only adds to the tree:** no directory that was
there gets another owner or mode, or loses an entry. -/
theorem grows_openPrivateLogFile (system : LogSystem) (tree : LogTree) (path : List UInt8) :
    tree.Grows (openPrivateLogFile system tree path).1 := by
  unfold openPrivateLogFile
  split
  · exact .refl tree
  · rename_i name named
    split
    · exact .refl tree
    · split
      · exact .refl tree
      · rename_i under started
        have grows : tree.Grows (walkDirectories system tree (startNode system path) under
            (normalNames (parentComponents path))).1 := grows_walkDirectories _
        split
        · rename_i walked
          rw [walked] at grows
          exact grows
        · rename_i walked
          rw [walked] at grows
          split
          · exact grows
          · rename_i opened
            exact (grows.trans (openFile_eq_ok opened).1).trans (grows_acceptFile path)

/-- **A log file is only opened through entries that no other user can take
away.** -/
theorem openPrivateLogFile_protected {path : List UInt8} {file : LogFile}
    (opened : openPrivateLogFile system tree path = (final, .ok file)) :
    OpenedPrivately system path final file := by
  obtain ⟨name, under, walked, directory, created, child, named, noTraversal, started, isWalked,
    isFile, accepted⟩ := openPrivateLogFile_eq_ok opened
  obtain ⟨start, fromStart⟩ := reached_start started
  obtain ⟨after, parent, reached⟩ := fromStart.walk isWalked
  have last := reached.file isFile accepted
  rw [List.nil_append, ← normalNames_of_fileName named] at last
  exact ⟨noTraversal, last.1, last.2⟩

end Walk

/-- User 1000, in a user namespace. -/
def namespaceUser : LogSystem where
  euid := 1000
  egid := 1000
  umask := 0o022
  overflowuid := some ['6', '5', '5', '3', '4', '\n']
  root := 0
  workingDirectory := 1
  refuse := fun _ _ => none

/-- `/` with an empty `/tmp`, whose owner is shown as the overflow user. -/
def emptyTmp : LogTree :=
  ⟨[⟨0, 0, 0o755, 2, .directory [([0x74, 0x6d, 0x70], 1)]⟩,
    ⟨65534, 65534, 0o1777, 2, .directory []⟩]⟩

/-- There `/tmp/etr/log` is opened, with its directory made on the way. -/
theorem temporaryLog_protected :
    ∃ final,
      openPrivateLogFile namespaceUser emptyTmp
          [0x2f, 0x74, 0x6d, 0x70, 0x2f, 0x65, 0x74, 0x72, 0x2f, 0x6c, 0x6f, 0x67] =
        (final, .ok ⟨3, false⟩) ∧
      OpenedPrivately namespaceUser
        [0x2f, 0x74, 0x6d, 0x70, 0x2f, 0x65, 0x74, 0x72, 0x2f, 0x6c, 0x6f, 0x67] final
        ⟨3, false⟩ := by
  obtain ⟨final, opened⟩ : ∃ final, openPrivateLogFile namespaceUser emptyTmp
      [0x2f, 0x74, 0x6d, 0x70, 0x2f, 0x65, 0x74, 0x72, 0x2f, 0x6c, 0x6f, 0x67] =
    (final, .ok ⟨3, false⟩) := ⟨_, rfl⟩
  exact ⟨final, opened, openPrivateLogFile_protected opened⟩

end Etr.Config
