import Mathlib.Data.List.Basic

/-!
Contract: file trees with owners and mode bits.

Owns the nodes of a tree by their numbers, the entries of its directories, the
steps that add a node or change a mode, the growth of a tree under them, the
rules by which a user may take an entry away, and the entries that a path goes
through.

Does not own who walks a tree, or which users are trusted.
-/

namespace Etr.Library

universe u

variable {Name : Type u}

/-! ## Trees -/

/-- Permission bits behind the set-id bits and the sticky bit. -/
abbrev FileMode := BitVec 12

/-- What a node is, with the entries of a directory. -/
inductive FileKind (Name : Type u) where
  | directory (entries : List (Name × Nat))
  | regular
  | symlink
  | special
deriving DecidableEq, Repr

/-- A node, with the number of entries that lead to a file. -/
structure FileNode (Name : Type u) where
  uid : Nat
  gid : Nat
  mode : FileMode
  links : Nat
  kind : FileKind Name
deriving DecidableEq, Repr

/-- The nodes, by their numbers. -/
structure FileTree (Name : Type u) where
  nodes : List (FileNode Name)
deriving DecidableEq, Repr

namespace FileKind

def IsDirectory (kind : FileKind Name) : Prop :=
  ∃ entries, kind = .directory entries

def entries? : FileKind Name → Option (List (Name × Nat))
  | .directory entries => some entries
  | _ => none

theorem isSome_entries? {kind : FileKind Name} :
    kind.entries?.isSome = true ↔ kind.IsDirectory := by
  cases kind with
  | directory entries => exact iff_of_true rfl ⟨entries, rfl⟩
  | _ => simp [entries?, IsDirectory]

instance (kind : FileKind Name) : Decidable kind.IsDirectory :=
  decidable_of_iff (kind.entries?.isSome = true) isSome_entries?

/-- A directory keeps its entries and may have more; anything else stays. -/
inductive Grows : FileKind Name → FileKind Name → Prop where
  | same (kind : FileKind Name) : Grows kind kind
  | directory (entries added : List (Name × Nat)) :
      Grows (.directory entries) (.directory (entries ++ added))

theorem Grows.trans {first second third : FileKind Name} (left : Grows first second)
    (right : Grows second third) : Grows first third := by
  cases left with
  | same => exact right
  | directory entries added =>
      cases right with
      | same => exact .directory entries added
      | directory _ more =>
          rw [List.append_assoc]
          exact .directory entries (added ++ more)

end FileKind

namespace FileNode

/-- One more entry, in a directory. -/
def withEntry (node : FileNode Name) (name : Name) (child : Nat) : FileNode Name :=
  match node.kind with
  | .directory entries => { node with kind := .directory (entries ++ [(name, child)]) }
  | _ => node

/-- What a tree leaves of a node: its owner, its group and its links, the mode
of a directory, and the entries. -/
structure Grows (node later : FileNode Name) : Prop where
  uid : later.uid = node.uid
  gid : later.gid = node.gid
  links : later.links = node.links
  mode : node.kind.IsDirectory → later.mode = node.mode
  kind : node.kind.Grows later.kind

theorem Grows.refl (node : FileNode Name) : node.Grows node where
  uid := rfl
  gid := rfl
  links := rfl
  mode := fun _ => rfl
  kind := .same node.kind

theorem isDirectory_of_grows {kind later : FileKind Name} (grows : kind.Grows later) :
    later.IsDirectory ↔ kind.IsDirectory := by
  cases grows with
  | same => exact Iff.rfl
  | directory entries added => exact iff_of_true ⟨_, rfl⟩ ⟨_, rfl⟩

theorem Grows.trans {first second third : FileNode Name} (left : first.Grows second)
    (right : second.Grows third) : first.Grows third where
  uid := right.uid.trans left.uid
  gid := right.gid.trans left.gid
  links := right.links.trans left.links
  mode := by
    intro directory
    have middle := (isDirectory_of_grows left.kind).mpr directory
    exact (right.mode middle).trans (left.mode directory)
  kind := left.kind.trans right.kind

theorem grows_withEntry (node : FileNode Name) (name : Name) (child : Nat) :
    node.Grows (node.withEntry name child) := by
  unfold withEntry
  split
  · rename_i entries directory
    refine ⟨rfl, rfl, rfl, fun _ => rfl, ?_⟩
    rw [directory]
    exact .directory entries [(name, child)]
  · exact .refl node

end FileNode

namespace FileTree

variable {tree next final : FileTree Name} {number : Nat} {node : FileNode Name}

def node? (tree : FileTree Name) (number : Nat) : Option (FileNode Name) :=
  tree.nodes[number]?

/-- The node that an entry of a directory leads to. -/
def child? [DecidableEq Name] (tree : FileTree Name) (directory : Nat) (name : Name) :
    Option Nat :=
  match (tree.node? directory).map FileNode.kind with
  | some (.directory entries) => entries.lookup name
  | _ => none

/-- Change one node. -/
def modify (tree : FileTree Name) (number : Nat) (change : FileNode Name → FileNode Name) :
    FileTree Name :=
  ⟨tree.nodes.modify number change⟩

/-- `fchmod`. -/
def chmod (tree : FileTree Name) (number : Nat) (mode : FileMode) : FileTree Name :=
  tree.modify number fun node => { node with mode := mode }

/-- A new node, under the next number, and an entry for it. -/
def insert (tree : FileTree Name) (directory : Nat) (name : Name) (node : FileNode Name) :
    FileTree Name :=
  ⟨(tree.nodes.modify directory fun parent => parent.withEntry name tree.nodes.length) ++ [node]⟩

/-! ### Growth -/

/-- Every node stays what it was, up to growth. -/
def Grows (tree later : FileTree Name) : Prop :=
  ∀ number node, tree.node? number = some node →
    ∃ grown, later.node? number = some grown ∧ node.Grows grown

theorem Grows.refl (tree : FileTree Name) : tree.Grows tree :=
  fun _ node found => ⟨node, found, .refl node⟩

theorem Grows.trans (left : tree.Grows next) (right : next.Grows final) : tree.Grows final := by
  intro number node found
  obtain ⟨middle, foundMiddle, first⟩ := left number node found
  obtain ⟨last, foundLast, second⟩ := right number middle foundMiddle
  exact ⟨last, foundLast, first.trans second⟩

theorem node?_modify (tree : FileTree Name) (changed number : Nat)
    (change : FileNode Name → FileNode Name) :
    (tree.modify changed change).node? number =
      (tree.node? number).map fun node => if changed = number then change node else node :=
  List.getElem?_modify change changed tree.nodes number

theorem grows_modify {change : FileNode Name → FileNode Name}
    (grows : ∀ node, tree.node? number = some node → node.Grows (change node)) :
    tree.Grows (tree.modify number change) := by
  intro other node found
  have changed : (tree.modify number change).node? other =
      some (if number = other then change node else node) := by
    rw [node?_modify, found, Option.map_some]
  refine ⟨_, changed, ?_⟩
  by_cases same : number = other
  · rw [if_pos same]
    exact grows node (same ▸ found)
  · rw [if_neg same]
    exact .refl node

/-- The mode of a file is not a matter of growth. -/
theorem grows_chmod_file (isNode : tree.node? number = some node)
    (file : ¬node.kind.IsDirectory) (mode : FileMode) : tree.Grows (tree.chmod number mode) := by
  apply grows_modify
  intro other found
  obtain rfl := Option.some.inj (isNode.symm.trans found)
  exact ⟨rfl, rfl, rfl, fun directory => absurd directory file, .same _⟩

/-- Nor is the mode of a node that is new. -/
theorem Grows.chmod_new (grows : tree.Grows next) (new : tree.node? number = none)
    (mode : FileMode) : tree.Grows (next.chmod number mode) := by
  intro other node found
  obtain ⟨grown, foundGrown, kept⟩ := grows other node found
  have different : number ≠ other := by
    rintro rfl
    rw [new] at found
    contradiction
  refine ⟨grown, ?_, kept⟩
  rw [chmod, node?_modify, foundGrown, Option.map_some, if_neg different]

theorem node?_lt (found : tree.node? number = some node) : number < tree.nodes.length :=
  (List.getElem?_eq_some_iff.mp found).1

theorem node?_insert (tree : FileTree Name) (directory : Nat) (name : Name)
    (node : FileNode Name) {number : Nat} (old : number < tree.nodes.length) :
    (tree.insert directory name node).node? number =
      (tree.modify directory fun parent =>
        parent.withEntry name tree.nodes.length).node? number := by
  have bounded : number <
      (tree.nodes.modify directory fun parent =>
        parent.withEntry name tree.nodes.length).length := by
    rw [List.length_modify]
    exact old
  exact List.getElem?_append_left bounded

theorem node?_insert_new (tree : FileTree Name) (directory : Nat) (name : Name)
    (node : FileNode Name) :
    (tree.insert directory name node).node? tree.nodes.length = some node := by
  have last : (tree.nodes.modify directory fun parent =>
      parent.withEntry name tree.nodes.length).length = tree.nodes.length :=
    List.length_modify _ _ _
  rw [node?, insert, List.getElem?_append_right (Nat.le_of_eq last), last, Nat.sub_self]
  rfl

theorem grows_insert (tree : FileTree Name) (directory : Nat) (name : Name)
    (node : FileNode Name) : tree.Grows (tree.insert directory name node) := by
  have grows : tree.Grows (tree.modify directory fun parent =>
      parent.withEntry name tree.nodes.length) :=
    grows_modify fun parent _ => parent.grows_withEntry name tree.nodes.length
  intro number old found
  obtain ⟨grown, foundGrown, kept⟩ := grows number old found
  exact ⟨grown, (tree.node?_insert directory name node (node?_lt found)).trans foundGrown, kept⟩

/-! ### Entries -/

section Entries

variable [DecidableEq Name] {directory child : Nat} {name : Name}

theorem child?_eq_some :
    tree.child? directory name = some child ↔ ∃ parent entries,
      tree.node? directory = some parent ∧ parent.kind = .directory entries ∧
        entries.lookup name = some child := by
  unfold child?
  cases found : tree.node? directory with
  | none => simp
  | some parent =>
      cases kind : parent.kind with
      | directory entries => simp [kind]
      | _ => simp [kind]

/-- An entry stays where it leads to. -/
theorem Grows.child? (grows : tree.Grows next)
    (entry : tree.child? directory name = some child) :
    next.child? directory name = some child := by
  obtain ⟨parent, entries, found, isDirectory, looked⟩ := child?_eq_some.mp entry
  obtain ⟨grown, foundGrown, kept⟩ := grows directory parent found
  have kind := kept.kind
  rw [isDirectory] at kind
  cases shape : grown.kind with
  | directory more =>
      rw [shape] at kind
      cases kind with
      | same => exact child?_eq_some.mpr ⟨grown, entries, foundGrown, shape, looked⟩
      | directory _ added =>
          refine child?_eq_some.mpr ⟨grown, entries ++ added, foundGrown, shape, ?_⟩
          rw [List.lookup_append, looked, Option.some_or]
  | _ =>
      rw [shape] at kind
      cases kind

theorem child?_chmod (tree : FileTree Name) (number : Nat) (mode : FileMode) :
    (tree.chmod number mode).child? directory name = tree.child? directory name := by
  rw [FileTree.child?, FileTree.child?, chmod, node?_modify]
  cases tree.node? directory with
  | none => rfl
  | some parent => by_cases same : number = directory <;> simp [same]

/-- An entry that was missing leads to the new node. -/
theorem child?_insert {parent node : FileNode Name} (found : tree.node? directory = some parent)
    (isDirectory : parent.kind.IsDirectory) (missing : tree.child? directory name = none) :
    (tree.insert directory name node).child? directory name = some tree.nodes.length := by
  obtain ⟨entries, kind⟩ := isDirectory
  have unlisted : entries.lookup name = none := by
    cases looked : entries.lookup name with
    | none => rfl
    | some child =>
        have entry := child?_eq_some.mpr ⟨parent, entries, found, kind, looked⟩
        rw [missing] at entry
        contradiction
  have changed : (tree.insert directory name node).node? directory =
      some (parent.withEntry name tree.nodes.length) := by
    rw [node?_insert tree directory name node (node?_lt found), node?_modify, found,
      Option.map_some, if_pos rfl]
  refine child?_eq_some.mpr
    ⟨_, entries ++ [(name, tree.nodes.length)], changed, ?_, ?_⟩
  · rw [FileNode.withEntry, kind]
  · rw [List.lookup_append, unlisted, Option.none_or, List.lookup_cons_self]

end Entries

end FileTree

/-! ## Who may take an entry away -/

/-- A user with the groups it is in. -/
structure Subject where
  uid : Nat
  inGroup : Nat → Bool

namespace FileNode

variable {directory entry : FileNode Name} {subject : Subject}

/-- The write bit of a directory's group or of others, or the owner, who can set
the bits. -/
def WritableBy (directory : FileNode Name) (subject : Subject) : Prop :=
  subject.uid = directory.uid ∨
    if subject.inGroup directory.gid then
      directory.mode &&& 0o020 ≠ 0
    else
      directory.mode &&& 0o002 ≠ 0

/-- The sticky bit. -/
def Sticky (directory : FileNode Name) : Prop :=
  directory.mode &&& 0o1000 ≠ 0

/-- Rename, unlink or replace an entry. In a sticky directory this is up to the
owner of the entry and that of the directory; the superuser may do it anywhere. -/
def MayReplace (directory entry : FileNode Name) (subject : Subject) : Prop :=
  subject.uid = 0 ∨ directory.WritableBy subject ∧
    (directory.Sticky → subject.uid = entry.uid ∨ subject.uid = directory.uid)

theorem mask_eq_zero {mode wide narrow : FileMode} (inside : wide &&& narrow = narrow)
    (clear : mode &&& wide = 0) : mode &&& narrow = 0 := by
  rw [← inside, ← BitVec.and_assoc, clear]
  exact BitVec.zero_and

/-- Nobody but its owner writes into a directory without these bits. -/
theorem uid_of_mayReplace_closed (closed : directory.mode &&& 0o022 = 0)
    (may : directory.MayReplace entry subject) :
    subject.uid = 0 ∨ subject.uid = directory.uid := by
  rcases may with superuser | ⟨owner | bits, -⟩
  · exact Or.inl superuser
  · exact Or.inr owner
  · have group : directory.mode &&& 0o020 = 0 := mask_eq_zero (by decide) closed
    have others : directory.mode &&& 0o002 = 0 := mask_eq_zero (by decide) closed
    rw [group, others] at bits
    simp at bits

/-- In a sticky directory the owners are left. -/
theorem uid_of_mayReplace_sticky (sticky : directory.Sticky)
    (may : directory.MayReplace entry subject) :
    subject.uid = 0 ∨ subject.uid = entry.uid ∨ subject.uid = directory.uid := by
  rcases may with superuser | ⟨-, restricted⟩
  · exact Or.inl superuser
  · exact Or.inr (restricted sticky)

/-- Growth gives nobody a right. -/
theorem mayReplace_of_grows {grownDirectory grownEntry : FileNode Name}
    (directoryGrows : directory.Grows grownDirectory) (entryGrows : entry.Grows grownEntry)
    (isDirectory : directory.kind.IsDirectory)
    (may : grownDirectory.MayReplace grownEntry subject) : directory.MayReplace entry subject := by
  have mode := directoryGrows.mode isDirectory
  unfold MayReplace WritableBy Sticky at may ⊢
  rw [mode, directoryGrows.uid, directoryGrows.gid, entryGrows.uid] at may
  exact may

end FileNode

/-! ## The entries of a path -/

namespace FileTree

variable [DecidableEq Name] {tree next : FileTree Name} {safe later : Nat → Nat → Prop}
  {start middle final : Nat} {name : Name} {names : List Name}

/-- A path from one node to another along the entries of some names, each of
them safe for the directory and the node it leads to. -/
def Descends (tree : FileTree Name) (safe : Nat → Nat → Prop) : Nat → List Name → Nat → Prop
  | start, [], final => start = final
  | start, name :: rest, final =>
      ∃ child, tree.child? start name = some child ∧ safe start child ∧
        tree.Descends safe child rest final

/-- One more entry at the end. -/
theorem Descends.concat (path : tree.Descends safe start names middle)
    (entry : tree.child? middle name = some final) (isSafe : safe middle final) :
    tree.Descends safe start (names ++ [name]) final := by
  induction names generalizing start with
  | nil =>
      obtain rfl : start = middle := path
      exact ⟨final, entry, isSafe, rfl⟩
  | cons first rest inductionHypothesis =>
      obtain ⟨child, found, safeFirst, others⟩ := path
      exact ⟨child, found, safeFirst, inductionHypothesis others⟩

/-- A path stays as the tree grows, if what is safe stays so. -/
theorem Descends.grows (path : tree.Descends safe start names final) (grows : tree.Grows next)
    (kept : ∀ directory child, safe directory child → later directory child) :
    next.Descends later start names final := by
  induction names generalizing start with
  | nil => exact path
  | cons first rest inductionHypothesis =>
      obtain ⟨child, found, safeFirst, others⟩ := path
      exact ⟨child, grows.child? found, kept start child safeFirst, inductionHypothesis others⟩

end FileTree

end Etr.Library
