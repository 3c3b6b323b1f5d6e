import RelaySnapshot.IoError
import RelaySnapshot.Path

/-!
# File trees

Directories, files with some kind of content, and symbolic links, as a program finds them from its
working directory.
-/

namespace RelaySnapshot

abbrev Place := List String

inductive Node (α : Type) where
  | directory
  | file (content : α)
  | link (target : String)

/-- There is at most one node at a place. -/
structure FileTree (α : Type) where
  entries : List (Place × Node α)
  distinct : (entries.map Prod.fst).Nodup
  /-- The working directory, from which paths lead on that do not begin at the top. -/
  here : Place := []

namespace FileTree

open RelaySnapshot.Path

variable {α : Type}

def empty : FileTree α :=
  ⟨[], .nil, []⟩

instance : EmptyCollection (FileTree α) := ⟨empty⟩

instance : Inhabited (FileTree α) := ⟨empty⟩

/-- The node at a place; the top is a directory. -/
def find? (tree : FileTree α) (place : Place) : Option (Node α) :=
  if place.isEmpty then some .directory else tree.entries.lookup place

def remove (tree : FileTree α) (place : Place) : FileTree α where
  entries := tree.entries.filter (·.1 != place)
  distinct := tree.distinct.sublist (List.filter_sublist.map Prod.fst)
  here := tree.here

theorem notMem_remove (tree : FileTree α) (place : Place) :
    place ∉ (tree.remove place).entries.map Prod.fst := by
  intro h
  obtain ⟨entry, hentry, hplace⟩ := List.mem_map.mp h
  have hne : (entry.1 != place) = true := (List.mem_filter.mp hentry).2
  rw [hplace] at hne
  exact bne_iff_ne.mp hne rfl

def put (tree : FileTree α) (place : Place) (node : Node α) : FileTree α where
  entries := (tree.remove place).entries ++ [(place, node)]
  distinct := by
    rw [List.map_append, List.nodup_append]
    refine ⟨(tree.remove place).distinct, List.pairwise_singleton _ _, ?_⟩
    intro p hp q hq heq
    have hplace : p = place := heq.trans (List.mem_singleton.mp hq)
    exact tree.notMem_remove place (hplace ▸ hp)
  here := tree.here

/-- Makes a directory at each place above `place` where there is nothing. -/
def withParents (tree : FileTree α) (place : Place) : FileTree α :=
  ((List.range place.length).map place.take).foldl
    (fun tree above => if (tree.find? above).isSome then tree else tree.put above .directory) tree

def names (tree : FileTree α) (place : Place) : List String :=
  let below := tree.entries.filterMap fun (p, _) =>
    if p.dropLast == place then p.getLast? else none
  below.mergeSort fun a b => decide (a ≤ b)

def places (tree : FileTree α) : List Place :=
  [] :: tree.entries.map Prod.fst

def height (tree : FileTree α) : Nat :=
  (tree.places.map List.length).max?.getD 0

theorem mem_places {tree : FileTree α} {place : Place} {node : Node α}
    (h : tree.find? place = some node) : place ∈ tree.places := by
  rw [find?] at h
  split at h
  next htop => exact List.isEmpty_iff.mp htop ▸ List.mem_cons_self
  next =>
    obtain ⟨before, after, hentries, -⟩ := List.lookup_eq_some_iff.mp h
    rw [places, hentries]
    simp

theorem length_le_height {tree : FileTree α} {place : Place} (h : place ∈ tree.places) :
    place.length ≤ tree.height :=
  List.le_max?_getD_of_mem (List.mem_map_of_mem h)

def isTooLong (name : String) : Bool :=
  255 < name.utf8ByteSize

def origin (tree : FileTree α) (path : String) : Place :=
  if isAbsolute path then [] else tree.here

/--
Follows the components from a place on; links may lead on at most `links` more times. Nothing is
above the top but the top.
-/
def follow (tree : FileTree α) (links : Nat) (here : Place) :
    List String → Except IoError Place
  | [] => .ok here
  | name :: rest =>
    match tree.find? here with
    | some .directory =>
      if name = "" ∨ name = "." then follow tree links here rest
      else if name = ".." then follow tree links here.dropLast rest
      else if isTooLong name then .error .nameTooLong
      else
        match tree.find? (here ++ [name]) with
        | none => .error .notFound
        | some (.link target) =>
          match links with
          | 0 => .error .tooManyLinks
          | links + 1 =>
            follow tree links (if isAbsolute target then [] else here) (components target ++ rest)
        | some _ => follow tree links (here ++ [name]) rest
    | _ => .error .notADirectory
termination_by names => (links, names.length)

def resolve (tree : FileTree α) (path : String) : Except IoError Place :=
  if path.toList.contains '\x00' then .error .nulInName
  else if path.isEmpty then .error .notFound
  else if 4096 ≤ path.utf8ByteSize then .error .nameTooLong
  else tree.follow 40 (tree.origin path) (components path)

def get (tree : FileTree α) (path : String) : Except IoError (Place × Node α) := do
  let place ← tree.resolve path
  match tree.find? place with
  | some node => return (place, node)
  | none => throw .notFound

theorem find?_of_get {tree : FileTree α} {path : String} {place : Place} {node : Node α}
    (h : tree.get path = .ok (place, node)) : tree.find? place = some node := by
  cases hplace : tree.resolve path with
  | error e =>
    rw [get, hplace] at h
    cases h
  | ok found =>
    rw [get, hplace] at h
    change (match tree.find? found with
      | some node => Except.ok (found, node)
      | none => Except.error IoError.notFound) = _ at h
    split at h
    next hnode => cases h; exact hnode
    next => cases h

def contains (tree : FileTree α) (path : String) : Bool :=
  (tree.resolve path).isOk

def isFile (tree : FileTree α) (path : String) : Bool :=
  match tree.get path with
  | .ok (_, .file _) => true
  | _ => false

def read (tree : FileTree α) (path : String) : Except IoError α := do
  match ← tree.get path with
  | (_, .file content) => return content
  | _ => throw .isADirectory

/-- Removes the file or the link that a path names, but not what a link leads to. -/
def unlink (tree : FileTree α) (path : String) : Except IoError (FileTree α) := do
  let names := components path
  let last := names.getLastD ""
  let above ← tree.follow 40 (tree.origin path) names.dropLast
  if last = "" ∨ last = "." ∨ last = ".." then throw .isADirectory
  match tree.find? (above ++ [last]) with
  | none => throw .notFound
  | some .directory => throw .isADirectory
  | some _ => return tree.remove (above ++ [last])

def pathLength (place : Place) : Nat :=
  place.foldl (fun length name => length + 1 + name.utf8ByteSize) 0

/--
The place that names stand for, whether there is something or not: `..` takes back the name before
it, and only links are followed. No path on the way can have more than `room` bytes.
-/
def settle (tree : FileTree α) (room links : Nat) (here : Place) : List String → Option Place
  | [] => some here
  | name :: rest =>
    if name = "" ∨ name = "." then settle tree room links here rest
    else if name = ".." then settle tree room links here.dropLast rest
    else if room < pathLength (here ++ [name]) then none
    else if isTooLong name && tree.find? here matches some .directory then none
    else
      match tree.find? here, tree.find? (here ++ [name]) with
      | some (.file _), _ => none
      | _, some (.link target) =>
        match links with
        | 0 => none
        | links + 1 =>
          settle tree room links (if isAbsolute target then [] else here)
            (components target ++ rest)
      | _, _ => settle tree room links (here ++ [name]) rest
termination_by names => (links, names.length)

end FileTree

end RelaySnapshot
