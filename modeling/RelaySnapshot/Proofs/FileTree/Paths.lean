import Mathlib.Data.List.TakeDrop
import Mathlib.Tactic.SplitIfs
import RelaySnapshot.FileTree
import RelaySnapshot.Proofs.Text.Lines

namespace RelaySnapshot

/-- What a node may be called. -/
structure IsName (name : String) : Prop where
  ne_empty : name ≠ ""
  ne_dot : name ≠ "."
  ne_dots : name ≠ ".."
  no_slash : '/' ∉ name.toList
  no_nul : '\x00' ∉ name.toList
  short : FileTree.isTooLong name = false

instance (name : String) : Decidable (IsName name) :=
  decidable_of_iff (name ≠ "" ∧ name ≠ "." ∧ name ≠ ".." ∧ '/' ∉ name.toList ∧
      '\x00' ∉ name.toList ∧ FileTree.isTooLong name = false)
    ⟨fun ⟨h₁, h₂, h₃, h₄, h₅, h₆⟩ => ⟨h₁, h₂, h₃, h₄, h₅, h₆⟩,
      fun ⟨h₁, h₂, h₃, h₄, h₅, h₆⟩ => ⟨h₁, h₂, h₃, h₄, h₅, h₆⟩⟩

namespace Path

/-- The path leads to a name in the directory where it begins. -/
def Direct (path name : String) : Prop :=
  IsName name ∧
    (components path = [name] ∨ components path = [".", name] ∨ components path = ["", name]) ∧
    '\x00' ∉ path.toList ∧ path ≠ "" ∧ path.utf8ByteSize < 4096

instance (path name : String) : Decidable (Direct path name) :=
  inferInstanceAs (Decidable (_ ∧ _))

theorem components_of_not_mem {path : String} (h : '/' ∉ path.toList) :
    components path = [path] := by
  rw [components, Text.split_of_forall_not, List.map_singleton, String.ofList_toList]
  intro c hc
  rw [beq_eq_false_iff_ne]
  rintro rfl
  exact h hc

theorem components_append (path path' : String) :
    components (path ++ "/" ++ path') = components path ++ components path' := by
  have happend : (path ++ "/" ++ path').toList = path.toList ++ '/' :: path'.toList := by
    simp
  rw [components, happend, Text.split_append_append _ rfl, List.map_append]
  rfl

theorem isAbsolute_of_isName {name : String} (h : IsName name) : isAbsolute name = false := by
  rw [isAbsolute, beq_eq_false_iff_ne]
  intro hhead
  exact h.no_slash (List.mem_of_mem_head? hhead)

/-- One more name stands at the end of the path, or between slashes that end it. -/
theorem exists_components_join {path name : String} (hpath : path ≠ "") (hname : IsName name) :
    ∃ front, (components path = front ∨ components path = front ++ [""]) ∧
      components (join path name) = front ++ [name] := by
  have hnames : components name = [name] := components_of_not_mem hname.no_slash
  have hempty : path.isEmpty = false := by simpa using hpath
  rw [join, hempty, isAbsolute_of_isName hname, Bool.or_self, if_neg Bool.false_ne_true]
  split_ifs with hslash
  · obtain ⟨front, hfront⟩ : ∃ front, path = front ++ "/" := by
      obtain ⟨front, hfront⟩ := List.getLast?_eq_some_iff.mp hslash
      exact ⟨String.ofList front, by rw [← String.toList_inj, hfront]; simp⟩
    have hends : components (front ++ "/") = components front ++ [""] := by
      have happend := components_append front ""
      rwa [String.append_empty] at happend
    refine ⟨components front, .inr (hfront ▸ hends), ?_⟩
    rw [hfront, components_append, hnames]
  · exact ⟨_, .inl rfl, by rw [components_append, hnames]⟩

theorem toList_join {path name : String} (hpath : path ≠ "") (hname : IsName name) :
    ∃ slash : List Char, (slash = [] ∨ slash = ['/']) ∧
      (join path name).toList = path.toList ++ (slash ++ name.toList) := by
  have hempty : path.isEmpty = false := by simpa using hpath
  rw [join, hempty, isAbsolute_of_isName hname, Bool.or_self, if_neg Bool.false_ne_true]
  split_ifs with hslash
  · exact ⟨[], .inl rfl, by simp⟩
  · exact ⟨['/'], .inr rfl, by simp⟩

end Path

namespace FileTree

open RelaySnapshot.Path

variable {α : Type} {tree : FileTree α}

/-- Nodes have names, and they are in directories; the program works in one of these. -/
structure IsTree (tree : FileTree α) : Prop where
  names : ∀ place ∈ tree.places, ∀ name ∈ place, IsName name
  above : ∀ place ∈ tree.places, tree.find? place.dropLast = some .directory
  here : tree.find? tree.here = some .directory

theorem IsTree.isName (h : tree.IsTree) {place : Place} {name : String} {node : Node α}
    (hnode : tree.find? (place ++ [name]) = some node) : IsName name :=
  h.names _ (mem_places hnode) name (by simp)

theorem IsTree.find?_above (h : tree.IsTree) {place : Place} {name : String} {node : Node α}
    (hnode : tree.find? (place ++ [name]) = some node) : tree.find? place = some .directory := by
  have habove := h.above _ (mem_places hnode)
  rwa [List.dropLast_concat] at habove

/-- A name that may stand for a node. -/
structure IsStep (name : String) : Prop where
  not_idle : ¬(name = "" ∨ name = ".")
  ne_dots : name ≠ ".."
  short : isTooLong name = false

/-- Names lead from one place to another, and so many more links may be on the way. -/
inductive Follows (tree : FileTree α) : Nat → Place → List String → Nat → Place → Prop where
  | done {links here} : Follows tree links here [] links here
  | idle {links here name rest left place} (hhere : tree.find? here = some .directory)
      (hidle : name = "" ∨ name = ".") (hrest : Follows tree links here rest left place) :
      Follows tree links here (name :: rest) left place
  | up {links here rest left place} (hhere : tree.find? here = some .directory)
      (hrest : Follows tree links here.dropLast rest left place) :
      Follows tree links here (".." :: rest) left place
  | link {links here name target rest left place} (hhere : tree.find? here = some .directory)
      (hname : IsStep name) (hlink : tree.find? (here ++ [name]) = some (.link target))
      (hrest : Follows tree links (if isAbsolute target then [] else here)
        (components target ++ rest) left place) :
      Follows tree (links + 1) here (name :: rest) left place
  | node {links here name node rest left place} (hhere : tree.find? here = some .directory)
      (hname : IsStep name) (hnode : tree.find? (here ++ [name]) = some node)
      (hlink : ∀ target, node ≠ .link target)
      (hrest : Follows tree links (here ++ [name]) rest left place) :
      Follows tree links here (name :: rest) left place

theorem Follows.follow {links left : Nat} {here place : Place} {names : List String}
    (h : tree.Follows links here names left place) : tree.follow links here names = .ok place := by
  induction h with
  | done => rw [FileTree.follow]
  | idle hhere hidle _ ih => rw [FileTree.follow, hhere]; simpa [hidle] using ih
  | up hhere _ ih => rw [FileTree.follow, hhere]; simpa using ih
  | link hhere hname hlink _ ih =>
      rw [FileTree.follow, hhere, hlink]
      simpa [hname.not_idle, hname.ne_dots, hname.short] using ih
  | @node _ _ _ node _ _ _ hhere hname hnode hlink _ ih =>
      rw [FileTree.follow, hhere, hnode]
      simp only [hname.not_idle, hname.ne_dots, hname.short, if_false, Bool.false_eq_true]
      cases node with
      | link target => exact absurd rfl (hlink target)
      | directory => exact ih
      | file content => exact ih

theorem exists_follows {links : Nat} {here place : Place} {names : List String}
    (h : tree.follow links here names = .ok place) :
    ∃ left, tree.Follows links here names left place := by
  induction links, here, names using follow.induct tree with
  | case1 links here =>
      rw [follow] at h
      cases h
      exact ⟨links, .done⟩
  | case2 links here name rest hhere hidle ih =>
      simp only [follow, hhere, if_pos hidle] at h
      exact (ih h).imp fun _ => .idle hhere hidle
  | case3 links here rest hhere hidle ih =>
      simp only [follow, hhere, if_neg hidle, if_true] at h
      exact (ih h).imp fun _ => .up hhere
  | case7 here name rest hhere hidle hup hlong target hlink links ih =>
      simp only [follow, hhere, if_neg hidle, if_neg hup, if_neg hlong, hlink] at h
      simp only [dite_eq_ite] at ih
      exact (ih h).imp fun _ => .link hhere ⟨hidle, hup, eq_false_of_ne_true hlong⟩ hlink
  | case8 links here name rest hhere hidle hup hlong node hlink hnode ih =>
      have hnext : tree.follow links (here ++ [name]) rest = .ok place := by
        cases node with
        | link target => exact absurd rfl (hlink target)
        | directory => simpa [follow, hhere, hidle, hup, hlong, hnode] using h
        | file content => simpa [follow, hhere, hidle, hup, hlong, hnode] using h
      exact (ih hnext).imp fun _ =>
        .node hhere ⟨hidle, hup, eq_false_of_ne_true hlong⟩ hnode hlink
  | case9 links here name rest hhere =>
      rw [follow] at h
      split at h
      next hdirectory => exact absurd hdirectory hhere
      next => cases h
  -- The other ways to go on end in an error.
  | _ => simp [follow, *] at h

theorem Follows.append {links left left' : Nat} {here there place : Place}
    {names more : List String} (h : tree.Follows links here names left there)
    (hmore : tree.Follows left there more left' place) :
    tree.Follows links here (names ++ more) left' place := by
  induction h with
  | done => exact hmore
  | idle hhere hidle _ ih => exact .idle hhere hidle (ih hmore)
  | up hhere _ ih => exact .up hhere (ih hmore)
  | link hhere hname hlink _ ih =>
      exact .link hhere hname hlink (List.append_assoc .. ▸ ih hmore)
  | node hhere hname hnode hlink _ ih => exact .node hhere hname hnode hlink (ih hmore)

theorem Follows.split {links left : Nat} {here place : Place} {names more : List String}
    (h : tree.Follows links here (names ++ more) left place) :
    ∃ mid there, tree.Follows links here names mid there ∧
      tree.Follows mid there more left place := by
  generalize hall : names ++ more = all at h
  induction h generalizing names with
  | done =>
      obtain ⟨rfl, rfl⟩ := List.append_eq_nil_iff.mp hall
      exact ⟨_, _, .done, .done⟩
  | idle hhere hidle hrest ih =>
      rcases List.append_eq_cons_iff.mp hall with ⟨rfl, rfl⟩ | ⟨rest, rfl, happend⟩
      · exact ⟨_, _, .done, .idle hhere hidle hrest⟩
      · obtain ⟨mid, there, hfirst, hmore⟩ := ih happend.symm
        exact ⟨mid, there, .idle hhere hidle hfirst, hmore⟩
  | up hhere hrest ih =>
      rcases List.append_eq_cons_iff.mp hall with ⟨rfl, rfl⟩ | ⟨rest, rfl, happend⟩
      · exact ⟨_, _, .done, .up hhere hrest⟩
      · obtain ⟨mid, there, hfirst, hmore⟩ := ih happend.symm
        exact ⟨mid, there, .up hhere hfirst, hmore⟩
  | link hhere hname hlink hrest ih =>
      rcases List.append_eq_cons_iff.mp hall with ⟨rfl, rfl⟩ | ⟨rest, rfl, happend⟩
      · exact ⟨_, _, .done, .link hhere hname hlink hrest⟩
      · obtain ⟨mid, there, hfirst, hmore⟩ := ih (by rw [happend, List.append_assoc])
        exact ⟨mid, there, .link hhere hname hlink hfirst, hmore⟩
  | node hhere hname hnode hlink hrest ih =>
      rcases List.append_eq_cons_iff.mp hall with ⟨rfl, rfl⟩ | ⟨rest, rfl, happend⟩
      · exact ⟨_, _, .done, .node hhere hname hnode hlink hrest⟩
      · obtain ⟨mid, there, hfirst, hmore⟩ := ih happend.symm
        exact ⟨mid, there, .node hhere hname hnode hlink hfirst, hmore⟩

theorem Follows.eq_of_idle {links left : Nat} {here place : Place}
    (h : tree.Follows links here [""] left place) : place = here := by
  have hfollow := h.follow
  rw [FileTree.follow] at hfollow
  split at hfollow
  next =>
    rw [if_pos (.inl rfl), FileTree.follow] at hfollow
    exact (Except.ok.inj hfollow).symm
  next => cases hfollow

theorem IsName.isStep {name : String} (h : IsName name) : IsStep name :=
  ⟨not_or.mpr ⟨h.ne_empty, h.ne_dot⟩, h.ne_dots, h.short⟩

theorem follows_name {links : Nat} {here : Place} {name : String} {node : Node α}
    (hname : IsName name) (hhere : tree.find? here = some .directory)
    (hnode : tree.find? (here ++ [name]) = some node) (hlink : ∀ target, node ≠ .link target) :
    tree.Follows links here [name] links (here ++ [name]) :=
  .node hhere (IsName.isStep hname) hnode hlink .done

/-! ### The node at the end of a path -/

theorem resolve_eq_ok_iff {path : String} {place : Place} :
    tree.resolve path = .ok place ↔ '\x00' ∉ path.toList ∧ path ≠ "" ∧ path.utf8ByteSize < 4096 ∧
      tree.follow 40 (tree.origin path) (components path) = .ok place := by
  rw [resolve]
  split_ifs with hnul hempty hlong
  · simp_all
  · simp_all
  · simp [Nat.not_lt.mpr hlong]
  · simp_all

theorem get_eq_ok_iff {path : String} {place : Place} {node : Node α} :
    tree.get path = .ok (place, node) ↔
      tree.resolve path = .ok place ∧ tree.find? place = some node := by
  constructor
  · intro h
    refine ⟨?_, find?_of_get h⟩
    cases hresolve : tree.resolve path with
    | error e =>
        rw [get, hresolve] at h
        cases h
    | ok found =>
        rw [get, hresolve] at h
        cases hfound : tree.find? found with
        | none => simp [bind, Except.bind, hfound, throw, throwThe, MonadExceptOf.throw] at h
        | some there =>
            simp only [bind, Except.bind, hfound, pure, Except.pure, Except.ok.injEq,
              Prod.mk.injEq] at h
            rw [h.1]
  · rintro ⟨hresolve, hnode⟩
    rw [get, hresolve]
    simp [bind, Except.bind, hnode, pure, Except.pure]

theorem follow_direct {path name : String} (h : Direct path name)
    (hhere : tree.find? (tree.origin path) = some .directory)
    (hlink : ∀ target, tree.find? (tree.origin path ++ [name]) ≠ some (.link target)) :
    tree.follow 40 (tree.origin path) (components path) =
      if (tree.find? (tree.origin path ++ [name])).isSome then .ok (tree.origin path ++ [name])
      else .error .notFound := by
  generalize tree.origin path = here at hhere hlink ⊢
  have hname : tree.follow 40 here [name] =
      if (tree.find? (here ++ [name])).isSome then .ok (here ++ [name])
      else .error .notFound := by
    cases hnode : tree.find? (here ++ [name]) with
    | some node =>
        have hnolink : ∀ target, node ≠ .link target := by
          rintro target rfl
          exact hlink target hnode
        exact (follows_name h.1 hhere hnode hnolink).follow
    | none =>
        have hidle : ¬(name = "" ∨ name = ".") := not_or.mpr ⟨h.1.ne_empty, h.1.ne_dot⟩
        simp [follow, hhere, hnode, hidle, h.1.ne_dots, h.1.short]
  rcases h.2.1 with hpath | hpath | hpath
  · rw [hpath, hname]
  · rw [hpath, follow, hhere]
    exact hname
  · rw [hpath, follow, hhere]
    exact hname

theorem resolve_direct {path name : String} (h : Direct path name)
    (hhere : tree.find? (tree.origin path) = some .directory)
    (hlink : ∀ target, tree.find? (tree.origin path ++ [name]) ≠ some (.link target)) :
    tree.resolve path =
      if (tree.find? (tree.origin path ++ [name])).isSome then .ok (tree.origin path ++ [name])
      else .error .notFound := by
  obtain ⟨-, -, hnul, hempty, hshort⟩ := id h
  have hnul' : path.toList.contains '\x00' = false := by simpa using hnul
  have hempty' : path.isEmpty = false := by simpa using hempty
  rw [← follow_direct h hhere hlink, resolve, hnul', hempty', if_neg (Nat.not_le.mpr hshort)]
  rfl

/-- A name in the directory where a path begins is found by the path. -/
theorem get_direct {path name : String} {node : Node α} (h : Direct path name)
    (hhere : tree.find? (tree.origin path) = some .directory)
    (hnode : tree.find? (tree.origin path ++ [name]) = some node)
    (hlink : ∀ target, node ≠ .link target) :
    tree.get path = .ok (tree.origin path ++ [name], node) := by
  have hresolve : tree.resolve path = .ok (tree.origin path ++ [name]) := by
    rw [resolve_direct h hhere, hnode]
    · rfl
    · rintro target htarget
      exact hlink target (Option.some.inj (hnode.symm.trans htarget))
  exact get_eq_ok_iff.mpr ⟨hresolve, hnode⟩

theorem read_direct {path name : String} {content : α} (h : Direct path name)
    (hhere : tree.find? (tree.origin path) = some .directory)
    (hfile : tree.find? (tree.origin path ++ [name]) = some (.file content)) :
    tree.read path = .ok content := by
  rw [read, get_direct h hhere hfile (by simp)]
  rfl

/-- A name in a directory is found by the path of the directory with the name joined to it. -/
theorem get_join {path name : String} {place : Place} {node : Node α}
    (h : tree.get path = .ok (place, .directory)) (hname : IsName name)
    (hnode : tree.find? (place ++ [name]) = some node) (hlink : ∀ target, node ≠ .link target)
    (hshort : (join path name).utf8ByteSize < 4096) :
    tree.get (join path name) = .ok (place ++ [name], node) := by
  obtain ⟨hresolve, hplace⟩ := get_eq_ok_iff.mp h
  obtain ⟨hnul, hempty, -, hfollow⟩ := resolve_eq_ok_iff.mp hresolve
  obtain ⟨slash, hslash, htext⟩ := toList_join hempty hname
  have hhead : (join path name).toList.head? = path.toList.head? := by
    have hne : path.toList ≠ [] := by simpa using hempty
    obtain ⟨c, rest, hpath⟩ := List.exists_cons_of_ne_nil hne
    rw [htext, hpath]
    rfl
  have horigin : tree.origin (join path name) = tree.origin path := by
    rw [origin, origin, isAbsolute, isAbsolute, hhead]
  rw [get_eq_ok_iff, resolve_eq_ok_iff, horigin]
  refine ⟨⟨?_, ?_, hshort, ?_⟩, hnode⟩
  · rw [htext, List.mem_append, List.mem_append]
    rcases hslash with rfl | rfl <;> simp [hnul, hname.no_nul]
  · intro hnil
    rw [hnil] at htext
    simp_all
  · obtain ⟨front, hfront, hnames⟩ := exists_components_join hempty hname
    obtain ⟨left, hleads⟩ := exists_follows hfollow
    obtain ⟨left, hthere⟩ : ∃ left, tree.Follows 40 (tree.origin path) front left place := by
      rcases hfront with hfront | hfront
      · exact ⟨left, hfront ▸ hleads⟩
      · rw [hfront] at hleads
        obtain ⟨mid, there, hfirst, hlast⟩ := hleads.split
        exact ⟨mid, hlast.eq_of_idle ▸ hfirst⟩
    rw [hnames]
    exact (hthere.append (follows_name hname hplace hnode hlink)).follow

/-! ### Places with nodes -/

theorem mem_places_put {place other : Place} {node : Node α}
    (h : other ∈ (tree.put place node).places) : other ∈ tree.places ∨ other = place := by
  rw [places, put, List.map_append, List.mem_cons, List.mem_append] at h
  rcases h with htop | hentry | hnew
  · exact .inl (htop ▸ List.mem_cons_self)
  · obtain ⟨entry, hmem, rfl⟩ := List.mem_map.mp hentry
    exact .inl (List.mem_cons_of_mem _ (List.mem_map_of_mem (List.mem_filter.mp hmem).1))
  · exact .inr (List.mem_singleton.mp hnew)

theorem find?_put {place : Place} (hplace : place ≠ []) (node : Node α) :
    (tree.put place node).find? place = some node := by
  have hempty : place.isEmpty = false := by simpa using hplace
  have hnone : (tree.remove place).entries.lookup place = none := by
    rw [List.lookup_eq_none_iff]
    intro entry hentry
    rw [bne_iff_ne]
    intro heq
    have hmem := List.mem_map_of_mem (f := Prod.fst) hentry
    rw [← heq] at hmem
    exact tree.notMem_remove place hmem
  rw [find?, hempty, if_neg Bool.false_ne_true, put, List.lookup_append, hnone]
  simp

theorem find?_put_of_ne {place other : Place} (hother : other ≠ place) (node : Node α) :
    (tree.put place node).find? other = tree.find? other := by
  have hlast : List.lookup other [(place, node)] = none := by
    rw [List.lookup_cons, beq_eq_false_iff_ne.mpr hother]
    rfl
  have hremove : (tree.remove place).entries.lookup other = tree.entries.lookup other := by
    change (tree.entries.filter (·.1 != place)).lookup other = _
    induction tree.entries with
    | nil => rfl
    | cons entry entries ih =>
        rw [List.filter_cons]
        split
        next => rw [List.lookup_cons, List.lookup_cons, ih]
        next hremoved =>
          have hplace : entry.1 = place := by simpa using hremoved
          rw [List.lookup_cons, hplace, beq_eq_false_iff_ne.mpr hother, ih]
  rw [find?, find?, put, List.lookup_append, hremove, hlast, Option.or_none]

/-- A name at the top may be given to any node if no directory has it. -/
theorem IsTree.put (h : tree.IsTree) {name : String} (hname : IsName name)
    (hfree : tree.find? [name] ≠ some .directory) (node : Node α) :
    (tree.put [name] node).IsTree := by
  have hkept {place : Place} (hplace : tree.find? place = some .directory) :
      (tree.put [name] node).find? place = some .directory := by
    rw [find?_put_of_ne, hplace]
    rintro rfl
    exact hfree hplace
  refine ⟨fun place hplace => ?names, fun place hplace => ?above, hkept h.here⟩
  case names =>
    rcases mem_places_put hplace with hold | rfl
    · exact h.names place hold
    · exact List.forall_mem_singleton.mpr hname
  case above =>
    rcases mem_places_put hplace with hold | rfl
    · exact hkept (h.above place hold)
    · rfl

end FileTree

end RelaySnapshot
