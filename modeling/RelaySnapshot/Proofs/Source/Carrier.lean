import Mathlib.Data.List.Induction
import RelaySnapshot.Proofs.FileTree.Paths
import RelaySnapshot.Proofs.Source.Loop
import RelaySnapshot.Proofs.Text.Lines
import RelaySnapshot.Proofs.Text.Utf8

/-!
# Carriers of documents

A document may be a file, be packed into one, stand alone in a tree of directories, or be the one
regular file in an archive. What is read of it does not depend on that, as long as a compressed file
has all of it in the first of its members.
-/

namespace RelaySnapshot

namespace Source

/-- What the readers of packed files make of bytes that are rightly packed. -/
structure Unpacks (formats : Formats) (Member : List UInt8 → List UInt8 → Prop)
    (Archive : List UInt8 → List ArchiveEntry → Prop) : Prop where
  /-- A compressed file is read to the end of its first member. -/
  member : ∀ {packed doc}, Member packed doc → ∀ rest, formats.gunzip (packed ++ rest) = .ok doc
  archive : ∀ {data entries}, Archive data entries → formats.entries data = (entries, none)

/-- A file at this path holds a document as it stands, or members that hold its parts. -/
inductive Holds (Member : List UInt8 → List UInt8 → Prop) (path : String) :
    Content → List (List UInt8) → Prop where
  | plain {doc} (hname : ¬Compressed path) : Holds Member path (.bytes doc) [doc]
  | compressed {packed parts} (hname : Compressed path) (hparts : parts ≠ [])
      (hmembers : List.Forall₂ Member packed parts) :
      Holds Member path (.bytes packed.flatten) parts

/-- The path by which a walk comes along these names. -/
def along (root : String) (trail : List String) : String :=
  trail.foldl Path.join root

/-- Below a directory one file is all there is besides directories. -/
structure Sole (files : Files) (root : String) (place : Place) (trail : List String)
    (content : Content) : Prop where
  isTree : files.IsTree
  top : files.get root = .ok (place, .directory)
  file : files.find? (place ++ trail) = some (.file content)
  only : ∀ names, place ++ names ∈ files.places →
    names = trail ∨ files.find? (place ++ names) = some .directory
  /-- No path below the directory is longer than paths can be. -/
  short : ∀ names, place ++ names ∈ files.places → (along root names).utf8ByteSize < 4096

/-- Something carries a document that is made up of these parts. -/
inductive Carries (Member : List UInt8 → List UInt8 → Prop)
    (Archive : List UInt8 → List ArchiveEntry → Prop) (files : Files) (root : String) :
    List (List UInt8) → Prop where
  | file {content parts} (hread : files.read root = .ok content) (hname : ¬Archived root)
      (hholds : Holds Member root content parts) : Carries Member Archive files root parts
  | tree {place trail content parts} (hsole : Sole files root place trail content)
      (hholds : Holds Member (along root trail) content parts) :
      Carries Member Archive files root parts
  | archive {data entries entry} (hread : files.read root = .ok (.bytes data))
      (hname : Archived root) (hentries : Archive data entries)
      (honly : entries.filter (·.kind = .file) = [entry]) :
      Carries Member Archive files root [entry.body]

/-- The pass that hands on all there is in one document. -/
def passOf (doc : List UInt8) : Pass where
  stats := ⟨1, (wellFormed (readDocument doc)).length, malformed (readDocument doc)⟩
  handed := wellFormed (readDocument doc)
  left := none

/-! ### One file -/

section Unpacking

variable {formats : Formats} {Member : List UInt8 → List UInt8 → Prop}
  {Archive : List UInt8 → List ArchiveEntry → Prop} {files : Files}

theorem opened_of_first {path : String} {packed doc rest : List UInt8}
    (hformats : Unpacks formats Member Archive)
    (hread : files.read path = .ok (.bytes (packed ++ rest))) (hname : Compressed path)
    (hmember : Member packed doc) : opened formats files path = .ok doc := by
  rw [opened_eq, hread]
  exact (if_pos hname).trans (hformats.member hmember rest)

theorem opened_of_holds {path : String} {content : Content} {parts : List (List UInt8)}
    (hformats : Unpacks formats Member Archive) (hread : files.read path = .ok content)
    (h : Holds Member path content parts) (hfirst : ∀ part ∈ parts.tail, part = []) :
    opened formats files path = .ok parts.flatten := by
  cases h with
  | @plain doc hname =>
      rw [opened_eq, hread, List.flatten_singleton]
      exact if_neg hname
  | @compressed packed parts hname hparts hmembers =>
      cases hmembers with
      | nil => exact absurd rfl hparts
      | @cons first doc packed parts hmember hmembers =>
          have hrest : parts.flatten = [] := List.flatten_eq_nil_iff.mpr hfirst
          rw [opened_of_first hformats hread hname hmember, List.flatten_cons, hrest,
            List.append_nil]

end Unpacking

theorem not_directory_of_read {files : Files} {root : String} {content : Content}
    (hread : files.read root = .ok content) (place : Place) :
    files.get root ≠ .ok (place, .directory) := by
  intro hget
  rw [FileTree.read, hget] at hread
  cases hread

theorem read_of_fullPass {formats : Formats} {files : Files} {root : String} {doc : List UInt8}
    (h : FullPass formats files root [.ok doc]) :
    read formats files root none = .ok (passOf doc) := by
  have houtlasts : Pass.Outlasts { left := none } (readDocument doc) := nofun
  rw [read_eq_takeAll h, Option.map_none, Pass.takeAll, Pass.takeDocument_of_outlasts houtlasts,
    houtlasts.isOver 1, if_neg Bool.false_ne_true, Pass.takeAll]
  simp [Pass.through, Stats.add, passOf]

/-! ### A file in directories -/

namespace Sole

variable {files : Files} {root : String} {place : Place} {trail : List String} {content : Content}

theorem along_snoc (root : String) (names : List String) (name : String) :
    along root (names ++ [name]) = Path.join (along root names) name :=
  List.foldl_concat ..

theorem node_ne_link (h : Sole files root place trail content) {names : List String}
    {node : Node Content} (hnode : files.find? (place ++ names) = some node) (target : String) :
    node ≠ .link target := by
  rcases h.only names (FileTree.mem_places hnode) with rfl | hdirectory
  · cases hnode.symm.trans h.file
    nofun
  · cases hnode.symm.trans hdirectory
    nofun

theorem get_along (h : Sole files root place trail content) {names : List String}
    {node : Node Content} (hnode : files.find? (place ++ names) = some node) :
    files.get (along root names) = .ok (place ++ names, node) := by
  induction names using List.reverseRecOn generalizing node with
  | nil =>
      rw [List.append_nil] at hnode ⊢
      cases hnode.symm.trans (FileTree.find?_of_get h.top)
      exact h.top
  | append_singleton names name ih =>
      have hshort := h.short _ (FileTree.mem_places hnode)
      have hlink := h.node_ne_link hnode
      rw [← List.append_assoc] at hnode ⊢
      rw [along_snoc] at hshort ⊢
      exact FileTree.get_join (ih (h.isTree.find?_above hnode)) (h.isTree.isName hnode) hnode hlink
        hshort

/-- Directories are on the way to the file. -/
theorem find?_prefix (h : Sole files root place trail content) {names rest : List String}
    (htrail : names ++ rest = trail) : ∃ node, files.find? (place ++ names) = some node := by
  induction rest generalizing names with
  | nil =>
      rw [List.append_nil] at htrail
      exact ⟨_, htrail ▸ h.file⟩
  | cons name rest ih =>
      have hinner : names ++ [name] ++ rest = trail := by rwa [← List.append_cons]
      obtain ⟨node, hnode⟩ := ih hinner
      rw [← List.append_assoc] at hnode
      exact ⟨_, h.isTree.find?_above hnode⟩

theorem leadAt_directory (h : Sole files root place trail content) (above : List (Place × String))
    {names : List String} {name : String}
    (hnode : files.find? (place ++ names ++ [name]) = some .directory) :
    leadAt files above (along root names) (place ++ names) name =
      .directory (place ++ names ++ [name]) := by
  have hinner : files.find? (place ++ (names ++ [name])) = some .directory := by
    rwa [← List.append_assoc]
  have hget := h.get_along hinner
  rw [along_snoc] at hget
  rw [leadAt, lead, hnode]
  simp only [hget]

/-- The one trail is that of the file. -/
theorem leads_iff (h : Sole files root place trail content) {formats : Formats}
    {above : List (Place × String)}
    {names rest : List String} {outcome : Outcome}
    (hnames : files.find? (place ++ names) = some .directory) :
    Leads formats files above (along root names) (place ++ names) rest outcome ↔
      names ++ rest = trail ∧ outcome = opened formats files (along root trail) := by
  induction rest generalizing names above with
  | nil =>
      rw [Source.leads_iff]
      constructor
      · rintro ⟨_, _, _, hcons, -⟩
        cases hcons
      · rintro ⟨htrail, -⟩
        rw [List.append_nil] at htrail
        rw [htrail, h.file] at hnames
        cases hnames
  | cons name rest ih =>
      rw [leads_cons_iff, FileTree.mem_names, Through, List.append_cons names]
      cases hnode : files.find? (place ++ names ++ [name]) with
      | none =>
          constructor
          · rintro ⟨⟨_, hnone⟩, -⟩
            cases hnone
          · rintro ⟨htrail, -⟩
            obtain ⟨node, hsome⟩ := h.find?_prefix htrail
            rw [← List.append_assoc, hnode] at hsome
            cases hsome
      | some node =>
          have hplace := FileTree.mem_places hnode
          rw [List.append_assoc] at hplace
          rcases h.only _ hplace with hlast | hdirectory
          · have hfile : files.find? (place ++ names ++ [name]) = some (.file content) := by
              rw [List.append_assoc, hlast, h.file]
            have hlead : leadAt files above (along root names) (place ++ names) name = .file := by
              rw [leadAt, lead, hfile]
            rw [hlead, ← along_snoc, hlast, List.append_right_eq_self]
            exact and_iff_right ⟨_, rfl⟩
          · have hdeeper := @ih ((place ++ names, along root names) :: above) _ hdirectory
            rw [← List.append_assoc] at hdirectory hdeeper
            rw [h.leadAt_directory above hdirectory, ← along_snoc, ← hdeeper]
            exact and_iff_right ⟨_, rfl⟩

theorem fullPass (h : Sole files root place trail content) (formats : Formats) :
    FullPass formats files root [opened formats files (along root trail)] := by
  have hplace : files.find? (place ++ []) = some .directory := by
    rw [List.append_nil]
    exact FileTree.find?_of_get h.top
  have htour :
      Tour formats files [] root place [(trail, opened formats files (along root trail))] := by
    refine ⟨List.pairwise_singleton _ _, fun rest outcome => ?_⟩
    have hleads : Leads formats files [] (along root []) (place ++ []) rest outcome ↔ _ :=
      h.leads_iff hplace
    rw [List.append_nil, List.nil_append] at hleads
    change _ ↔ Leads formats files [] (along root []) place rest outcome
    rw [hleads, List.mem_singleton, Prod.mk.injEq]
  exact .directory h.top htour

end Sole

/-! ### The main statement -/

/-- What is read of a document does not depend on what carries it. -/
theorem carrier_unseen {formats : Formats} {Member : List UInt8 → List UInt8 → Prop}
    {Archive : List UInt8 → List ArchiveEntry → Prop} {files : Files} {root : String}
    {parts : List (List UInt8)} (hformats : Unpacks formats Member Archive)
    (h : Carries Member Archive files root parts) (hfirst : ∀ part ∈ parts.tail, part = []) :
    read formats files root none = .ok (passOf parts.flatten) := by
  apply read_of_fullPass
  cases h with
  | file hread hname hholds =>
      rw [← opened_of_holds hformats hread hholds hfirst]
      exact .file (not_directory_of_read hread) hname
  | @tree place trail content _ hsole hholds =>
      have hread : files.read (along root trail) = .ok content := by
        rw [FileTree.read, hsole.get_along hsole.file]
        rfl
      rw [← opened_of_holds hformats hread hholds hfirst]
      exact hsole.fullPass formats
  | @archive data entries entry hread hname hentries honly =>
      have hmembers : members formats files root = [.ok entry.body] := by
        simp [members_eq, hread, Content.data, hformats.archive hentries, honly]
      rw [List.flatten_singleton, ← hmembers]
      exact .archive (not_directory_of_read hread) hname

/-! ### Members that hold a document as it stands -/

def littleEndian : (bytes n : Nat) → List UInt8
  | 0, _ => []
  | bytes + 1, n => .ofNat n :: littleEndian bytes (n / 256)

/-- A member of a compressed file, with the checksum of the short document in it. -/
def stored (doc : List UInt8) (checksum : Nat) : List UInt8 :=
  [0x1F, 0x8B, 8, 0, 0, 0, 0, 0, 0, 0xFF, 1] ++ littleEndian 2 doc.length ++
    littleEndian 2 (65535 - doc.length) ++ doc ++ littleEndian 4 checksum ++
    littleEndian 4 doc.length

/-- A reader of compressed files that have one of these members first. -/
def knowing (known : List (List UInt8 × List UInt8)) : Formats where
  gunzip data := match known.find? (·.1.isPrefixOf data) with
    | some (_, doc) => .ok doc
    | none => .error .notGzip
  entries _ := ([], none)
  geo _ := none
  image _ _ := []

theorem unpacks_knowing {known : List (List UInt8 × List UInt8)}
    (hknown : ∀ a ∈ known, ∀ b ∈ known, a.1 <+: b.1 → a = b) :
    Unpacks (knowing known) (fun packed doc => (packed, doc) ∈ known) (fun _ _ => False) where
  archive h := h.elim
  member {packed doc} hmem rest := by
    have hgunzip : (knowing known).gunzip (packed ++ rest) =
        match known.find? (·.1.isPrefixOf (packed ++ rest)) with
        | some (_, doc) => .ok doc
        | none => .error .notGzip := rfl
    rw [hgunzip]
    cases hfind : known.find? (·.1.isPrefixOf (packed ++ rest)) with
    | none =>
        have hnone := List.find?_eq_none.mp hfind _ hmem
        simp at hnone
    | some found =>
        have hfound := List.mem_of_find?_eq_some hfind
        have htrue := List.find?_some hfind
        have hprefix : found.1 <+: packed ++ rest := List.isPrefixOf_iff_prefix.mp htrue
        -- Of two that are first in the same bytes one is first in the other.
        have hsame : found = (packed, doc) := by
          rcases List.prefix_or_prefix_of_prefix hprefix (List.prefix_append packed rest) with h | h
          · exact hknown _ hfound _ hmem h
          · exact (hknown _ hmem _ hfound h).symm
        rw [hsame]

theorem holds_two {Member : List UInt8 → List UInt8 → Prop} {path : String}
    {packed packed' doc doc' : List UInt8} (hpath : Compressed path) (hfirst : Member packed doc)
    (hsecond : Member packed' doc') :
    Holds Member path (.bytes (packed ++ packed')) [doc, doc'] := by
  have hmembers : List.Forall₂ Member [packed, packed'] [doc, doc'] :=
    .cons hfirst (.cons hsecond .nil)
  have hholds := Holds.compressed hpath (List.cons_ne_nil _ _) hmembers
  rwa [List.flatten_cons, List.flatten_singleton] at hholds

/-- Alone in two directories is a compressed file, of which the second member is empty. -/
theorem carrier_unseen_nested :
    let doc := Utf8.encode (Text.ended (["router b 5.6.7.8 9001 0 0", "-----END SIGNATURE-----",
      "router a 1.2.3.4 9001 0 0", "published 2020-03-02 10:00:00",
      "fingerprint AAAAAAAAAAAAAAAAAAAAAAAAAAAAAAAAAAAAAAAA",
      "-----END SIGNATURE-----"].map String.toList))
    let known := [(stored doc 0xC852571C, doc), (stored [] 0, [])]
    let Member := fun packed doc => (packed, doc) ∈ known
    let Archive := fun (_ : List UInt8) (_ : List ArchiveEntry) => False
    let files : Files := .put (.put (.put {} ["a"] .directory) ["a", "b"] .directory)
      ["a", "b", "c.gz"] (.file (.bytes (stored doc 0xC852571C ++ stored [] 0)))
    Unpacks (knowing known) Member Archive ∧ Carries Member Archive files "a" [doc, []] ∧
      (∀ part ∈ [doc, []].tail, part = []) ∧
      ∃ pass, read (knowing known) files "a" none = .ok pass ∧ pass.stats = ⟨1, 1, 1⟩ := by
  intro doc known Member Archive files
  have hcounts : (passOf [doc, []].flatten).stats = ⟨1, 1, 1⟩ := by
    rw [List.flatten_cons, List.flatten_singleton, List.append_nil, passOf, readDocument,
      Utf8.decodeLossy_encode]
    decide +kernel
  have hknown : ∀ a ∈ known, ∀ b ∈ known, a.1 <+: b.1 → a = b := by
    decide +kernel
  clear_value doc
  have hplaces : files.places = [[], ["a"], ["a", "b"], ["a", "b", "c.gz"]] := rfl
  have hsole : Sole files "a" ["a"] ["b", "c.gz"]
      (.bytes (stored doc 0xC852571C ++ stored [] 0)) := by
    have htop : files.get "a" = .ok (["a"], .directory) :=
      FileTree.get_direct (by decide) rfl rfl (by simp)
    have hbelow : ∀ names, ["a"] ++ names ∈ files.places →
        names = [] ∨ names = ["b"] ∨ names = ["b", "c.gz"] := by
      intro names hmem
      rw [hplaces] at hmem
      simpa using hmem
    refine ⟨⟨?names, ?above, rfl⟩, htop, rfl, ?only, ?short⟩
    case names =>
      rw [hplaces]
      decide
    case above =>
      rw [hplaces]
      simp only [List.forall_mem_cons]
      exact ⟨rfl, rfl, rfl, rfl, nofun⟩
    case only =>
      intro names hmem
      rcases hbelow names hmem with rfl | rfl | rfl
      · exact .inr rfl
      · exact .inr rfl
      · exact .inl rfl
    case short =>
      intro names hmem
      rcases hbelow names hmem with rfl | rfl | rfl <;> decide
  have hcarries : Carries Member Archive files "a" [doc, []] := by
    have hname : Compressed (along "a" ["b", "c.gz"]) := by decide
    exact .tree hsole (holds_two hname List.mem_cons_self
      (List.mem_cons_of_mem _ List.mem_cons_self))
  have hfirst : ∀ part ∈ [doc, []].tail, part = [] := by simp
  have hformats : Unpacks (knowing known) Member Archive := unpacks_knowing hknown
  exact ⟨hformats, hcarries, hfirst, _, carrier_unseen hformats hcarries hfirst, hcounts⟩

/-- A descriptor in the second member of a compressed file is not read. -/
theorem second_member_unread :
    let text := fun fp : String => Text.ended (["router a 1.2.3.4 9001 0 0",
      "published 2020-03-02 10:00:00", "fingerprint " ++ fp,
      "-----END SIGNATURE-----"].map String.toList)
    let first := Utf8.encode (text "AAAAAAAAAAAAAAAAAAAAAAAAAAAAAAAAAAAAAAAA")
    let second := Utf8.encode (text "BBBBBBBBBBBBBBBBBBBBBBBBBBBBBBBBBBBBBBBB")
    let known := [(stored first 0x95309A1E, first), (stored second 0xB87097D9, second)]
    let Member := fun packed doc => (packed, doc) ∈ known
    let Archive := fun (_ : List UInt8) (_ : List ArchiveEntry) => False
    let files : Files := .put {} ["a.gz"]
      (.file (.bytes (stored first 0x95309A1E ++ stored second 0xB87097D9)))
    Unpacks (knowing known) Member Archive ∧ Carries Member Archive files "a.gz" [first, second] ∧
      (passOf [first, second].flatten).stats = ⟨1, 2, 0⟩ ∧
      read (knowing known) files "a.gz" none = .ok (passOf first) ∧
      (passOf first).stats = ⟨1, 1, 0⟩ := by
  intro text first second known Member Archive files
  have hflat : [first, second].flatten = first ++ second := by simp
  have hboth : (passOf [first, second].flatten).stats = ⟨1, 2, 0⟩ := by
    rw [hflat, ← Utf8.encode_append, passOf, readDocument, Utf8.decodeLossy_encode]
    decide +kernel
  have hone : (passOf first).stats = ⟨1, 1, 0⟩ := by
    rw [passOf, readDocument, Utf8.decodeLossy_encode]
    decide +kernel
  have hknown : ∀ a ∈ known, ∀ b ∈ known, a.1 <+: b.1 → a = b := by
    decide +kernel
  clear_value first second
  have hformats : Unpacks (knowing known) Member Archive := unpacks_knowing hknown
  have hread : files.read "a.gz" =
      .ok (.bytes (stored first 0x95309A1E ++ stored second 0xB87097D9)) :=
    FileTree.read_direct (show Path.Direct "a.gz" "a.gz" by decide) rfl rfl
  have hname : Compressed "a.gz" := by decide
  refine ⟨hformats, ?_, hboth, read_of_fullPass ?_, hone⟩
  · exact .file hread (by decide) (holds_two hname List.mem_cons_self
      (List.mem_cons_of_mem _ List.mem_cons_self))
  · rw [← opened_of_first hformats hread hname List.mem_cons_self]
    exact .file (not_directory_of_read hread) (by decide)

end Source

end RelaySnapshot
