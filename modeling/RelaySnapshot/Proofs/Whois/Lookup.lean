import RelaySnapshot.Proofs.Text.Utf8
import RelaySnapshot.Proofs.Whois.Response

/-!
# Lookups in batches

A lookup cuts its addresses into batches and drops repeated answers twice: in each response, and
once more where two responses meet. What was dropped is told from the last address alone, so this
comes to the same as dropping them once in the answers for all addresses.
-/

namespace RelaySnapshot.Whois

open Text

/-! ### Dropping repeats -/

/-- The address of the last answer, given the one before the first. -/
def lastAddress (last : Option Address) (answers : List Answer) : Option Address :=
  answers.foldl (fun _ answer => some answer.address) last

theorem fresh_append (last : Option Address) (l l' : List Answer) :
    fresh last (l ++ l') = fresh last l ++ fresh (lastAddress last l) l' := by
  induction l generalizing last with
  | nil => rfl
  | cons answer l ih =>
      rw [List.cons_append, fresh, fresh, lastAddress, List.foldl_cons]
      split
      next hrepeat => rw [ih, hrepeat, lastAddress]
      next => rw [ih, List.cons_append, lastAddress]

/-- Repeats can be dropped beforehand, as long as no more is taken for one than in the end. -/
theorem fresh_fresh {last last' : Option Address} (h : last' = none ∨ last' = last)
    (l : List Answer) :
    fresh last (fresh last' l) = fresh last l ∧
      lastAddress last (fresh last' l) = lastAddress last l := by
  -- The two last addresses agree from the first answer that is kept.
  induction l generalizing last last' with
  | nil => exact ⟨rfl, rfl⟩
  | cons answer l ih =>
      rw [fresh]
      split
      next hrepeat =>
        obtain rfl : last' = last := h.resolve_left (by simp [hrepeat])
        obtain ⟨hfresh, hlast⟩ := ih (.inr rfl)
        rw [hfresh, hlast, fresh, if_pos hrepeat, lastAddress, lastAddress, List.foldl_cons,
          hrepeat]
        exact ⟨rfl, rfl⟩
      next =>
        have hsame : some answer.address = none ∨ some answer.address = some answer.address :=
          .inr rfl
        obtain ⟨hfresh, hlast⟩ := ih hsame
        refine ⟨?_, ?_⟩
        · rw [fresh, fresh]
          split
          next hrepeat => rw [hrepeat, hfresh]
          next => rw [hfresh]
        · rw [lastAddress, lastAddress, List.foldl_cons, List.foldl_cons]
          exact hlast

theorem fresh_flatMap (last : Option Address) (ls : List (List Answer)) :
    fresh last (ls.flatMap (fresh none)) = fresh last ls.flatten := by
  induction ls generalizing last with
  | nil => rfl
  | cons l ls ih =>
      have hnone : (none : Option Address) = none ∨ none = last := .inl rfl
      obtain ⟨hfresh, hlast⟩ := fresh_fresh hnone l
      rw [List.flatMap_cons, List.flatten_cons, fresh_append, fresh_append, hfresh, hlast, ih]

theorem withoutRepeats_cons (answer : Answer) (l : List Answer) :
    withoutRepeats (answer :: l) = answer :: fresh (some answer.address) l := by
  induction l generalizing answer with
  | nil => rw [withoutRepeats, fresh]
  | cons next l ih =>
      rw [withoutRepeats, fresh, ih, ih]
      by_cases hrepeat : answer.address = next.address <;> simp [hrepeat]

theorem withoutRepeats_eq_fresh (l : List Answer) : withoutRepeats l = fresh none l := by
  cases l with
  | nil => rw [withoutRepeats, fresh]
  | cons answer l =>
      rw [withoutRepeats_cons, fresh]
      rfl

theorem destutter'_eq_cons_fresh (answer : Answer) (l : List Answer) :
    l.destutter' (fun a b => a.address ≠ b.address) answer =
      answer :: fresh (some answer.address) l := by
  induction l generalizing answer with
  | nil => rfl
  | cons next l ih =>
      rw [List.destutter'_cons, ih, ih, fresh]
      by_cases hrepeat : answer.address = next.address <;> simp [hrepeat]

theorem destutter_eq_fresh (l : List Answer) :
    l.destutter (fun a b => a.address ≠ b.address) = fresh none l := by
  cases l with
  | nil => rfl
  | cons answer l =>
      rw [List.destutter_cons', destutter'_eq_cons_fresh, fresh]
      rfl

/-! ### Batches -/

variable {α : Type}

theorem batches_nil (size : Nat) : batches size ([] : List α) = [] := by
  rw [batches]
  rfl

theorem batches_of_ne_nil (size : Nat) {items : List α} (h : items ≠ []) :
    batches size items =
      items.take (max size 1) :: batches size (items.drop (max size 1)) := by
  rw [batches, if_neg (by simpa using h)]

theorem flatten_batches (size : Nat) (items : List α) : (batches size items).flatten = items := by
  induction items using batches.induct size with
  | case1 items hempty =>
      cases List.isEmpty_iff.mp hempty
      rw [batches_nil, List.flatten_nil]
  | case2 items hempty ih =>
      rw [batches_of_ne_nil size (by simpa using hempty), List.flatten_cons, ih,
        List.take_append_drop]

theorem length_of_mem_batches (size : Nat) (items : List α) :
    ∀ batch ∈ batches size items, 1 ≤ batch.length ∧ batch.length ≤ max size 1 := by
  induction items using batches.induct size with
  | case1 items hempty =>
      cases List.isEmpty_iff.mp hempty
      simp [batches_nil]
  | case2 items hempty ih =>
      have hne : items ≠ [] := by simpa using hempty
      have hpos := List.length_pos_of_ne_nil hne
      rw [batches_of_ne_nil size hne, List.forall_mem_cons, List.length_take]
      exact ⟨by omega, ih⟩

/-! ### The queries and their answers -/

/-- The lines of a query are those of the addresses of a batch, between a first and a last one. -/
def Frames (query : Text) (batch : List Address) : Prop :=
  lines query = "begin".toList :: batch.map Address.write ++ ["end".toList, []]

theorem ended_frame (first last : Text) (batch : List Address) :
    ended (first :: batch.map Address.write ++ [last]) =
      (first ++ ['\n']) ++ batch.flatMap (fun address => address.write ++ ['\n']) ++
        (last ++ ['\n']) := by
  simp [ended, List.flatMap_map]

theorem frames_query (batch : List Address) : Frames (query batch) batch := by
  have hquery : query batch =
      ended ("begin".toList :: batch.map Address.write ++ ["end".toList]) := by
    have hbegin : "begin\n".toList = "begin".toList ++ ['\n'] := by decide
    have hend : "end\n".toList = "end".toList ++ ['\n'] := by decide
    exact (congrArg₂ (fun first last => first ++ batch.flatMap _ ++ last) hbegin hend).trans
      (ended_frame _ _ batch).symm
  have hfeed : ∀ line ∈ "begin".toList :: batch.map Address.write ++ ["end".toList],
      '\n' ∉ line := by
    intro line hmem
    rcases List.mem_append.mp hmem with hmem | hmem
    · rcases List.mem_cons.mp hmem with rfl | hmem
      · decide
      · obtain ⟨address, -, rfl⟩ := List.mem_map.mp hmem
        exact address.bare_write.no_feed
    · rw [List.mem_singleton.mp hmem]
      decide
  have hlines := lines_ended_append hfeed []
  rw [List.append_nil, lines_nil, List.append_assoc] at hlines
  rw [Frames, hquery, hlines]
  rfl

namespace Directory

/-- A server can be reached that answers every query, the text of its response in bytes. -/
structure Serves (directory : Directory) (network : Network) (registry : Registry) : Prop where
  connects : ∃ endpoint, Endpoint.read registry.endpoint = .ok endpoint ∧
    network.connect endpoint = .ok ()
  responds : ∀ n batch, ∃ response, Responds directory batch response ∧
    network.reply n (query batch) = .data (Utf8.encode response)

/-- What is known of the announced addresses, once for a run of equal ones. -/
def answers (directory : Directory) (addresses : List Address) : List Answer :=
  (addresses.filterMap directory.answer?).destutter fun a b => a.address ≠ b.address

variable {directory : Directory} {network : Network} {registry : Registry}

theorem Serves.connect_eq (h : directory.Serves network registry) :
    registry.connect network = .ok () := by
  obtain ⟨endpoint, hread, hconnect⟩ := h.connects
  rw [Registry.connect, hread]
  change (network.connect endpoint).mapError _ = _
  rw [hconnect]
  rfl

theorem Serves.receive_reply (h : directory.Serves network registry) (n : Nat)
    (batch : List Address) :
    registry.receive (network.reply n (query batch)) =
      .ok (fresh none (batch.filterMap directory.answer?)) := by
  obtain ⟨response, hresponds, hreply⟩ := h.responds n batch
  rw [hreply, Registry.receive, Utf8.decode?_encode]
  dsimp only
  rw [readResponse_of_responds hresponds]

theorem Serves.converse_eq (h : directory.Serves network registry) (n : Nat)
    (bs : List (List Address)) :
    registry.converse network n bs =
      ⟨bs.map query, .ok (bs.flatMap fun batch =>
        fresh none (batch.filterMap directory.answer?))⟩ := by
  induction bs generalizing n with
  | nil => rfl
  | cons batch bs ih =>
      rw [Registry.converse, h.connect_eq]
      dsimp only
      rw [h.receive_reply]
      dsimp only
      rw [ih]
      rfl

/--
Whatever the size of the batches, a lookup gives the answers for its addresses, and its queries
frame batches of at most that size which make up the addresses.
-/
theorem lookup_of_serves (h : directory.Serves network registry) (addresses : List Address) :
    registry.lookup network addresses = .ok (directory.answers addresses) ∧
      (∃ chunks : List (List Address), chunks.flatten = addresses ∧
        (∀ chunk ∈ chunks, 1 ≤ chunk.length ∧ chunk.length ≤ max registry.batchSize 1) ∧
        List.Forall₂ Frames (registry.conversation network addresses).sent chunks) ∧
      (addresses = [] → (registry.conversation network addresses).sent = []) := by
  have hconversation := h.converse_eq 0 (batches registry.batchSize addresses)
  refine ⟨?_, ⟨batches registry.batchSize addresses, flatten_batches _ _,
    length_of_mem_batches _ _, ?_⟩, ?_⟩
  · have hanswers : ((batches registry.batchSize addresses).flatMap fun batch =>
        fresh none (batch.filterMap directory.answer?)) =
          ((batches registry.batchSize addresses).map
            (List.filterMap directory.answer?)).flatMap (fresh none) := by
      rw [List.flatMap_map]
    rw [Registry.lookup, Registry.conversation, hconversation]
    change Except.ok (withoutRepeats _) = _
    rw [withoutRepeats_eq_fresh, hanswers, fresh_flatMap, ← List.filterMap_flatten,
      flatten_batches, answers, destutter_eq_fresh]
  · rw [Registry.conversation, hconversation, List.forall₂_map_left_iff, List.forall₂_same]
    exact fun batch _ => frames_query batch
  · rintro rfl
    rw [Registry.conversation, batches_nil]
    rfl

/-! ### A server -/

/-- What a list of addresses with numbers and names says. -/
def ofEntries (entries : List (Address × UInt32 × Text))
    (h : ∀ entry ∈ entries, Bare entry.2.2) : Directory where
  announced address := entries.lookup address
  bare address number name hlookup := by
    obtain ⟨before, after, rfl, -⟩ := List.lookup_eq_some_iff.mp hlookup
    exact h (address, number, name) (by simp)

def line (directory : Directory) (address : Address) : Text :=
  match directory.announced address with
  | some (number, name) =>
    Decimal.write number.toNat ++ '|' :: (' ' :: address.write ++ '|' :: '\t' :: name)
  | none => "NA".toList ++ '|' :: (' ' :: address.write ++ '|' :: '\t' :: "NA".toList)

/-- A network with a server that answers the queries it can read, with a banner and no more. -/
def server (directory : Directory) : Network where
  connect _ := .ok ()
  reply _ query :=
    let asked := (lines query).tail.filterMap Address.read?
    .data (Utf8.encode (ended ("Bulk mode".toList :: asked.map directory.line)))

theorem says_line (directory : Directory) (address : Address) :
    directory.Says address (directory.line address) := by
  have hpadded {column : Text} (before : Text) (hbefore : before = [] ∨ before = [' '] ∨
      before = ['\t']) : Padded column (before ++ column) := by
    refine ⟨before, [], ?_, by simp⟩
    rcases hbefore with rfl | rfl | rfl <;> simp [isBlank]
  have hshows (first name : Text) :
      Shows first address.write name
        (first ++ '|' :: (' ' :: address.write ++ '|' :: '\t' :: name)) :=
    ⟨first, ' ' :: address.write, '\t' :: name, hpadded [] (by simp), hpadded [' '] (by simp),
      hpadded ['\t'] (by simp), rfl⟩
  have hbare : Bare "NA".toList := bare_of_forall (by simp [isBlank])
  have hnumeral : ¬Decimal.IsNumeral "NA".toList := by
    rintro ⟨digits, -, hdigits, heq | heq⟩
    · exact absurd (hdigits 'N' (by simp [← heq])) (by decide)
    · cases heq
  rw [line]
  cases hannounced : directory.announced address with
  | none => exact .unannounced hannounced hbare hnumeral hbare (hshows _ _)
  | some entry =>
      obtain ⟨number, name⟩ := entry
      exact .announced hannounced (hshows _ _)

theorem body_map_line (directory : Directory) (addresses : List Address) :
    directory.Body addresses (addresses.map directory.line) := by
  induction addresses with
  | nil => exact .nil
  | cons address addresses ih => exact .line (directory.says_line address) ih

theorem serves_server (directory : Directory) {registry : Registry} {endpoint : Endpoint}
    (h : Endpoint.read registry.endpoint = .ok endpoint) :
    directory.Serves directory.server registry where
  connects := ⟨endpoint, h, rfl⟩
  responds n batch := by
    have hasked : (lines (query batch)).tail.filterMap Address.read? = batch := by
      have hread : Address.read? ∘ Address.write = some := funext Address.read?_write
      have hend : ["end".toList, []].filterMap Address.read? = [] := by decide
      rw [frames_query, List.cons_append, List.tail_cons, List.filterMap_append,
        List.filterMap_map, hread, List.filterMap_some, hend, List.append_nil]
    refine ⟨_, ⟨"Bulk mode".toList, batch.map directory.line, by decide,
      directory.body_map_line batch, rfl⟩, ?_⟩
    rw [server]
    dsimp only
    rw [hasked]

/-- The second batch begins with the address that the first one ends with, but for one of nobody. -/
theorem lookup_of_serves_pairs :
    let a : Address := .v4 0x08080808
    let b : Address := .v4 0x12000001
    let nobody : Address := .v4 0x0A000001
    let directory := ofEntries [(a, 15169, "GOOGLE".toList), (b, 3, "MIT".toList)]
      (by simp only [List.forall_mem_cons]; exact ⟨bare_of_forall (by simp [isBlank]),
        bare_of_forall (by simp [isBlank]), by simp⟩)
    let registry : Registry := ⟨"localhost:43", 2, 300000⟩
    directory.Serves directory.server registry ∧
      registry.lookup directory.server [b, a, nobody, a, b] =
        .ok [⟨3, "MIT", b⟩, ⟨15169, "GOOGLE", a⟩, ⟨3, "MIT", b⟩] := by
  intro a b nobody directory registry
  have hendpoint : Endpoint.read registry.endpoint = .ok ⟨"localhost".toList, 43⟩ := by
    change Endpoint.read "localhost:43" = _
    rw [Endpoint.read]
    rfl
  have hserves : directory.Serves directory.server registry := serves_server directory hendpoint
  refine ⟨hserves, ?_⟩
  rw [(lookup_of_serves hserves [b, a, nobody, a, b]).1]
  rfl

end Directory

end RelaySnapshot.Whois
