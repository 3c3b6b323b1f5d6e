import RelaySnapshot.Proofs.Descriptor.KeywordLines

namespace RelaySnapshot

theorem mapM_eq_some_iff {α β : Type} {f : α → Option β} {l : List α} {values : List β} :
    l.mapM f = some values ↔ l.map f = values.map some := by
  induction l generalizing values with
  | nil => cases values <;> simp
  | cons a l ih =>
      rw [List.mapM_cons, List.map_cons]
      cases values with
      | nil => cases f a <;> cases l.mapM f <;> simp
      | cons b values =>
          rw [List.map_cons, List.cons.injEq, ← ih]
          cases f a <;> cases l.mapM f <;> simp

theorem Decimal.lt_of_read? {bound n : Nat} {s : Text} (h : Decimal.read? bound s = some n) :
    n < bound := by
  unfold Decimal.read? at h
  dsimp only at h
  split_ifs at h with _ hlt
  exact Option.some.inj h ▸ hlt

theorem Text.trim_eq_nil_iff {s : Text} : trim s = [] ↔ ∀ c ∈ s, isBlank c = true := by
  rw [trim, trimEnd, List.reverse_eq_nil_iff, List.dropWhile_eq_nil_iff]
  simp only [List.mem_reverse]
  constructor
  · intro h c hc
    rw [← List.takeWhile_append_dropWhile (p := isBlank) (l := s)] at hc
    rcases List.mem_append.mp hc with hc | hc
    · exact List.all_eq_true.mp List.all_takeWhile c hc
    · exact h c hc
  · exact fun h c hc => h c (List.dropWhile_subset _ hc)

namespace Descriptor

open Text

def TellsRouter (arguments : Text) (nickname : String) (address : Address) : Prop :=
  ∃ word rest, words arguments = nickname.toList :: word :: rest ∧
    Address.read? word = some address

def TellsBandwidth (arguments : Text) (bandwidth : Bandwidth) : Prop :=
  (words arguments).map (Decimal.read? (Nat.pow 2 64)) =
    [some bandwidth.average.toNat, some bandwidth.burst.toNat, some bandwidth.observed.toNat]

def TellsHibernating (arguments : Text) (hibernating : Bool) : Prop :=
  trim arguments = [if hibernating then '1' else '0']

/-- A version and a system as in `Tor <version> on <system>`, or else the system alone. -/
def TellsPlatform (arguments : Text) (version system : String) : Prop :=
  (∃ rest before after, trim arguments = "Tor ".toList ++ rest ∧
    CutsFirst " on ".toList rest before after ∧ version = String.ofList (trim before) ∧
    system = String.ofList (trim after)) ∨
  (¬∃ before after, trim arguments = "Tor ".toList ++ (before ++ (" on ".toList ++ after))) ∧
    version = "" ∧ system = String.ofList (trim arguments)

theorem readRouter?_eq_some_iff {arguments : Text} {nickname : String} {address : Address} :
    readRouter? arguments = some (nickname, address) ↔ TellsRouter arguments nickname address := by
  constructor
  · intro h
    rw [readRouter?] at h
    split at h
    · rename_i name word rest hwords
      obtain ⟨found, hfound, heq⟩ := Option.map_eq_some_iff.mp h
      cases heq
      exact ⟨word, rest, by rw [hwords, String.toList_ofList], hfound⟩
    · cases h
  · rintro ⟨word, rest, hwords, haddress⟩
    rw [readRouter?, hwords]
    simp [haddress]

theorem readBandwidth?_eq_some_iff {arguments : Text} {bandwidth : Bandwidth} :
    readBandwidth? arguments = some bandwidth ↔ TellsBandwidth arguments bandwidth := by
  rw [TellsBandwidth]
  constructor
  · intro h
    rw [readBandwidth?] at h
    split at h
    · rename_i average burst observed hvalues
      have hmap := mapM_eq_some_iff.mp hvalues
      have hlt (n : Nat) (hn : some n ∈ [average, burst, observed].map some) :
          n < Nat.pow 2 64 := by
        rw [← hmap] at hn
        obtain ⟨word, -, hword⟩ := List.mem_map.mp hn
        exact Decimal.lt_of_read? hword
      cases h
      rw [hmap]
      simp [UInt64.toNat_ofNat_of_lt' (hlt average (by simp)),
        UInt64.toNat_ofNat_of_lt' (hlt burst (by simp)),
        UInt64.toNat_ofNat_of_lt' (hlt observed (by simp))]
    · cases h
  · intro h
    have hvalues : (words arguments).mapM (Decimal.read? (Nat.pow 2 64)) =
        some [bandwidth.average.toNat, bandwidth.burst.toNat, bandwidth.observed.toNat] :=
      mapM_eq_some_iff.mpr h
    rw [readBandwidth?, hvalues]
    simp

theorem readFlag?_eq_some_iff {arguments : Text} {hibernating : Bool} :
    readFlag? arguments = some hibernating ↔ TellsHibernating arguments hibernating := by
  rw [readFlag?, TellsHibernating]
  split <;> cases hibernating <;> simp_all

theorem splitPlatform_eq_iff {arguments : Text} {version system : String} :
    (String.ofList (splitPlatform arguments).1 = version ∧
      String.ofList (splitPlatform arguments).2 = system) ↔
        TellsPlatform arguments version system := by
  have hmark : " on ".toList ≠ [] := by decide
  rw [splitPlatform, TellsPlatform]
  generalize trim arguments = arguments
  -- Which marks they are does not matter, as long as there is something to cut at.
  generalize " on ".toList = mark at hmark ⊢
  generalize "Tor ".toList = start
  cases hstart : dropLeading? start arguments with
  | none =>
      have hnot (rest : Text) : arguments ≠ start ++ rest := by
        intro h
        rw [← dropLeading?_eq_some_iff, hstart] at h
        cases h
      simp [hnot, eq_comm]
  | some rest =>
      have hrest (rest' : Text) : arguments = start ++ rest' ↔ rest = rest' := by
        rw [← dropLeading?_eq_some_iff, hstart, Option.some_inj]
      cases hcut : cutAt mark rest with
      | none =>
          have hspec := cutAt_spec hmark rest
          rw [hcut] at hspec
          have hnot (before after : Text) : ¬CutsFirst mark rest before after :=
            fun h => hspec before after h.eq
          simp [hrest, hnot, hspec, hcut, eq_comm]
      | some parts =>
          obtain ⟨before, after⟩ := parts
          have hfirst := (cutAt_eq_some_iff hmark).mp hcut
          rw [Option.bind_some, hcut]
          constructor
          · rintro ⟨rfl, rfl⟩
            exact .inl ⟨rest, before, after, (hrest rest).mpr rfl, hfirst, rfl, rfl⟩
          · rintro (⟨rest', before', after', heq, hcuts, rfl, rfl⟩ | ⟨hnot, -⟩)
            · obtain rfl := (hrest rest').mp heq
              obtain ⟨rfl, rfl⟩ := hfirst.unique hcuts
              exact ⟨rfl, rfl⟩
            · exact absurd ⟨before, after, (hrest _).mpr hfirst.eq⟩ hnot

/-- The arguments that a line of a keyword may have. -/
def Keyword.Accepts (arguments : Text) : Keyword → Prop
  | .router => ∃ nickname address, TellsRouter arguments nickname address
  | .published => ∃ t, Timestamp.read (trim arguments) = .ok t
  | .fingerprint => ∃ fingerprint, Fingerprint.parse (String.ofList arguments) = .ok fingerprint
  | .bandwidth => ∃ bandwidth, TellsBandwidth arguments bandwidth
  | .hibernating => ∃ hibernating, TellsHibernating arguments hibernating
  | .accept | .reject => ∃ c ∈ arguments, isBlank c = false
  | .platform | .family => True

def Keyword.fault (keyword : Keyword) (arguments : Text) : ReadError :=
  match keyword with
  | .fingerprint => .fingerprint ⟨String.ofList arguments⟩
  | _ => .malformed keyword (String.ofList arguments)

end Descriptor

end RelaySnapshot
