import Mathlib.Data.List.Induction
import RelaySnapshot.Proofs.Descriptor.Arguments
import RelaySnapshot.Proofs.Fingerprint.Lookup

/-!
# What a descriptor text tells

A text is read line by line into a draft, with an early end at the first line that is malformed. The
draft after some lines can be told from the lines as a whole: from the first router line, from the
last line of most other keywords, and from all lines of the exit policy and the family. So whether
reading succeeds, what it gives, and which error it reports, do not need the draft to be stated.
-/

namespace RelaySnapshot.Descriptor

open Text

/-! ### What many lines say -/

/-- The arguments of the lines of a keyword. -/
def said (keyword : Keyword) (ls : List Line) : List Text :=
  (ls.filter fun line => line.word = keyword.text.toList).map (·.arguments)

def Line.rule? (line : Line) : Option ExitRule :=
  if line.word = Keyword.accept.text.toList then
    some ⟨.accept, String.ofList (trim line.arguments)⟩
  else if line.word = Keyword.reject.text.toList then
    some ⟨.reject, String.ofList (trim line.arguments)⟩
  else none

/-- The first router line and all lines of other keywords have arguments that they may have. -/
structure Sound (ls : List Line) : Prop where
  router : ∀ arguments ∈ (said .router ls).head?, Keyword.router.Accepts arguments
  others : ∀ keyword, keyword ≠ .router → ∀ arguments ∈ said keyword ls, keyword.Accepts arguments

/-- A line that has to have other arguments, given the lines before it. -/
structure Faulty (before : List Line) (line : Line) (keyword : Keyword) : Prop where
  word : line.word = keyword.text.toList
  arguments : ¬keyword.Accepts line.arguments
  first : keyword = .router → said .router before = []

/-- What the last line of a keyword says, if there is one. -/
def lastTold {α : Type} (read : Text → Option α) (keyword : Keyword) (ls : List Line) : Option α :=
  (said keyword ls).getLast?.bind read

def platformOf (ls : List Line) : Text × Text :=
  ((said .platform ls).getLast?.map splitPlatform).getD ([], [])

/-- What is known after sound lines. -/
def draftOf (ls : List Line) : Draft where
  router := (said .router ls).head?.bind readRouter?
  published := lastTold (fun arguments => (Timestamp.read (trim arguments)).toOption) .published ls
  fingerprint := lastTold (fun arguments => (Fingerprint.parse (String.ofList arguments)).toOption)
    .fingerprint ls
  bandwidth := (lastTold readBandwidth? .bandwidth ls).getD {}
  platform := String.ofList (platformOf ls).2
  version := String.ofList (platformOf ls).1
  hibernating := (lastTold readFlag? .hibernating ls).getD false
  exitPolicy := ls.filterMap Line.rule?
  family := .ofList ((said .family ls).flatMap fun arguments =>
    (words arguments).filterMap Fingerprint.ofFamilyToken?)

section Append

variable {ls : List Line} {line : Line} {keyword : Keyword}

theorem text_eq_iff {other : Keyword} :
    keyword.text.toList = other.text.toList ↔ keyword = other := by
  constructor
  · intro h
    exact Option.some.inj ((Keyword.ofText?_eq_some_iff.mpr rfl).symm.trans
      (Keyword.ofText?_eq_some_iff.mpr h))
  · exact fun h => h ▸ rfl

theorem said_append (hword : line.word = keyword.text.toList) (other : Keyword) :
    said other (ls ++ [line]) =
      said other ls ++ if keyword = other then [line.arguments] else [] := by
  rw [said, List.filter_append, List.map_append, said]
  congr 1
  by_cases heq : keyword = other <;> simp [hword, text_eq_iff, heq]

theorem word_ne_of_unknown (hword : Keyword.ofText? line.word = none) (other : Keyword) :
    line.word ≠ other.text.toList := by
  intro h
  rw [← Keyword.ofText?_eq_some_iff, hword] at h
  cases h

theorem said_append_of_unknown (hword : Keyword.ofText? line.word = none) (other : Keyword) :
    said other (ls ++ [line]) = said other ls := by
  rw [said, List.filter_append, List.map_append, said]
  simp [word_ne_of_unknown hword]

theorem sound_append_of_unknown (hword : Keyword.ofText? line.word = none) :
    Sound (ls ++ [line]) ↔ Sound ls := by
  have hsaid : ∀ other, said other (ls ++ [line]) = said other ls := said_append_of_unknown hword
  constructor
  · intro h
    exact ⟨hsaid .router ▸ h.router, fun other => hsaid other ▸ h.others other⟩
  · intro h
    exact ⟨(hsaid .router).symm ▸ h.router, fun other => (hsaid other).symm ▸ h.others other⟩

theorem Sound.of_append (hword : line.word = keyword.text.toList) (h : Sound (ls ++ [line])) :
    Sound ls where
  router := by
    intro arguments hmem
    apply h.router
    rw [said_append hword, List.head?_append, hmem]
    rfl
  others := by
    intro other hother arguments hmem
    apply h.others other hother
    rw [said_append hword]
    exact List.mem_append_left _ hmem

theorem Sound.accepts_last (hword : line.word = keyword.text.toList) (h : Sound (ls ++ [line]))
    (hfirst : keyword = .router → said .router ls = []) : keyword.Accepts line.arguments := by
  by_cases hrouter : keyword = .router
  · subst hrouter
    apply h.router
    rw [said_append hword, hfirst rfl]
    rfl
  · apply h.others keyword hrouter
    rw [said_append hword, if_pos rfl]
    exact List.mem_append_right _ (List.mem_singleton_self _)

theorem Sound.append (hword : line.word = keyword.text.toList) (h : Sound ls)
    (hline : (keyword = .router → said .router ls = []) → keyword.Accepts line.arguments) :
    Sound (ls ++ [line]) where
  router := by
    intro arguments hmem
    rw [said_append hword] at hmem
    cases hrouters : said .router ls with
    | nil =>
        rw [hrouters, List.nil_append] at hmem
        split at hmem
        · rename_i hrouter
          cases Option.some.inj hmem
          exact hrouter ▸ hline fun _ => hrouters
        · cases hmem
    | cons first rest =>
        -- A later router line is not looked at.
        apply h.router
        rw [hrouters] at hmem ⊢
        exact hmem
  others := by
    intro other hother arguments hmem
    rw [said_append hword] at hmem
    rcases List.mem_append.mp hmem with hmem | hmem
    · exact h.others other hother arguments hmem
    · split at hmem
      · rename_i heq
        rw [List.mem_singleton.mp hmem, ← heq]
        exact hline fun hrouter => absurd (heq ▸ hrouter) hother
      · cases hmem

theorem forall_not_faulty_iff (hword : line.word = keyword.text.toList) :
    (∀ other, ¬Faulty ls line other) ↔
      ((keyword = .router → said .router ls = []) → keyword.Accepts line.arguments) := by
  constructor
  · intro h hfirst
    by_contra hnot
    exact h keyword ⟨hword, hnot, hfirst⟩
  · intro h other hfaulty
    obtain rfl := text_eq_iff.mp (hword.symm.trans hfaulty.word)
    exact hfaulty.arguments (h hfaulty.first)

theorem sound_append_iff :
    Sound (ls ++ [line]) ↔ Sound ls ∧ ∀ keyword, ¬Faulty ls line keyword := by
  cases hkeyword : Keyword.ofText? line.word with
  | none =>
      have hnone (keyword : Keyword) : ¬Faulty ls line keyword :=
        fun hfaulty => word_ne_of_unknown hkeyword keyword hfaulty.word
      rw [sound_append_of_unknown hkeyword]
      exact (and_iff_left hnone).symm
  | some keyword =>
      have hword := Keyword.ofText?_eq_some_iff.mp hkeyword
      rw [forall_not_faulty_iff hword]
      constructor
      · exact fun h => ⟨h.of_append hword, h.accepts_last hword⟩
      · exact fun ⟨h, hline⟩ => h.append hword hline

theorem draftOf_append_of_unknown (hword : Keyword.ofText? line.word = none) :
    draftOf (ls ++ [line]) = draftOf ls := by
  simp [draftOf, lastTold, platformOf, said_append_of_unknown hword, Line.rule?,
    word_ne_of_unknown hword]

theorem add_draftOf (hword : line.word = keyword.text.toList)
    (haccepts : keyword.Accepts line.arguments)
    (hfirst : keyword = .router → said .router ls = []) :
    (draftOf ls).add keyword line.arguments = .ok (draftOf (ls ++ [line])) := by
  have hrule : line.rule? =
      if keyword = .accept then some ⟨.accept, String.ofList (trim line.arguments)⟩
      else if keyword = .reject then some ⟨.reject, String.ofList (trim line.arguments)⟩
      else none := by
    simp only [Line.rule?, hword, text_eq_iff]
  simp only [draftOf, lastTold, platformOf, said_append hword, List.filterMap_append,
    List.filterMap_cons, hrule]
  cases keyword with
  | router =>
      obtain ⟨nickname, address, htells⟩ := haccepts
      simp [Draft.add, hfirst rfl, readRouter?_eq_some_iff.mpr htells]
  | published =>
      obtain ⟨t, ht⟩ := haccepts
      simp [Draft.add, ht, Except.toOption]
  | fingerprint =>
      obtain ⟨fingerprint, hfingerprint⟩ := haccepts
      simp [Draft.add, hfingerprint, Except.toOption]
  | bandwidth =>
      obtain ⟨bandwidth, htells⟩ := haccepts
      simp [Draft.add, readBandwidth?_eq_some_iff.mpr htells]
  | platform => simp [Draft.add]
  | hibernating =>
      obtain ⟨hibernating, htells⟩ := haccepts
      simp [Draft.add, readFlag?_eq_some_iff.mpr htells]
  | family =>
      simp [Draft.add, FingerprintSet.ofList, FingerprintSet.insertAll, List.foldl_append]
  | accept | reject =>
      obtain ⟨c, hc, hblank⟩ := haccepts
      have hpattern : trim line.arguments ≠ [] := by
        rw [Ne, trim_eq_nil_iff]
        intro hall
        exact absurd (hall c hc) (by simp [hblank])
      simp [Draft.add, hpattern]

theorem add_of_faulty (h : Faulty ls line keyword) :
    (draftOf ls).add keyword line.arguments = .error (keyword.fault line.arguments) := by
  have hnot := h.arguments
  cases keyword with
  | router =>
      have hread : readRouter? line.arguments = none := by
        rw [Option.eq_none_iff_forall_ne_some]
        exact fun found hfound => hnot ⟨_, _, readRouter?_eq_some_iff.mp hfound⟩
      simp [Draft.add, draftOf, h.first rfl, hread, Keyword.fault]
  | published =>
      cases hread : Timestamp.read (trim line.arguments) with
      | ok t => exact absurd ⟨t, hread⟩ hnot
      | error e => simp [Draft.add, hread, Keyword.fault]
  | fingerprint =>
      cases hread : Fingerprint.ofText? line.arguments with
      | some fingerprint => exact absurd ⟨fingerprint, by simp [Fingerprint.parse, hread]⟩ hnot
      | none => simp [Draft.add, Fingerprint.parse, hread, Keyword.fault]
  | bandwidth =>
      cases hread : readBandwidth? line.arguments with
      | some bandwidth => exact absurd ⟨bandwidth, readBandwidth?_eq_some_iff.mp hread⟩ hnot
      | none => simp [Draft.add, hread, Keyword.fault]
  | hibernating =>
      cases hread : readFlag? line.arguments with
      | some hibernating => exact absurd ⟨hibernating, readFlag?_eq_some_iff.mp hread⟩ hnot
      | none => simp [Draft.add, hread, Keyword.fault]
  | platform | family => exact absurd trivial hnot
  | accept | reject =>
      have hpattern : trim line.arguments = [] := by
        rw [trim_eq_nil_iff]
        intro c hc
        by_contra hblank
        exact hnot ⟨c, hc, by simpa using hblank⟩
      simp [Draft.add, hpattern, Keyword.fault]

theorem add_router_of_said (h : Sound ls) (hword : line.word = Keyword.router.text.toList)
    (hlater : said .router ls ≠ []) :
    (draftOf ls).add .router line.arguments = .ok (draftOf (ls ++ [line])) := by
  obtain ⟨first, rest, hrouters⟩ := List.exists_cons_of_ne_nil hlater
  obtain ⟨nickname, address, htells⟩ := h.router first (by simp [hrouters])
  have hread := readRouter?_eq_some_iff.mpr htells
  have hdraft : draftOf (ls ++ [line]) = draftOf ls := by
    simp [draftOf, lastTold, platformOf, said_append hword, Line.rule?, hword, text_eq_iff,
      hrouters]
  -- A router has been read, so the arguments of this line are not looked at.
  rw [hdraft]
  simp [Draft.add, draftOf, hrouters, hread]

theorem addLine_draftOf (h : Sound ls) (hline : ∀ keyword, ¬Faulty ls line keyword) :
    (draftOf ls).addLine line = .ok (draftOf (ls ++ [line])) := by
  rw [Draft.addLine]
  cases hkeyword : Keyword.ofText? line.word with
  | none => exact congrArg Except.ok (draftOf_append_of_unknown hkeyword).symm
  | some keyword =>
      have hword := Keyword.ofText?_eq_some_iff.mp hkeyword
      by_cases hfirst : keyword = .router → said .router ls = []
      · exact add_draftOf hword ((forall_not_faulty_iff hword).mp hline hfirst) hfirst
      · obtain ⟨rfl, hlater⟩ := Classical.not_imp.mp hfirst
        exact add_router_of_said h hword hlater

end Append

/-! ### All lines -/

theorem foldlM_of_sound {ls : List Line} (h : Sound ls) :
    ls.foldlM Draft.addLine {} = .ok (draftOf ls) := by
  -- The draft is stated for the lines so far, so the induction is on the last one.
  induction ls using List.reverseRecOn with
  | nil => rfl
  | append_singleton ls line ih =>
      obtain ⟨hls, hline⟩ := sound_append_iff.mp h
      rw [List.foldlM_append, ih hls]
      exact (bind_pure _).trans (addLine_draftOf hls hline)

theorem foldlM_of_faulty {before after : List Line} {line : Line} {keyword : Keyword}
    (h : Sound before) (hfaulty : Faulty before line keyword) :
    (before ++ line :: after).foldlM Draft.addLine {} =
      .error (keyword.fault line.arguments) := by
  rw [List.foldlM_append, foldlM_of_sound h]
  change (draftOf before).addLine line >>= _ = _
  rw [Draft.addLine, Keyword.ofText?_eq_some_iff.mpr hfaulty.word]
  change (draftOf before).add keyword line.arguments >>= _ = _
  rw [add_of_faulty hfaulty]
  rfl

theorem exists_faulty {ls : List Line} (h : ¬Sound ls) :
    ∃ before line after keyword, ls = before ++ line :: after ∧ Sound before ∧
      Faulty before line keyword := by
  induction ls using List.reverseRecOn with
  | nil => exact absurd ⟨by simp [said], by simp [said]⟩ h
  | append_singleton ls line ih =>
      by_cases hls : Sound ls
      · have hline : ∃ keyword, Faulty ls line keyword := by
          by_contra hnone
          exact h (sound_append_iff.mpr ⟨hls, not_exists.mp hnone⟩)
        obtain ⟨keyword, hfaulty⟩ := hline
        exact ⟨ls, line, [], keyword, rfl, hls, hfaulty⟩
      · obtain ⟨before, first, after, keyword, rfl, hbefore, hfaulty⟩ := ih hls
        exact ⟨before, first, after ++ [line], keyword, by simp, hbefore, hfaulty⟩

/-! ### The descriptor that lines make -/

/-- The last line of a keyword says a value; without one it is the default. -/
def LastTells {α : Type} (keyword : Keyword) (ls : List Line) (tells : Text → α → Prop)
    (default value : α) : Prop :=
  match (said keyword ls).getLast? with
  | some arguments => tells arguments value
  | none => value = default

/-- What a descriptor holds is what the lines say. -/
structure Reads (ls : List Line) (d : Descriptor) : Prop where
  router : ∃ arguments ∈ (said .router ls).head?, TellsRouter arguments d.nickname d.address
  published : ∃ arguments ∈ (said .published ls).getLast?,
    Timestamp.read (trim arguments) = .ok d.published
  fingerprint : ∃ arguments ∈ (said .fingerprint ls).getLast?,
    Fingerprint.parse (String.ofList arguments) = .ok d.fingerprint
  bandwidth : LastTells .bandwidth ls TellsBandwidth {} d.bandwidth
  platform : LastTells .platform ls (fun arguments p => TellsPlatform arguments p.1 p.2) ("", "")
    (d.version, d.platform)
  hibernating : LastTells .hibernating ls TellsHibernating false d.hibernating
  exitPolicy : d.exitPolicy = ls.filterMap Line.rule?
  family : ∀ fp, fp ∈ d.family ↔ ∃ arguments ∈ said .family ls, ∃ token ∈ words arguments,
    Fingerprint.ofFamilyToken? token = some fp

/-- Sound lines with all that a descriptor has to have. -/
structure WellFormed (ls : List Line) : Prop extends Sound ls where
  router_ne_nil : said .router ls ≠ []
  published_ne_nil : said .published ls ≠ []
  fingerprint_ne_nil : said .fingerprint ls ≠ []

/-- The error of the first line that has to have other arguments, else of what is missing. -/
inductive Reports (ls : List Line) : ReadError → Prop
  | faulty {before after : List Line} {line : Line} {keyword : Keyword}
      (heq : ls = before ++ line :: after) (hbefore : Sound before)
      (hfaulty : Faulty before line keyword) : Reports ls (keyword.fault line.arguments)
  | missing {keyword : Keyword} (hsound : Sound ls)
      (hfirst : [Keyword.fingerprint, .router, .published].find? (said · ls = []) = some keyword) :
      Reports ls (.missing keyword)

theorem Draft.finish_eq_ok_iff {draft : Draft} {d : Descriptor} :
    draft.finish = .ok d ↔ draft.router = some (d.nickname, d.address) ∧
      draft.published = some d.published ∧ draft.fingerprint = some d.fingerprint ∧
      draft.bandwidth = d.bandwidth ∧
      (draft.version = d.version ∧ draft.platform = d.platform) ∧
      draft.hibernating = d.hibernating ∧ draft.exitPolicy = d.exitPolicy ∧
      draft.family = d.family := by
  obtain ⟨router, published, fingerprint, bandwidth, platform, version, hibernating, exitPolicy,
    family⟩ := draft
  obtain ⟨⟩ := d
  rw [finish]
  cases fingerprint with
  | none => simp
  | some fingerprint =>
      cases router with
      | none => simp
      | some router =>
          cases published with
          | none => simp
          | some published =>
              simp only [Except.ok.injEq, Descriptor.mk.injEq, Option.some.injEq, Prod.ext_iff]
              tauto

section Told

variable {ls : List Line} {keyword : Keyword} {α : Type} {read : Text → Option α}
variable {tells : Text → α → Prop} {default value : α}

theorem getD_lastTold_eq_iff (hread : ∀ arguments value, read arguments = some value ↔
      tells arguments value)
    (haccepts : ∀ arguments ∈ said keyword ls, ∃ value, tells arguments value) :
    (lastTold read keyword ls).getD default = value ↔
      LastTells keyword ls tells default value := by
  rw [lastTold, LastTells]
  cases hlast : (said keyword ls).getLast? with
  | none => exact eq_comm
  | some arguments =>
      obtain ⟨told, htold⟩ := haccepts arguments (List.mem_of_getLast? hlast)
      have htold := (hread arguments told).mpr htold
      simp only [Option.bind_some, htold, Option.getD_some, ← hread, Option.some_inj]

theorem lastTold_eq_some_iff :
    lastTold read keyword ls = some value ↔
      ∃ arguments ∈ (said keyword ls).getLast?, read arguments = some value := by
  rw [lastTold, Option.bind_eq_some_iff]
  rfl

end Told

theorem toOption_eq_some_iff {ε α : Type} {x : Except ε α} {a : α} :
    x.toOption = some a ↔ x = .ok a := by
  cases x <;> simp [Except.toOption]

theorem platform_draftOf_eq_iff {ls : List Line} {version system : String} :
    ((draftOf ls).version = version ∧ (draftOf ls).platform = system) ↔
      LastTells .platform ls (fun arguments p => TellsPlatform arguments p.1 p.2) ("", "")
        (version, system) := by
  simp only [LastTells, draftOf, platformOf]
  cases (said .platform ls).getLast? with
  | none =>
      constructor
      · rintro ⟨rfl, rfl⟩
        rfl
      · intro h
        obtain ⟨rfl, rfl⟩ := Prod.mk.inj h
        exact ⟨rfl, rfl⟩
  | some arguments => exact splitPlatform_eq_iff

theorem mem_family_draftOf {ls : List Line} {fp : Fingerprint} :
    fp ∈ (draftOf ls).family ↔ ∃ arguments ∈ said .family ls, ∃ token ∈ words arguments,
      Fingerprint.ofFamilyToken? token = some fp := by
  simp only [draftOf, FingerprintSet.mem_ofList, List.mem_flatMap, List.mem_filterMap]

theorem family_draftOf_eq_iff {ls : List Line} {family : FingerprintSet} :
    (draftOf ls).family = family ↔ ∀ fp, fp ∈ family ↔
      ∃ arguments ∈ said .family ls, ∃ token ∈ words arguments,
        Fingerprint.ofFamilyToken? token = some fp := by
  simp only [← mem_family_draftOf]
  constructor
  · rintro rfl fp
    rfl
  · exact fun hiff => FingerprintSet.ext_mem fun fp => (hiff fp).symm

theorem finish_draftOf_eq_ok_iff {ls : List Line} (h : Sound ls) {d : Descriptor} :
    (draftOf ls).finish = .ok d ↔ Reads ls d := by
  have hrouter : (draftOf ls).router = some (d.nickname, d.address) ↔
      ∃ arguments ∈ (said .router ls).head?, TellsRouter arguments d.nickname d.address := by
    simp only [draftOf, Option.bind_eq_some_iff, readRouter?_eq_some_iff, Option.mem_def]
  have hpublished : (draftOf ls).published = some d.published ↔
      ∃ arguments ∈ (said .published ls).getLast?,
        Timestamp.read (trim arguments) = .ok d.published := by
    simp only [draftOf, lastTold_eq_some_iff, toOption_eq_some_iff]
  have hfingerprint : (draftOf ls).fingerprint = some d.fingerprint ↔
      ∃ arguments ∈ (said .fingerprint ls).getLast?,
        Fingerprint.parse (String.ofList arguments) = .ok d.fingerprint := by
    simp only [draftOf, lastTold_eq_some_iff, toOption_eq_some_iff]
  have hbandwidth : (draftOf ls).bandwidth = d.bandwidth ↔
      LastTells .bandwidth ls TellsBandwidth {} d.bandwidth :=
    getD_lastTold_eq_iff (fun _ _ => readBandwidth?_eq_some_iff) (h.others .bandwidth (by decide))
  have hhibernating : (draftOf ls).hibernating = d.hibernating ↔
      LastTells .hibernating ls TellsHibernating false d.hibernating :=
    getD_lastTold_eq_iff (fun _ _ => readFlag?_eq_some_iff) (h.others .hibernating (by decide))
  rw [Draft.finish_eq_ok_iff, hrouter, hpublished, hfingerprint, hbandwidth,
    platform_draftOf_eq_iff, hhibernating, family_draftOf_eq_iff]
  constructor
  · rintro ⟨hrouter, hpublished, hfingerprint, hbandwidth, hplatform, hhibernating, hpolicy,
      hfamily⟩
    exact ⟨hrouter, hpublished, hfingerprint, hbandwidth, hplatform, hhibernating, hpolicy.symm,
      hfamily⟩
  · rintro ⟨hrouter, hpublished, hfingerprint, hbandwidth, hplatform, hhibernating, hpolicy,
      hfamily⟩
    exact ⟨hrouter, hpublished, hfingerprint, hbandwidth, hplatform, hhibernating, hpolicy.symm,
      hfamily⟩

section Sound

variable {ls : List Line} (h : Sound ls)

include h

theorem exists_router_draftOf (hne : said .router ls ≠ []) :
    ∃ router, (draftOf ls).router = some router := by
  obtain ⟨arguments, rest, hsaid⟩ := List.exists_cons_of_ne_nil hne
  obtain ⟨nickname, address, htells⟩ := h.router arguments (by simp [hsaid])
  refine ⟨(nickname, address), ?_⟩
  simp [draftOf, hsaid, readRouter?_eq_some_iff.mpr htells]

theorem exists_published_draftOf (hne : said .published ls ≠ []) :
    ∃ published, (draftOf ls).published = some published := by
  obtain ⟨t, ht⟩ := h.others .published (by decide) _ (List.getLast_mem hne)
  refine ⟨t, lastTold_eq_some_iff.mpr ⟨_, List.getLast?_eq_some_getLast hne, ?_⟩⟩
  rw [ht]
  rfl

theorem exists_fingerprint_draftOf (hne : said .fingerprint ls ≠ []) :
    ∃ fingerprint, (draftOf ls).fingerprint = some fingerprint := by
  obtain ⟨fingerprint, hread⟩ := h.others .fingerprint (by decide) _ (List.getLast_mem hne)
  refine ⟨fingerprint, lastTold_eq_some_iff.mpr ⟨_, List.getLast?_eq_some_getLast hne, ?_⟩⟩
  rw [hread]
  rfl

theorem finish_draftOf_of_missing {keyword : Keyword}
    (hfirst : [Keyword.fingerprint, .router, .published].find? (said · ls = []) = some keyword) :
    (draftOf ls).finish = .error (.missing keyword) := by
  rw [Draft.finish]
  by_cases hfingerprint : said .fingerprint ls = []
  · obtain rfl : Keyword.fingerprint = keyword := by simpa [hfingerprint] using hfirst
    simp [draftOf, lastTold, hfingerprint]
  · obtain ⟨fingerprint, hfound⟩ := exists_fingerprint_draftOf h hfingerprint
    rw [hfound]
    by_cases hrouter : said .router ls = []
    · obtain rfl : Keyword.router = keyword := by simpa [hfingerprint, hrouter] using hfirst
      simp [draftOf, hrouter]
    · obtain ⟨router, hfound⟩ := exists_router_draftOf h hrouter
      obtain ⟨hpublished, rfl⟩ : said .published ls = [] ∧ Keyword.published = keyword := by
        simpa [hfingerprint, hrouter] using hfirst
      have hnone : (draftOf ls).published = none := by simp [draftOf, lastTold, hpublished]
      rw [hfound, hnone]

end Sound

theorem exists_finish_of_wellFormed {ls : List Line} (h : WellFormed ls) :
    ∃ d, (draftOf ls).finish = .ok d := by
  obtain ⟨router, hrouter⟩ := exists_router_draftOf h.toSound h.router_ne_nil
  obtain ⟨published, hpublished⟩ := exists_published_draftOf h.toSound h.published_ne_nil
  obtain ⟨fingerprint, hfingerprint⟩ := exists_fingerprint_draftOf h.toSound h.fingerprint_ne_nil
  rw [Draft.finish, hrouter, hpublished, hfingerprint]
  exact ⟨_, rfl⟩

/-! ### Texts -/

theorem foldlM_filter_isKnown (ls : List Line) (draft : Draft) :
    (ls.filter Line.isKnown).foldlM Draft.addLine draft = ls.foldlM Draft.addLine draft := by
  induction ls generalizing draft with
  | nil => rfl
  | cons line ls ih =>
      rw [List.filter_cons, List.foldlM_cons]
      split
      · rw [List.foldlM_cons]
        exact congrArg _ (funext fun next => ih next)
      · rename_i hunknown
        have hword : Keyword.ofText? line.word = none := by simpa [Line.isKnown] using hunknown
        rw [Draft.addLine, hword]
        exact ih draft

theorem parse_eq_spoken (s : String) :
    parse s = (spoken s.toList).foldlM Draft.addLine {} >>= Draft.finish := by
  rw [parse, ofLines, ← foldlM_filter_isKnown (spoken s.toList), ← filter_isKnown_spoken,
    foldlM_filter_isKnown]

theorem parse_of_reports {s : String} {e : ReadError} (h : Reports (spoken s.toList) e) :
    parse s = .error e := by
  rw [parse_eq_spoken]
  cases h with
  | faulty heq hbefore hfaulty =>
      rw [heq, foldlM_of_faulty hbefore hfaulty]
      rfl
  | missing hsound hfirst =>
      rw [foldlM_of_sound hsound]
      exact finish_draftOf_of_missing hsound hfirst

theorem wellFormed_or_reports (ls : List Line) : WellFormed ls ∨ ∃ e, Reports ls e := by
  by_cases hsound : Sound ls
  · cases hfirst : [Keyword.fingerprint, .router, .published].find? (said · ls = []) with
    | some keyword => exact .inr ⟨_, .missing hsound hfirst⟩
    | none =>
        have hne : ∀ keyword ∈ [Keyword.fingerprint, .router, .published], said keyword ls ≠ [] :=
          fun keyword hmem => by simpa using List.find?_eq_none.mp hfirst keyword hmem
        exact .inl ⟨hsound, hne .router (by simp), hne .published (by simp),
          hne .fingerprint (by simp)⟩
  · obtain ⟨before, line, after, keyword, heq, hbefore, hfaulty⟩ := exists_faulty hsound
    exact .inr ⟨_, .faulty heq hbefore hfaulty⟩

theorem parse_of_wellFormed {s : String} (h : WellFormed (spoken s.toList)) :
    ∃ d, parse s = .ok d ∧ Reads (spoken s.toList) d := by
  obtain ⟨d, hd⟩ := exists_finish_of_wellFormed h
  refine ⟨d, ?_, (finish_draftOf_eq_ok_iff h.toSound).mp hd⟩
  rw [parse_eq_spoken, foldlM_of_sound h.toSound]
  exact hd

/--
Reading a text depends on nothing but its lines that count: whether it succeeds, what the descriptor
holds, and which error is reported.
-/
theorem parse_meets_reading (s : String) :
    ((∃ d, parse s = .ok d) ↔ WellFormed (spoken s.toList)) ∧
    (∀ d, parse s = .ok d ↔ WellFormed (spoken s.toList) ∧ Reads (spoken s.toList) d) ∧
    ∀ e, parse s = .error e ↔ Reports (spoken s.toList) e := by
  have hsucceeds {d : Descriptor} (hd : parse s = .ok d) : WellFormed (spoken s.toList) := by
    rcases wellFormed_or_reports (spoken s.toList) with h | ⟨e, he⟩
    · exact h
    · rw [parse_of_reports he] at hd
      cases hd
  refine ⟨⟨?_, ?_⟩, fun d => ⟨?_, ?_⟩, fun e => ⟨?_, parse_of_reports⟩⟩
  · rintro ⟨d, hd⟩
    exact hsucceeds hd
  · intro h
    obtain ⟨d, hd, -⟩ := parse_of_wellFormed h
    exact ⟨d, hd⟩
  · intro hd
    have h := hsucceeds hd
    obtain ⟨d', hd', hreads⟩ := parse_of_wellFormed h
    cases hd.symm.trans hd'
    exact ⟨h, hreads⟩
  · rintro ⟨h, hreads⟩
    rw [parse_eq_spoken, foldlM_of_sound h.toSound]
    exact (finish_draftOf_eq_ok_iff h.toSound).mpr hreads
  · intro he
    rcases wellFormed_or_reports (spoken s.toList) with h | ⟨e', he'⟩
    · obtain ⟨d, hd, -⟩ := parse_of_wellFormed h
      cases hd.symm.trans he
    · cases (parse_of_reports he').symm.trans he
      exact he'

end RelaySnapshot.Descriptor
