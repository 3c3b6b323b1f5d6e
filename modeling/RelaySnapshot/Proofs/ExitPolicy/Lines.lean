import RelaySnapshot.Proofs.Descriptor.Idle

/-!
# Exit policies as lines

A stored policy is text of the kind that descriptors are made of: put after a descriptor without a
policy of its own it is read as the rules that it was written from, all that are accepted before all
that are rejected. So a policy is known from its stored form, but for how the rules of the two
actions are mixed.
-/

namespace RelaySnapshot

namespace Text

theorem trim_eq_self {s : Text} (hhead : ∀ c ∈ s.head?, isBlank c = false)
    (hlast : ∀ c ∈ s.getLast?, isBlank c = false) : trim s = s := by
  have hstart : trimStart s = s := by
    rw [trimStart, List.dropWhile_eq_self_iff]
    intro hpos
    simp [hhead _ (List.head?_eq_getElem? ▸ List.getElem?_eq_getElem hpos)]
  have hend : s.rdropWhile isBlank = s := by
    rw [List.rdropWhile_eq_self_iff]
    intro hne
    simp [hlast _ (List.getLast?_eq_some_getLast hne)]
  rw [trim, hstart]
  exact hend

theorem head?_trim {s : Text} : ∀ c ∈ (trim s).head?, isBlank c = false := by
  intro c hc
  have hprefix : trim s <+: trimStart s := List.rdropWhile_prefix isBlank _
  have hhead : (trimStart s).head? = some c := by
    obtain ⟨rest, hrest⟩ := List.head?_eq_some_iff.mp hc
    obtain ⟨more, hmore⟩ := hprefix
    rw [← hmore, hrest]
    rfl
  have hstart := List.head?_dropWhile_not isBlank s
  rw [trimStart] at hhead
  rwa [hhead] at hstart

theorem getLast?_trim {s : Text} : ∀ c ∈ (trim s).getLast?, isBlank c = false := by
  intro c hc
  have hne : (trimStart s).rdropWhile isBlank ≠ [] := by
    intro hnil
    have htrim : trim s = [] := hnil
    rw [htrim] at hc
    cases hc
  have hlast := List.rdropWhile_last_not isBlank (trimStart s) hne
  have heq : (trim s).getLast? = some (((trimStart s).rdropWhile isBlank).getLast hne) :=
    List.getLast?_eq_some_getLast hne
  cases hc.symm.trans heq
  simpa using hlast

theorem trim_subset (s : Text) : trim s ⊆ s :=
  fun _ hc => List.dropWhile_subset _ ((List.rdropWhile_prefix isBlank (trimStart s)).subset hc)

theorem not_mem_of_mem_lines {s line : Text} (h : line ∈ lines s) : '\n' ∉ line := by
  induction s using induction_lines with
  | last text htext =>
      rw [lines_of_not_mem htext, List.mem_singleton] at h
      exact h ▸ htext
  | more first s hfirst ih =>
      rw [lines_append_cons hfirst] at h
      rcases List.mem_cons.mp h with rfl | h
      · exact hfirst
      · exact ih h

end Text

/-- The pattern is a text within one line, with no blanks around it. -/
structure ExitRule.Plain (rule : ExitRule) : Prop where
  ne_nil : rule.pattern.toList ≠ []
  no_feed : '\n' ∉ rule.pattern.toList
  head : ∀ c ∈ rule.pattern.toList.head?, Text.isBlank c = false
  last : ∀ c ∈ rule.pattern.toList.getLast?, Text.isBlank c = false

theorem ExitRule.plain_iff {rule : ExitRule} : rule.Plain ↔
    rule.pattern.toList ≠ [] ∧ '\n' ∉ rule.pattern.toList ∧
      rule.pattern.toList.head?.all (!Text.isBlank ·) = true ∧
      rule.pattern.toList.getLast?.all (!Text.isBlank ·) = true := by
  simp only [Option.all_eq_true, Bool.not_eq_true']
  exact ⟨fun ⟨h₁, h₂, h₃, h₄⟩ => ⟨h₁, h₂, h₃, h₄⟩, fun ⟨h₁, h₂, h₃, h₄⟩ => ⟨h₁, h₂, h₃, h₄⟩⟩

instance (rule : ExitRule) : Decidable rule.Plain :=
  decidable_of_iff _ ExitRule.plain_iff.symm

def ExitRule.line (rule : ExitRule) : Text :=
  rule.action.keyword.toList ++ ' ' :: rule.pattern.toList

theorem ExitRule.line_injective : Function.Injective ExitRule.line := by
  rintro ⟨action, pattern⟩ ⟨action', pattern'⟩ h
  have haction : action = action' := by
    -- The two words differ in their first letters.
    have hhead := congrArg List.head? h
    cases action <;> cases action' <;> simp_all [line, ExitAction.keyword]
  subst haction
  have hpattern : pattern.toList = pattern'.toList :=
    (List.cons.inj (List.append_cancel_left h)).2
  rw [String.toList_injective hpattern]

namespace ExitPolicy

open Text

def rulesOf (policy : ExitPolicy) (action : ExitAction) : ExitPolicy :=
  policy.filter (·.action == action)

/-- All that is accepted and then all that is rejected. -/
def grouped (policy : ExitPolicy) : ExitPolicy :=
  policy.rulesOf .accept ++ policy.rulesOf .reject

variable {policy other : ExitPolicy}

theorem rulesOf_rulesOf (a b : ExitAction) :
    (policy.rulesOf a).rulesOf b = if a = b then policy.rulesOf b else [] := by
  rw [rulesOf, rulesOf, List.filter_filter]
  split
  next heq => simp [heq, rulesOf]
  next hne =>
    rw [List.filter_eq_nil_iff]
    intro rule _ hboth
    rw [Bool.and_eq_true, beq_iff_eq, beq_iff_eq] at hboth
    exact hne (hboth.2.symm.trans hboth.1)

theorem rulesOf_grouped (action : ExitAction) :
    policy.grouped.rulesOf action = policy.rulesOf action := by
  have happend : policy.grouped.rulesOf action =
      (policy.rulesOf .accept).rulesOf action ++ (policy.rulesOf .reject).rulesOf action :=
    List.filter_append ..
  rw [happend, rulesOf_rulesOf, rulesOf_rulesOf]
  cases action <;> simp

theorem grouped_eq_iff : policy.grouped = other.grouped ↔
    policy.rulesOf .accept = other.rulesOf .accept ∧
      policy.rulesOf .reject = other.rulesOf .reject := by
  constructor
  · intro h
    rw [← rulesOf_grouped, h, rulesOf_grouped, ← policy.rulesOf_grouped .reject, h, rulesOf_grouped]
    exact ⟨rfl, rfl⟩
  · rintro ⟨haccept, hreject⟩
    rw [grouped, haccept, hreject, grouped]

theorem mem_of_mem_grouped {rule : ExitRule} (h : rule ∈ policy.grouped) : rule ∈ policy :=
  (List.mem_append.mp h).elim List.mem_of_mem_filter List.mem_of_mem_filter

/-! ### The text of a policy -/

theorem toList_lines (policy : ExitPolicy) :
    policy.lines.toList = ended (policy.grouped.map ExitRule.line) := by
  have hlines (action : ExitAction) :
      policy.linesOf action = ended ((policy.rulesOf action).map ExitRule.line) := by
    rw [linesOf, ended, List.flatMap_map, rulesOf]
    refine List.flatMap_congr fun rule hrule => ?_
    rw [ExitRule.line, beq_iff_eq.mp (List.mem_filter.mp hrule).2]
  rw [lines, String.toList_ofList, hlines, hlines, grouped, List.map_append, ended, ended, ended,
    List.flatMap_append]

theorem lines_grouped : policy.grouped.lines = policy.lines := by
  have hgrouped : policy.grouped.grouped = policy.grouped := by
    rw [grouped_eq_iff, rulesOf_grouped, rulesOf_grouped]
    exact ⟨rfl, rfl⟩
  rw [← String.toList_inj, toList_lines, toList_lines, hgrouped]

theorem lines_map (h : ∀ rule ∈ policy, rule.Plain) (s : Text) :
    Text.lines (ended (policy.map ExitRule.line) ++ s) =
      policy.map ExitRule.line ++ Text.lines s := by
  apply lines_ended_append
  intro line hline
  obtain ⟨rule, hrule, rfl⟩ := List.mem_map.mp hline
  have hpattern := (h rule hrule).no_feed
  rw [ExitRule.line, List.mem_append, List.mem_cons]
  cases rule.action <;> simp [ExitAction.keyword, hpattern]

/-- A policy is known from its stored form, but for how the rules of the two actions are mixed. -/
theorem lines_eq_iff (h : ∀ rule ∈ policy, rule.Plain) (hother : ∀ rule ∈ other, rule.Plain) :
    policy.lines = other.lines ↔ policy.rulesOf .accept = other.rulesOf .accept ∧
      policy.rulesOf .reject = other.rulesOf .reject := by
  rw [← grouped_eq_iff]
  constructor
  · intro hlines
    rw [← String.toList_inj, toList_lines, toList_lines] at hlines
    have hsplit := congrArg (fun s => Text.lines (s ++ [])) hlines
    rw [lines_map fun rule hrule => h rule (mem_of_mem_grouped hrule),
      lines_map fun rule hrule => hother rule (mem_of_mem_grouped hrule)] at hsplit
    exact ExitRule.line_injective.list_map (List.append_cancel_right hsplit)
  · intro hgrouped
    rw [← String.toList_inj, toList_lines, toList_lines, hgrouped]

end ExitPolicy

namespace Descriptor

open Text ExitPolicy

/-! ### Reading the lines of a policy -/

def Keyword.ofAction : ExitAction → Keyword
  | .accept => .accept
  | .reject => .reject

theorem Keyword.text_ofAction (action : ExitAction) :
    (Keyword.ofAction action).text = action.keyword := by
  cases action <;> rfl

/-- What the line of a rule says. -/
def ruleLine (rule : ExitRule) : Line :=
  ⟨rule.action.keyword.toList, rule.pattern.toList⟩

theorem dropReturns_line {rule : ExitRule} (h : rule.Plain) :
    dropReturns rule.line = rule.line := by
  change rule.line.rdropWhile (· == '\r') = rule.line
  rw [List.rdropWhile_eq_self_iff]
  intro hnil hreturn
  have hlast : rule.line.getLast? = rule.pattern.toList.getLast? := by
    obtain ⟨c, rest, hpattern⟩ := List.exists_cons_of_ne_nil h.ne_nil
    simp [ExitRule.line, hpattern, List.getLast?_cons]
  have hblank := h.last _ (hlast ▸ List.getLast?_eq_some_getLast hnil)
  rw [beq_iff_eq.mp hreturn] at hblank
  exact absurd hblank (by decide)

theorem ofText_line (rule : ExitRule) : Line.ofText rule.line = ruleLine rule := by
  rw [Line.ofText_eq_reading, Line.reading, ExitRule.line, ruleLine]
  cases rule.action <;> simp [ExitAction.keyword]

/-- The line of a rule is a keyword line, wherever no object is open. -/
theorem keywordLines_line {rule : ExitRule} (h : rule.Plain) (rest : List Text) :
    keywordLines false (rule.line :: rest) = ruleLine rule :: keywordLines false rest := by
  have hseen : beginsObject rule.line = false ∧ endsObject rule.line = false ∧
      rule.line.isEmpty = false ∧ rule.line.head? ≠ some '@' := by
    rw [ExitRule.line]
    generalize rule.pattern.toList = pattern
    cases rule.action
    case accept => exact ⟨rfl, rfl, rfl, by simp [ExitAction.keyword]⟩
    case reject => exact ⟨rfl, rfl, rfl, by simp [ExitAction.keyword]⟩
  obtain ⟨hbegins, hends, hempty, hhead⟩ := hseen
  rw [keywordLines, dropReturns_line h, hbegins, hends, hempty, beq_eq_false_iff_ne.mpr hhead,
    ofText_line]
  rfl

theorem keywordLines_lines {policy : ExitPolicy} (h : ∀ rule ∈ policy, rule.Plain) :
    keywordLines false (policy.map ExitRule.line) = policy.map ruleLine := by
  induction policy with
  | nil => rfl
  | cons rule policy ih =>
      have hrest := ih fun other hmem => h other (List.mem_cons_of_mem rule hmem)
      rw [List.map_cons, keywordLines_line (h rule List.mem_cons_self), hrest, List.map_cons]

theorem addLine_ruleLine {rule : ExitRule} (h : rule.Plain) (draft : Draft) :
    draft.addLine (ruleLine rule) =
      .ok { draft with exitPolicy := draft.exitPolicy ++ [rule] } := by
  obtain ⟨action, pattern⟩ := rule
  have htrim : trim pattern.toList = pattern.toList := trim_eq_self h.head h.last
  have hempty : pattern.toList.isEmpty = false := by simpa using h.ne_nil
  have hkeyword : Keyword.ofText? (ruleLine ⟨action, pattern⟩).word =
      some (Keyword.ofAction action) := by
    rw [Keyword.ofText?_eq_some_iff, Keyword.text_ofAction]
    rfl
  rw [Draft.addLine, hkeyword]
  cases action <;> simp [Draft.add, Keyword.ofAction, ruleLine, htrim, hempty]

theorem foldlM_ruleLine {policy : ExitPolicy} (h : ∀ rule ∈ policy, rule.Plain) (draft : Draft) :
    (policy.map ruleLine).foldlM Draft.addLine draft =
      .ok { draft with exitPolicy := draft.exitPolicy ++ policy } := by
  induction policy generalizing draft with
  | nil => simp [pure, Except.pure]
  | cons rule policy ih =>
      rw [List.map_cons, List.foldlM_cons, addLine_ruleLine (h rule List.mem_cons_self)]
      change (policy.map ruleLine).foldlM Draft.addLine _ = _
      rw [ih fun other hmem => h other (List.mem_cons_of_mem rule hmem), List.append_assoc,
        List.singleton_append]

/-- More rules change nothing else in the descriptor of a draft, or in why there is none. -/
theorem finish_exitPolicy (draft : Draft) (rules : ExitPolicy) :
    Draft.finish { draft with exitPolicy := draft.exitPolicy ++ rules } =
      draft.finish.map fun d => { d with exitPolicy := d.exitPolicy ++ rules } := by
  rw [Draft.finish, Draft.finish]
  cases draft.fingerprint with
  | none => rfl
  | some fingerprint => cases draft.router <;> cases draft.published <;> rfl

theorem ofLines_append {ls ls' : List Text} (h : leavesOpen (ls.map dropReturns) = false) :
    ofLines (ls ++ ls') = (do
      let draft ← (keywordLines false ls).foldlM Draft.addLine ({} : Draft)
      let draft ← (keywordLines false ls').foldlM Draft.addLine draft
      draft.finish) := by
  have hsplit := filter_isKnown_keywordLines_append [] ls ls'
  rw [List.nil_append, h] at hsplit
  change (keywordLines false (ls ++ ls')).filter Line.isKnown = _ at hsplit
  rw [ofLines, ← foldlM_filter_isKnown, hsplit, List.foldlM_append, foldlM_filter_isKnown,
    bind_assoc]
  simp only [foldlM_filter_isKnown]
  rfl

/-- A policy after a text adds its rules, and says nothing else. -/
theorem parse_append_lines {policy : ExitPolicy} (h : ∀ rule ∈ policy, rule.Plain) {text : String}
    (hends : EndsLine text.toList) (houtside : OutsideObject text.toList) :
    parse (text ++ policy.lines) =
      (parse text).map fun d => { d with exitPolicy := d.exitPolicy ++ policy.grouped } := by
  obtain ⟨ls, happend, hopen⟩ := exists_lines_append hends
  have hplain : ∀ rule ∈ policy.grouped, rule.Plain :=
    fun rule hrule => h rule (mem_of_mem_grouped hrule)
  have hlines : Text.lines (text.toList ++ policy.lines.toList) =
      ls ++ policy.grouped.map ExitRule.line ++ [[]] := by
    have hpolicy := lines_map hplain []
    rw [List.append_nil] at hpolicy
    rw [happend, toList_lines, hpolicy, lines_nil, List.append_assoc]
  have htext : Text.lines text.toList = ls ++ [[]] := by
    have hnil := happend []
    rwa [List.append_nil] at hnil
  rw [parse, parse, String.toList_append, hlines, htext, ofLines_append_nil, ofLines_append_nil,
    ofLines_append (hopen.mp houtside), keywordLines_lines hplain, ofLines]
  cases (keywordLines false ls).foldlM Draft.addLine ({} : Draft) with
  | error e => rfl
  | ok draft =>
      simp only [bind, Except.bind, foldlM_ruleLine hplain, finish_exitPolicy]

/-! ### The policies that are read -/

theorem no_feed_of_mem_spoken {s : Text} {line : Line} (h : line ∈ spoken s) :
    '\n' ∉ line.arguments := by
  obtain ⟨⟨text, n⟩, hmem, hcounted⟩ := List.mem_filterMap.mp h
  obtain ⟨whole, hwhole, rfl⟩ := List.mem_map.mp (List.fst_mem_of_mem_zipIdx hmem)
  rw [counted?] at hcounted
  split_ifs at hcounted
  cases hcounted
  intro hfeed
  apply not_mem_of_mem_lines hwhole
  apply dropReturns_subset whole
  rw [Line.reading] at hfeed
  have hkept := List.dropWhile_subset _ (List.mem_of_mem_tail hfeed)
  dsimp only at hkept
  split_ifs at hkept
  · exact List.drop_subset _ _ hkept
  · exact hkept

theorem plain_of_accepts {action : ExitAction} {arguments : Text} (hfeed : '\n' ∉ arguments)
    (haccepts : ∃ c ∈ arguments, isBlank c = false) :
    ExitRule.Plain ⟨action, String.ofList (trim arguments)⟩ where
  ne_nil := by
    obtain ⟨c, hc, hblank⟩ := haccepts
    rw [String.toList_ofList, Ne, trim_eq_nil_iff]
    intro hall
    exact absurd (hall c hc) (by simp [hblank])
  no_feed := by
    rw [String.toList_ofList]
    exact fun hmem => hfeed (trim_subset arguments hmem)
  head := by
    rw [String.toList_ofList]
    exact head?_trim
  last := by
    rw [String.toList_ofList]
    exact getLast?_trim

theorem reads_of_parse {s : String} {d : Descriptor} (h : parse s = .ok d) :
    WellFormed (spoken s.toList) ∧ Reads (spoken s.toList) d := by
  rcases wellFormed_or_reports (spoken s.toList) with hformed | ⟨e, he⟩
  · obtain ⟨d', hd', hreads⟩ := parse_of_wellFormed hformed
    cases h.symm.trans hd'
    exact ⟨hformed, hreads⟩
  · cases h.symm.trans (parse_of_reports he)

theorem plain_of_parse {s : String} {d : Descriptor} (h : parse s = .ok d) :
    ∀ rule ∈ d.exitPolicy, rule.Plain := by
  obtain ⟨hformed, hreads⟩ := reads_of_parse h
  intro rule hrule
  rw [hreads.exitPolicy] at hrule
  obtain ⟨line, hline, hrule⟩ := List.mem_filterMap.mp hrule
  have hfeed := no_feed_of_mem_spoken hline
  have hsaid {keyword : Keyword} (hword : line.word = keyword.text.toList) :
      line.arguments ∈ said keyword (spoken s.toList) :=
    List.mem_map_of_mem (List.mem_filter.mpr ⟨hline, decide_eq_true hword⟩)
  rw [Line.rule?] at hrule
  split_ifs at hrule with haccept hreject
  · cases hrule
    exact plain_of_accepts hfeed (hformed.others .accept (by decide) _ (hsaid haccept))
  · cases hrule
    exact plain_of_accepts hfeed (hformed.others .reject (by decide) _ (hsaid hreject))

theorem exitPolicy_eq_nil {s : String} {d : Descriptor} (h : parse s = .ok d)
    (haccept : said .accept (spoken s.toList) = [])
    (hreject : said .reject (spoken s.toList) = []) : d.exitPolicy = [] := by
  rw [(reads_of_parse h).2.exitPolicy, List.filterMap_eq_nil_iff]
  intro line hline
  rw [said, List.map_eq_nil_iff, List.filter_eq_nil_iff] at haccept hreject
  have haccept := haccept line hline
  have hreject := hreject line hline
  rw [decide_eq_true_eq] at haccept hreject
  rw [Line.rule?, if_neg haccept, if_neg hreject]

/-! ### The main statement -/

/--
The stored form of a policy, put after a descriptor that has none, is read as that policy with its
rules grouped by action, and it tells nothing else of a policy than these two groups.
-/
theorem stored_policy_reads_back :
    (∀ (s : String) (d : Descriptor), parse s = .ok d → ∀ rule ∈ d.exitPolicy, rule.Plain) ∧
    (∀ (policy : ExitPolicy) (text : String) (d : Descriptor), (∀ rule ∈ policy, rule.Plain) →
      parse text = .ok d → said .accept (spoken text.toList) = [] →
      said .reject (spoken text.toList) = [] → EndsLine text.toList → OutsideObject text.toList →
      parse (text ++ policy.lines) =
          .ok { d with exitPolicy := policy.rulesOf .accept ++ policy.rulesOf .reject } ∧
        ExitPolicy.lines (policy.rulesOf .accept ++ policy.rulesOf .reject) = policy.lines) ∧
    ∀ policy other : ExitPolicy, (∀ rule ∈ policy, rule.Plain) → (∀ rule ∈ other, rule.Plain) →
      (policy.lines = other.lines ↔ policy.rulesOf .accept = other.rulesOf .accept ∧
        policy.rulesOf .reject = other.rulesOf .reject) := by
  refine ⟨fun s d => plain_of_parse, ?_, fun policy other => lines_eq_iff⟩
  intro policy text d hplain hparse haccept hreject hends houtside
  have hnone := exitPolicy_eq_nil hparse haccept hreject
  refine ⟨?_, lines_grouped⟩
  rw [parse_append_lines hplain hends houtside, hparse, Except.map, hnone, List.nil_append, grouped]

/-- Rules of both actions are mixed, and patterns hold blanks and a carriage return. -/
theorem stored_policy_reads_back_mixed :
    let policy : ExitPolicy := [⟨.reject, "10.0.0.0/8:*"⟩, ⟨.accept, "é :80"⟩,
      ⟨.reject, "a\rb"⟩, ⟨.accept, "*:443"⟩]
    let text := "router a 1.2.3.4 9001 0 0\npublished 2020-03-02 10:00:00\n" ++
      "opt fingerprint AAAAAAAAAAAAAAAAAAAAAAAAAAAAAAAAAAAAAAAA\r\n" ++
      "-----BEGIN X\naccept *:*\n-----END X\n"
    (∀ rule ∈ policy, rule.Plain) ∧ said .accept (spoken text.toList) = [] ∧
      said .reject (spoken text.toList) = [] ∧ EndsLine text.toList ∧ OutsideObject text.toList ∧
      ∃ d, parse text = .ok d ∧ parse (text ++ policy.lines) =
        .ok { d with exitPolicy := [⟨.accept, "é :80"⟩, ⟨.accept, "*:443"⟩,
          ⟨.reject, "10.0.0.0/8:*"⟩, ⟨.reject, "a\rb"⟩] } := by
  intro policy text
  have hplain : ∀ rule ∈ policy, rule.Plain := by
    intro rule hrule
    simp only [policy, List.mem_cons, List.not_mem_nil, or_false] at hrule
    rcases hrule with rfl | rfl | rfl | rfl <;> decide
  have haccept : said .accept (spoken text.toList) = [] := by decide +kernel
  have hreject : said .reject (spoken text.toList) = [] := by decide +kernel
  have hends : EndsLine text.toList := .inr (by decide +kernel)
  have houtside : OutsideObject text.toList := by
    rw [OutsideObject]
    decide +kernel
  have hok : (parse text).isOk = true := by decide +kernel
  obtain ⟨d, hd⟩ : ∃ d, parse text = .ok d := by
    cases h : parse text with
    | ok d => exact ⟨d, rfl⟩
    | error e =>
        rw [h] at hok
        cases hok
  have hreads := stored_policy_reads_back.2.1 policy text d hplain hd haccept hreject hends houtside
  exact ⟨hplain, haccept, hreject, hends, houtside, d, hd, hreads.1⟩

end Descriptor

end RelaySnapshot
