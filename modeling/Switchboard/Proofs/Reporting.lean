import Mathlib.Data.List.Sort
import Mathlib.Data.Prod.Lex
import Switchboard.Proofs.Dictionary
import Switchboard.Proofs.Text.Casing
import Switchboard.Proofs.Text.Trimming
import Switchboard.Settings.Load

/-!
What validation reports. Settings break rules, each apart from the others, and every broken rule is
reported once: the list of problems is that of the broken rules in their order.
-/

namespace Switchboard

namespace Settings

/-- What settings are held to: a rule for each value that is checked, two rules for each alias. -/
inductive Rule where
  | listenerAddress
  | requestTimeout
  | bodyLimit
  | logLevel
  | metricsAddress
  | aliasName (name : String)
  | aliasSpecifier (name : String)

namespace Rule

/-- The aliases come last, in the order of their names, and a name comes before its specifier. -/
def place : Rule → Nat ×ₗ String ×ₗ Nat
  | .listenerAddress => toLex (0, toLex ("", 0))
  | .requestTimeout => toLex (1, toLex ("", 0))
  | .bodyLimit => toLex (2, toLex ("", 0))
  | .logLevel => toLex (3, toLex ("", 0))
  | .metricsAddress => toLex (4, toLex ("", 0))
  | .aliasName name => toLex (5, toLex (name, 0))
  | .aliasSpecifier name => toLex (5, toLex (name, 1))

def Before (earlier later : Rule) : Prop := earlier.place < later.place

instance : Std.Irrefl Before := ⟨fun rule => lt_irrefl rule.place⟩

instance : Std.Antisymm Before := ⟨fun _ _ below above => absurd above below.asymm⟩

def ofAlias (name : String) : List Rule := [.aliasName name, .aliasSpecifier name]

theorem pairwise_before_ofAlias (name : String) : (ofAlias name).Pairwise Before := by
  simp [ofAlias, Before, place, Prod.Lex.toLex_lt_toLex]

theorem before_of_lt {name other : String} (below : name < other) :
    ∀ earlier ∈ ofAlias name, ∀ later ∈ ofAlias other, Before earlier later := by
  simp [ofAlias, Before, place, Prod.Lex.toLex_lt_toLex, below]

def scalars : List Rule :=
  [.listenerAddress, .requestTimeout, .bodyLimit, .logLevel, .metricsAddress]

theorem pairwise_before_scalars : scalars.Pairwise Before := by
  simp [scalars, Before, place, Prod.Lex.toLex_lt_toLex]

theorem scalar_before_alias (name : String) :
    ∀ earlier ∈ scalars, ∀ later ∈ ofAlias name, Before earlier later := by
  simp [scalars, ofAlias, Before, place, Prod.Lex.toLex_lt_toLex]

end Rule

/-- A rule that settings break, and the problem that it is reported as. -/
inductive Broken (settings : Settings) : Rule → ValidationError → Prop
  | listenerAddress : SocketAddress.parse? settings.bindAddress = none →
      Broken settings .listenerAddress (.invalidAddress .listener settings.bindAddress)
  | requestTimeout : settings.requestSeconds = 0 → Broken settings .requestTimeout .zeroTimeout
  | bodyLimit : settings.maxBodySize = 0 → Broken settings .bodyLimit .zeroBodyLimit
  | logLevel : settings.logLevel.toLower ∉ ["trace", "debug", "info", "warn", "error"] →
      Broken settings .logLevel (.invalidLogLevel settings.logLevel)
  | metricsAddress : settings.metricsEnabled = true →
      SocketAddress.parse? settings.metricsAddress = none →
      Broken settings .metricsAddress (.invalidAddress .metrics settings.metricsAddress)
  | aliasName {name specifier : String} : settings.aliases.get? name = some specifier →
      (∀ c ∈ name.toList, Text.isBlank c = true) ∨ ':' ∈ name.toList →
      Broken settings (.aliasName name) (.invalidAlias name .name)
  | aliasSpecifier {name specifier : String} {error : SpecifierError} :
      settings.aliases.get? name = some specifier → Specifier.parse specifier = .error error →
      Broken settings (.aliasSpecifier name) (.invalidAlias name (.specifier error))

def Breaks (settings : Settings) (rule : Rule) : Prop := ∃ problem, Broken settings rule problem

structure Sound (settings : Settings) : Prop where
  listenerAddress : ∃ address, SocketAddress.parse? settings.bindAddress = some address
  requestTimeout : settings.requestSeconds ≠ 0
  bodyLimit : settings.maxBodySize ≠ 0
  logLevel : settings.logLevel.toLower ∈ ["trace", "debug", "info", "warn", "error"]
  metricsAddress : (∃ address, SocketAddress.parse? settings.metricsAddress = some address) ∨
    settings.metricsEnabled = false
  aliases : ∀ name specifier, settings.aliases.get? name = some specifier →
    (∃ c ∈ name.toList, Text.isBlank c = false) ∧ ':' ∉ name.toList ∧
      ∃ read, Specifier.parse specifier = .ok read

/-- A list of problems that has each broken rule once, in order, and nothing else. -/
def Reports (settings : Settings) (problems : List ValidationError) : Prop :=
  ∃ rules : List Rule, rules.Pairwise Rule.Before ∧
    (∀ rule, rule ∈ rules ↔ settings.Breaks rule) ∧ List.Forall₂ (Broken settings) rules problems

variable {settings : Settings}

theorem Broken.unique {rule : Rule} {problem other : ValidationError}
    (broken : Broken settings rule problem) (same : Broken settings rule other) :
    other = problem := by
  cases broken with
  | aliasSpecifier found failed =>
      cases same with
      | aliasSpecifier foundToo failedToo =>
          rw [found] at foundToo
          cases foundToo
          rw [failed] at failedToo
          cases failedToo
          rfl
  | _ =>
      cases same
      rfl

theorem Reports.unique {problems others : List ValidationError}
    (reports : settings.Reports problems) (same : settings.Reports others) :
    others = problems := by
  obtain ⟨rules, ordered, broken, listed⟩ := reports
  obtain ⟨rulesToo, orderedToo, brokenToo, listedToo⟩ := same
  obtain rfl : rules = rulesToo := ordered.eq_of_mem_iff orderedToo fun rule =>
    (broken rule).trans (brokenToo rule).symm
  -- The rules are the same in the same order, and each is reported in one way.
  clear ordered orderedToo broken brokenToo
  induction listed generalizing others with
  | nil => exact List.forall₂_nil_left_iff.mp listedToo
  | cons first rest ih =>
      cases listedToo with
      | cons firstToo restToo => rw [firstToo.unique first, ih restToo]

/-! When a rule is broken -/

theorem breaks_listenerAddress_iff :
    settings.Breaks .listenerAddress ↔ SocketAddress.parse? settings.bindAddress = none := by
  constructor
  · rintro ⟨_, broken⟩
    cases broken with
    | listenerAddress unread => exact unread
  · exact fun unread => ⟨_, .listenerAddress unread⟩

theorem breaks_requestTimeout_iff :
    settings.Breaks .requestTimeout ↔ settings.requestSeconds = 0 := by
  constructor
  · rintro ⟨_, broken⟩
    cases broken with
    | requestTimeout zero => exact zero
  · exact fun zero => ⟨_, .requestTimeout zero⟩

theorem breaks_bodyLimit_iff : settings.Breaks .bodyLimit ↔ settings.maxBodySize = 0 := by
  constructor
  · rintro ⟨_, broken⟩
    cases broken with
    | bodyLimit zero => exact zero
  · exact fun zero => ⟨_, .bodyLimit zero⟩

theorem breaks_logLevel_iff : settings.Breaks .logLevel ↔
    settings.logLevel.toLower ∉ ["trace", "debug", "info", "warn", "error"] := by
  constructor
  · rintro ⟨_, broken⟩
    cases broken with
    | logLevel unknown => exact unknown
  · exact fun unknown => ⟨_, .logLevel unknown⟩

theorem breaks_metricsAddress_iff : settings.Breaks .metricsAddress ↔
    settings.metricsEnabled = true ∧ SocketAddress.parse? settings.metricsAddress = none := by
  constructor
  · rintro ⟨_, broken⟩
    cases broken with
    | metricsAddress enabled unread => exact ⟨enabled, unread⟩
  · exact fun ⟨enabled, unread⟩ => ⟨_, .metricsAddress enabled unread⟩

section Alias

variable {name specifier : String} (found : settings.aliases.get? name = some specifier)

include found

theorem breaks_aliasName_iff : settings.Breaks (.aliasName name) ↔
    (∀ c ∈ name.toList, Text.isBlank c = true) ∨ ':' ∈ name.toList := by
  constructor
  · rintro ⟨_, broken⟩
    cases broken with
    | aliasName _ misnamed => exact misnamed
  · exact fun misnamed => ⟨_, .aliasName found misnamed⟩

theorem breaks_aliasSpecifier_iff : settings.Breaks (.aliasSpecifier name) ↔
    ∃ error, Specifier.parse specifier = .error error := by
  constructor
  · rintro ⟨_, broken⟩
    cases broken with
    | aliasSpecifier foundToo failed =>
        rw [found] at foundToo
        cases foundToo
        exact ⟨_, failed⟩
  · exact fun ⟨_, failed⟩ => ⟨_, .aliasSpecifier found failed⟩

end Alias

/-! The checks in turn -/

/-- Rules checked one after the other, and the problems found. -/
inductive Checked (settings : Settings) : List Rule → List ValidationError → Prop
  | nil : Checked settings [] []
  | kept {rule : Rule} {rules : List Rule} {problems : List ValidationError} :
      ¬ settings.Breaks rule → Checked settings rules problems →
      Checked settings (rule :: rules) problems
  | broken {rule : Rule} {rules : List Rule} {problem : ValidationError}
      {problems : List ValidationError} : Broken settings rule problem →
      Checked settings rules problems → Checked settings (rule :: rules) (problem :: problems)

namespace Checked

variable {rule : Rule} {rules later : List Rule} {problems others : List ValidationError}

theorem append (first : Checked settings rules problems) (second : Checked settings later others) :
    Checked settings (rules ++ later) (problems ++ others) := by
  induction first with
  | nil => exact second
  | kept sound rest ih => exact kept sound ih
  | broken found rest ih => exact broken found ih

theorem flatMap {α : Type} {items : List α} {rulesOf : α → List Rule}
    {problemsOf : α → List ValidationError}
    (each : ∀ item ∈ items, Checked settings (rulesOf item) (problemsOf item)) :
    Checked settings (items.flatMap rulesOf) (items.flatMap problemsOf) := by
  induction items with
  | nil => exact nil
  | cons item items ih =>
      rw [List.flatMap_cons, List.flatMap_cons]
      exact (each item List.mem_cons_self).append
        (ih fun other member => each other (List.mem_cons_of_mem _ member))

theorem of_found {found : Prop} [Decidable found] {problem : ValidationError}
    (complete : settings.Breaks rule ↔ found) (sound : found → Broken settings rule problem) :
    Checked settings [rule] (if found then [problem] else []) := by
  split
  next holds => exact broken (sound holds) nil
  next fails => exact kept (fun breaks => fails (complete.mp breaks)) nil

theorem of_passed {passed : Prop} [Decidable passed] {problem : ValidationError}
    (complete : settings.Breaks rule ↔ ¬ passed) (sound : ¬ passed → Broken settings rule problem) :
    Checked settings [rule] (if passed then [] else [problem]) := by
  split
  next holds => exact kept (fun breaks => complete.mp breaks holds) nil
  next fails => exact broken (sound fails) nil

theorem exists_broken (checked : Checked settings rules problems) :
    ∃ broken : List Rule, broken.Sublist rules ∧
      (∀ rule, rule ∈ broken ↔ rule ∈ rules ∧ settings.Breaks rule) ∧
      List.Forall₂ (Broken settings) broken problems := by
  induction checked with
  | nil => exact ⟨[], List.Sublist.slnil, by simp, .nil⟩
  | @kept rule rules problems sound rest ih =>
      obtain ⟨broken, sub, member, listed⟩ := ih
      refine ⟨broken, sub.cons rule, fun other => ?_, listed⟩
      rw [member, List.mem_cons, or_and_right]
      constructor
      · exact .inr
      · rintro (⟨rfl, breaks⟩ | inside)
        · exact absurd breaks sound
        · exact inside
  | @broken rule rules problem problems found rest ih =>
      obtain ⟨broken, sub, member, listed⟩ := ih
      refine ⟨rule :: broken, sub.cons_cons rule, fun other => ?_, .cons found listed⟩
      rw [List.mem_cons, member, List.mem_cons, or_and_right]
      constructor
      · rintro (rfl | inside)
        · exact .inl ⟨rfl, problem, found⟩
        · exact .inr inside
      · rintro (⟨same, -⟩ | inside)
        · exact .inl same
        · exact .inr inside

end Checked

theorem not_isAddress_iff {text : String} :
    ¬ isAddress text = true ↔ SocketAddress.parse? text = none := by
  rw [isAddress, Option.not_isSome_iff_eq_none]

theorem not_isAliasName_iff {name : String} :
    ¬ isAliasName name = true ↔
      (∀ c ∈ name.toList, Text.isBlank c = true) ∨ ':' ∈ name.toList := by
  rw [← Text.trim_eq_empty_iff]
  simp [isAliasName, imp_iff_or_not, or_comm]

theorem checked_ofAlias {name specifier : String}
    (found : settings.aliases.get? name = some specifier) :
    Checked settings (Rule.ofAlias name) (aliasProblems name specifier) := by
  have checkedName : Checked settings [.aliasName name]
      (if isAliasName name then [] else [.invalidAlias name .name]) := by
    apply Checked.of_passed
    · rw [breaks_aliasName_iff found, not_isAliasName_iff]
    · rw [not_isAliasName_iff]
      exact .aliasName found
  have rules : Rule.ofAlias name = [.aliasName name] ++ [.aliasSpecifier name] := rfl
  rw [rules, aliasProblems]
  apply checkedName.append
  cases parsed : Specifier.parse specifier with
  | error error => exact .broken (.aliasSpecifier found parsed) .nil
  | ok read =>
      apply Checked.kept _ .nil
      rw [breaks_aliasSpecifier_iff found, parsed]
      rintro ⟨error, ⟨⟩⟩

def rules (settings : Settings) : List Rule :=
  Rule.scalars ++ settings.aliases.entries.flatMap fun (name, _) => Rule.ofAlias name

theorem mem_rules_of_breaks {rule : Rule} (breaks : settings.Breaks rule) :
    rule ∈ settings.rules := by
  have inside {name specifier : String} (found : settings.aliases.get? name = some specifier) :
      ∀ rule ∈ Rule.ofAlias name, rule ∈ settings.rules := by
    intro rule member
    obtain ⟨front, back, split, -⟩ := List.lookup_eq_some_iff.mp found
    apply List.mem_append_right
    exact List.mem_flatMap.mpr ⟨(name, specifier), by simp [split], member⟩
  obtain ⟨problem, broken⟩ := breaks
  cases broken with
  | aliasName found => exact inside found _ (by simp [Rule.ofAlias])
  | aliasSpecifier found => exact inside found _ (by simp [Rule.ofAlias])
  | _ => exact List.mem_append_left _ (by simp [Rule.scalars])

section Ordered

variable (ordered : Dictionary.Ordered settings.aliases.entries)

include ordered

theorem pairwise_before_rules : settings.rules.Pairwise Rule.Before := by
  rw [rules, List.pairwise_append, List.pairwise_flatMap]
  refine ⟨Rule.pairwise_before_scalars, ⟨?_, ?_⟩, ?_⟩
  · intro entry _
    exact Rule.pairwise_before_ofAlias entry.1
  · exact ordered.imp fun below => Rule.before_of_lt below
  · intro earlier scalar later member
    obtain ⟨entry, -, inside⟩ := List.mem_flatMap.mp member
    exact Rule.scalar_before_alias entry.1 earlier scalar later inside

theorem checked_problems : Checked settings settings.rules settings.problems := by
  have listener : Checked settings [.listenerAddress]
      (if isAddress settings.bindAddress then []
        else [.invalidAddress .listener settings.bindAddress]) := by
    apply Checked.of_passed
    · rw [breaks_listenerAddress_iff, not_isAddress_iff]
    · rw [not_isAddress_iff]
      exact .listenerAddress
  have timeout : Checked settings [.requestTimeout]
      (if settings.requestSeconds = 0 then [.zeroTimeout] else []) :=
    Checked.of_found breaks_requestTimeout_iff .requestTimeout
  have limit : Checked settings [.bodyLimit]
      (if settings.maxBodySize = 0 then [.zeroBodyLimit] else []) :=
    Checked.of_found breaks_bodyLimit_iff .bodyLimit
  have level : Checked settings [.logLevel]
      (if settings.logLevel.toLower ∈ logLevels then []
        else [.invalidLogLevel settings.logLevel]) :=
    Checked.of_passed breaks_logLevel_iff .logLevel
  have metrics : Checked settings [.metricsAddress]
      (if settings.metricsEnabled && !isAddress settings.metricsAddress then
        [.invalidAddress .metrics settings.metricsAddress] else []) := by
    have found_iff : (settings.metricsEnabled && !isAddress settings.metricsAddress) = true ↔
        settings.metricsEnabled = true ∧ SocketAddress.parse? settings.metricsAddress = none := by
      rw [Bool.and_eq_true, Bool.not_eq_true', ← Bool.not_eq_true, not_isAddress_iff]
    apply Checked.of_found
    · rw [breaks_metricsAddress_iff, found_iff]
    · rw [found_iff]
      exact fun ⟨enabled, unread⟩ => .metricsAddress enabled unread
  have named : Checked settings
      (settings.aliases.entries.flatMap fun (name, _) => Rule.ofAlias name)
      (settings.aliases.entries.flatMap fun (name, specifier) => aliasProblems name specifier) := by
    apply Checked.flatMap
    rintro ⟨name, specifier⟩ member
    exact checked_ofAlias ((Dictionary.mem_iff_lookup_of_ordered ordered).mp member)
  have scalars := (((listener.append timeout).append limit).append level).append metrics
  exact scalars.append named

theorem reports_problems : settings.Reports settings.problems := by
  obtain ⟨broken, sub, member, listed⟩ := (checked_problems ordered).exists_broken
  refine ⟨broken, (pairwise_before_rules ordered).sublist sub, fun rule => ?_, listed⟩
  exact (member rule).trans (and_iff_right_of_imp mem_rules_of_breaks)

theorem problems_eq_nil_iff : settings.problems = [] ↔ ∀ rule, ¬ settings.Breaks rule := by
  obtain ⟨broken, -, member, listed⟩ := reports_problems ordered
  simp only [← member, ← List.eq_nil_iff_forall_not_mem]
  constructor
  · intro none
    rw [none] at listed
    exact List.forall₂_nil_right_iff.mp listed
  · rintro rfl
    exact List.forall₂_nil_left_iff.mp listed

end Ordered

theorem sound_iff : settings.Sound ↔ ∀ rule, ¬ settings.Breaks rule := by
  constructor
  · rintro sound rule ⟨problem, broken⟩
    cases broken with
    | listenerAddress unread =>
        obtain ⟨address, read⟩ := sound.listenerAddress
        simp [unread] at read
    | requestTimeout zero => exact sound.requestTimeout zero
    | bodyLimit zero => exact sound.bodyLimit zero
    | logLevel unknown => exact unknown sound.logLevel
    | metricsAddress enabled unread =>
        rcases sound.metricsAddress with ⟨address, read⟩ | disabled
        · simp [unread] at read
        · simp [enabled] at disabled
    | aliasName found misnamed =>
        obtain ⟨⟨c, member, visible⟩, colonless, -⟩ := sound.aliases _ _ found
        rcases misnamed with blank | colon
        · simp [blank c member] at visible
        · exact colonless colon
    | aliasSpecifier found failed =>
        obtain ⟨-, -, read, parsed⟩ := sound.aliases _ _ found
        simp [failed] at parsed
  · intro kept
    refine ⟨?_, ?_, ?_, ?_, ?_, ?_⟩
    · have read := breaks_listenerAddress_iff.not.mp (kept _)
      exact Option.ne_none_iff_exists'.mp read
    · exact breaks_requestTimeout_iff.not.mp (kept _)
    · exact breaks_bodyLimit_iff.not.mp (kept _)
    · exact not_not.mp (breaks_logLevel_iff.not.mp (kept _))
    · rcases not_and_or.mp (breaks_metricsAddress_iff.not.mp (kept _)) with disabled | read
      · exact .inr (Bool.eq_false_iff.mpr disabled)
      · exact .inl (Option.ne_none_iff_exists'.mp read)
    · intro name specifier found
      obtain ⟨visible, colonless⟩ := not_or.mp ((breaks_aliasName_iff found).not.mp (kept _))
      refine ⟨by simpa using visible, colonless, ?_⟩
      cases parsed : Specifier.parse specifier with
      | error error => exact absurd ((breaks_aliasSpecifier_iff found).mpr ⟨error, parsed⟩) (kept _)
      | ok read => exact ⟨read, rfl⟩

theorem validate_eq_ok_iff {accepted : Settings} :
    settings.validate = .ok accepted ↔ settings.problems = [] ∧ accepted = settings := by
  unfold validate
  cases settings.problems with
  | nil => simp [eq_comm]
  | cons problem problems => simp

theorem validate_eq_error_iff {problems : List ValidationError} :
    settings.validate = .error problems ↔
      settings.problems ≠ [] ∧ settings.problems = problems := by
  unfold validate
  cases settings.problems with
  | nil => simp
  | cons problem problems => simp

end Settings

/-! What a problem tells -/

namespace ValidationError

def fields : ValidationError → List String
  | .invalidAddress field value => ["InvalidAddress", field.text, value]
  | .zeroTimeout => ["ZeroTimeout"]
  | .zeroBodyLimit => ["ZeroBodyLimit"]
  | .invalidLogLevel level => ["InvalidLogLevel", level]
  | .invalidAlias name fault => ["InvalidAlias", name, fault.reason]

open Settings (Rule)

def rule : ValidationError → Rule
  | .invalidAddress .listener _ => .listenerAddress
  | .invalidAddress .metrics _ => .metricsAddress
  | .zeroTimeout => .requestTimeout
  | .zeroBodyLimit => .bodyLimit
  | .invalidLogLevel _ => .logLevel
  | .invalidAlias name .name => .aliasName name
  | .invalidAlias name (.specifier _) => .aliasSpecifier name

theorem head?_toList_append {front : String} {c : Char} (first : front.toList.head? = some c)
    (back : String) : (front ++ back).toList.head? = some c := by
  rw [String.toList_append, List.head?_append, first, Option.some_or]

theorem reason_name_ne (error : SpecifierError) :
    AliasFault.reason .name ≠ AliasFault.reason (.specifier error) := by
  -- The first letters differ, whatever the specifier was.
  have named : (AliasFault.reason .name).toList.head? = some 'a' := by decide
  have start : "invalid injection specifier ".toList.head? = some 'i' := by decide
  have unread : (AliasFault.reason (.specifier error)).toList.head? = some 'i' :=
    head?_toList_append (head?_toList_append (head?_toList_append start _) _) _
  intro same
  have letters : some 'a' = some 'i' :=
    named.symm.trans ((congrArg (fun text : String => text.toList.head?) same).trans unread)
  cases letters

theorem rule_eq_of_fields_eq {problem other : ValidationError}
    (same : problem.fields = other.fields) : problem.rule = other.rule := by
  cases problem with
  | invalidAddress field value =>
      cases other with
      | invalidAddress fieldToo valueToo =>
          have texts : field.text = fieldToo.text := by
            simp only [fields, List.cons.injEq] at same
            exact same.2.1
          cases field <;> cases fieldToo <;> simp_all [AddressField.text, rule]
      | _ => simp [fields] at same
  | invalidAlias name fault =>
      cases other with
      | invalidAlias nameToo faultToo =>
          simp only [fields, List.cons.injEq, and_true, true_and] at same
          obtain ⟨rfl, reasons⟩ := same
          cases fault with
          | name =>
              cases faultToo with
              | name => rfl
              | specifier error => exact absurd reasons (reason_name_ne error)
          | specifier error =>
              cases faultToo with
              | name => exact absurd reasons.symm (reason_name_ne error)
              | specifier errorToo => rfl
      | _ => simp [fields] at same
  | _ =>
      cases other <;> first
        | rfl
        | simp [fields] at same

theorem map_rule_eq_of_map_fields_eq {problems others : List ValidationError}
    (same : problems.map (·.fields) = others.map (·.fields)) :
    problems.map (·.rule) = others.map (·.rule) := by
  induction problems generalizing others with
  | nil =>
      obtain rfl := List.map_eq_nil_iff.mp same.symm
      rfl
  | cons problem problems ih =>
      cases others with
      | nil => cases same
      | cons other others =>
          obtain ⟨first, rest⟩ := List.cons.inj same
          rw [List.map_cons, List.map_cons, rule_eq_of_fields_eq first, ih rest]

end ValidationError

namespace Settings

variable {settings : Settings}

theorem Broken.rule_eq {rule : Rule} {problem : ValidationError}
    (broken : Broken settings rule problem) : problem.rule = rule := by
  cases broken <;> rfl

theorem map_rule_eq {rules : List Rule} {problems : List ValidationError}
    (listed : List.Forall₂ (Broken settings) rules problems) : problems.map (·.rule) = rules := by
  induction listed with
  | nil => rfl
  | cons broken rest ih => rw [List.map_cons, broken.rule_eq, ih]

/-- Validation accepts what keeps to all rules. Of anything else it reports each broken rule once
and in order, and nothing besides, so which rules were broken can be told from the report. -/
theorem validate_reports (settings : Settings)
    (ordered : Dictionary.Ordered settings.aliases.entries) :
    (settings.validate = .ok settings ↔ settings.Sound) ∧
    (∀ problems, settings.validate = .error problems ↔
      (∃ rule, settings.Breaks rule) ∧ settings.Reports problems) ∧
    ∀ other : Settings, Dictionary.Ordered other.aliases.entries →
      settings.problems.map (·.fields) = other.problems.map (·.fields) →
      ∀ rule, settings.Breaks rule ↔ other.Breaks rule := by
  have reports := reports_problems ordered
  refine ⟨?_, ?_, ?_⟩
  · rw [validate_eq_ok_iff, problems_eq_nil_iff ordered, sound_iff]
    exact and_iff_left rfl
  · intro problems
    rw [validate_eq_error_iff, ne_eq, problems_eq_nil_iff ordered, not_forall_not]
    constructor
    · rintro ⟨broken, rfl⟩
      exact ⟨broken, reports⟩
    · rintro ⟨broken, same⟩
      exact ⟨broken, same.unique reports⟩
  · intro other orderedToo same rule
    obtain ⟨rules, -, member, listed⟩ := reports
    obtain ⟨rulesToo, -, memberToo, listedToo⟩ := reports_problems orderedToo
    have told := ValidationError.map_rule_eq_of_map_fields_eq same
    rw [map_rule_eq listed, map_rule_eq listedToo] at told
    rw [← member, ← memberToo, told]

def careless (maxBodySize : Nat) : Settings :=
  { default with
    requestSeconds := 0
    maxBodySize
    logLevel := "LOUD"
    aliases := .ofList [("b", ""), ("a:c", ":y"), (" ", "kv:x")] }

def carelessProblems : List ValidationError :=
  [.zeroTimeout, .invalidLogLevel "LOUD", .invalidAlias " " .name, .invalidAlias "a:c" .name,
    .invalidAlias "a:c" (.specifier ⟨":y", .emptyHead⟩),
    .invalidAlias "b" (.specifier ⟨"", .empty⟩)]

/-- One alias breaks two rules. A body limit that is kept leaves no trace in the report. -/
theorem validate_reports_careless :
    Dictionary.Ordered (careless 1).aliases.entries ∧ ¬ (careless 1).Sound ∧
    (careless 1).Reports carelessProblems ∧
    ∀ rule, (careless 1).Breaks rule ↔ (careless 2).Breaks rule := by
  have ordered (maxBodySize : Nat) : Dictionary.Ordered (careless maxBodySize).aliases.entries :=
    Dictionary.ordered_ofList _
  obtain ⟨sound, reported, told⟩ := validate_reports (careless 1) (ordered 1)
  have lower : "LOUD".toLower = "loud" := by
    rw [← String.toList_inj, Text.toList_toLower]
    decide
  have level (maxBodySize : Nat) : (careless maxBodySize).logLevel.toLower = "loud" := lower
  have found : (careless 1).problems = carelessProblems := by
    rw [problems, level]
    decide
  have foundToo : (careless 2).problems = carelessProblems := by
    rw [problems, level]
    decide
  have refused : (careless 1).validate = .error carelessProblems :=
    validate_eq_error_iff.mpr ⟨by simp [found, carelessProblems], found⟩
  refine ⟨ordered 1, ?_, ((reported _).mp refused).2, ?_⟩
  · intro accepted
    rw [sound.mpr accepted] at refused
    cases refused
  · exact told (careless 2) (ordered 2) (by rw [found, foundToo])

end Settings

end Switchboard
