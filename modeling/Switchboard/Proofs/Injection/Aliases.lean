import Mathlib.Data.List.Induction
import Mathlib.Logic.Relation
import Mathlib.Data.List.Chain
import Switchboard.Injection.Registry

/-!
Where aliases lead. A specifier leads through the alias table to a target, or the names on the way
come back to one of them; which of the two is fixed by what the table holds for each name.
-/

namespace Switchboard

variable {table : String → Option Specifier}

/-- What a specifier stands for once all aliases are followed. -/
inductive Ends (table : String → Option Specifier) : Specifier → Target → Prop
  | prefixed (head suffix : String) : Ends table (.prefixed head suffix) (.prefixed head suffix)
  | unknown {name : String} : table name = none → Ends table (.named name) (.unknownAlias name)
  | next {name : String} {specifier : Specifier} {target : Target} :
      table name = some specifier → Ends table specifier target → Ends table (.named name) target

def Renames (table : String → Option Specifier) (name next : String) : Prop :=
  table name = some (.named next)

/-- A name from which the table leads to one that it leads back to. -/
def LeadsIntoCycle (table : String → Option Specifier) (start : String) : Prop :=
  ∃ name, Relation.ReflTransGen (Renames table) start name ∧
    Relation.TransGen (Renames table) name name

/-- The walk through the table from a name up to the first name that was met before. -/
structure Returns (table : String → Option Specifier) (start : String) (chain : List String) :
    Prop where
  start : chain.head? = some start
  linked : chain.IsChain (Renames table)
  back : ∃ walked name, chain = walked ++ [name] ∧ walked.Nodup ∧ name ∈ walked

structure Walked (table : String → Option Specifier) (chain : List String) (specifier : Specifier) :
    Prop where
  distinct : chain.Nodup
  linked : chain.IsChain (Renames table)
  last : ∀ name ∈ chain.getLast?, table name = some specifier

namespace Walked

variable {chain : List String} {name : String} {specifier : Specifier}

theorem nil : Walked table [] specifier := ⟨.nil, .nil, by simp⟩

theorem linked_append (walked : Walked table chain (.named name)) :
    (chain ++ [name]).IsChain (Renames table) := by
  rw [List.isChain_append]
  refine ⟨walked.linked, .singleton name, ?_⟩
  intro before last next first
  obtain rfl : name = next := by simpa using first
  exact walked.last before last

theorem append (walked : Walked table chain (.named name)) (fresh : name ∉ chain)
    (found : table name = some specifier) : Walked table (chain ++ [name]) specifier := by
  refine ⟨?_, walked.linked_append, ?_⟩
  · rw [List.nodup_append]
    refine ⟨walked.distinct, by simp, ?_⟩
    rintro other member last inside rfl
    exact fresh (List.mem_singleton.mp inside ▸ member)
  · intro last member
    obtain rfl : name = last := by simpa using member
    exact found

end Walked

/-- The dictionary still holds what the table does, but for names of the chain. These are not asked
for again. -/
def Remains (table : String → Option Specifier) (chain : List String)
    (unused : Dictionary Specifier) : Prop :=
  ∀ name, name ∉ chain → unused.get? name = table name

theorem Remains.erase {chain : List String} {unused : Dictionary Specifier}
    (remains : Remains table chain unused) (name : String) :
    Remains table (chain ++ [name]) (unused.erase name) := by
  intro other unmet
  simp only [List.mem_append, List.mem_singleton, not_or] at unmet
  rw [Dictionary.get?_erase_of_ne _ unmet.2, remains other unmet.1]

theorem ends_of_follow {unused : Dictionary Specifier} {chain : List String}
    {specifier : Specifier} {target : Target} (remains : Remains table chain unused)
    (found : follow unused chain specifier = .ok target) : Ends table specifier target := by
  fun_induction follow unused chain specifier with
  | case1 unused chain head suffix =>
      cases found
      exact Ends.prefixed head suffix
  | case2 => cases found
  | case3 unused chain name fresh missing =>
      cases found
      exact Ends.unknown ((remains name fresh).symm.trans missing)
  | case4 unused chain name fresh next known fewer ih =>
      exact Ends.next ((remains name fresh).symm.trans known) (ih (remains.erase name) found)

theorem returns_of_follow {unused : Dictionary Specifier} {chain : List String}
    {specifier : Specifier} {cycle : AliasCycle} (remains : Remains table chain unused)
    (walked : Walked table chain specifier)
    (found : follow unused chain specifier = .error cycle) :
    ∃ name start, specifier = .named name ∧ (chain ++ [name]).head? = some start ∧
      Returns table start cycle.chain := by
  fun_induction follow unused chain specifier with
  | case1 => cases found
  | case2 unused chain name met =>
      cases found
      obtain ⟨start, first⟩ : ∃ start, (chain ++ [name]).head? = some start := by
        cases chain <;> simp
      exact ⟨name, start, rfl, first, first, walked.linked_append, chain, name, rfl,
        walked.distinct, met⟩
  | case3 => cases found
  | case4 unused chain name fresh next known fewer ih =>
      have looked : table name = some next := (remains name fresh).symm.trans known
      obtain ⟨later, start, rfl, first, returns⟩ :=
        ih (remains.erase name) (walked.append fresh looked) found
      refine ⟨name, start, rfl, ?_, returns⟩
      rw [← first]
      cases chain <;> simp

theorem LeadsIntoCycle.exists_next {name : String} (leads : LeadsIntoCycle table name) :
    ∃ next, Renames table name next ∧ LeadsIntoCycle table next := by
  obtain ⟨met, reached, cycles⟩ := leads
  rcases reached.cases_head with rfl | ⟨next, renames, later⟩
  · obtain ⟨next, renames, back⟩ := Relation.TransGen.head'_iff.mp cycles
    exact ⟨next, renames, name, back, cycles⟩
  · exact ⟨next, renames, met, later, cycles⟩

theorem Ends.not_leadsIntoCycle {specifier : Specifier} {target : Target}
    (ends : Ends table specifier target) :
    ∀ name, specifier = .named name → ¬LeadsIntoCycle table name := by
  induction ends with
  | prefixed => simp
  | unknown missing =>
      rintro name ⟨⟩ leads
      obtain ⟨next, renames, -⟩ := leads.exists_next
      simp [Renames, missing] at renames
  | next known ends ih =>
      rintro name ⟨⟩ leads
      obtain ⟨next, renames, later⟩ := leads.exists_next
      exact ih next (Option.some.inj (known.symm.trans renames)) later

theorem Ends.unique {specifier : Specifier} {target other : Target}
    (ends : Ends table specifier target) (same : Ends table specifier other) : other = target := by
  induction ends with
  | prefixed =>
      cases same
      rfl
  | unknown missing =>
      cases same with
      | unknown => rfl
      | next known => simp [missing] at known
  | next known ends ih =>
      cases same with
      | unknown missing => simp [missing] at known
      | next otherKnown otherEnds =>
          obtain rfl := Option.some.inj (known.symm.trans otherKnown)
          exact ih otherEnds

theorem reaches_of_isChain {first last : String} {chain : List String}
    (linked : chain.IsChain (Renames table)) (starts : chain.head? = some first)
    (stops : chain.getLast? = some last) :
    Relation.ReflTransGen (Renames table) first last := by
  cases chain with
  | nil => cases starts
  | cons name names =>
      obtain rfl := Option.some.inj starts
      refine List.relationReflTransGen_of_exists_isChain_cons names linked ?_
      rwa [List.getLast?_eq_some_getLast (List.cons_ne_nil _ _), Option.some.injEq] at stops

theorem Returns.leadsIntoCycle {start : String} {chain : List String}
    (returns : Returns table start chain) : LeadsIntoCycle table start := by
  obtain ⟨first, linked, walked, name, rfl, -, member⟩ := returns
  obtain ⟨before, after, rfl⟩ := List.append_of_mem member
  -- The walk is split where it meets the name for the first time.
  have split : (before ++ name :: after) ++ [name] = (before ++ [name]) ++ (after ++ [name]) := by
    simp
  have around : (name :: (after ++ [name])).IsChain (Renames table) := by
    apply List.IsChain.right_of_append
    rwa [List.append_assoc, List.cons_append] at linked
  rw [split] at first linked
  obtain ⟨next, follows⟩ : ∃ next, (after ++ [name]).head? = some next := by
    cases after <;> simp
  obtain ⟨renames, back⟩ := List.isChain_cons.mp around
  refine ⟨name, reaches_of_isChain linked.left_of_append ?_ (by simp), ?_⟩
  · rw [← first]
    cases before <;> simp
  · exact .head' (renames next follows) (reaches_of_isChain back follows (by simp))

theorem prefix_or_prefix {one other : List String} (linked : one.IsChain (Renames table))
    (otherLinked : other.IsChain (Renames table)) (same : one.head? = other.head?) :
    one <+: other ∨ other <+: one := by
  induction one generalizing other with
  | nil => exact .inl (List.nil_prefix)
  | cons name names ih =>
      cases other with
      | nil => exact .inr (List.nil_prefix)
      | cons otherName others =>
          obtain rfl : name = otherName := by simpa using same
          obtain ⟨renames, later⟩ := List.isChain_cons.mp linked
          obtain ⟨otherRenames, otherLater⟩ := List.isChain_cons.mp otherLinked
          cases names with
          | nil => exact .inl (by simp)
          | cons next names =>
              cases others with
              | nil => exact .inr (by simp)
              | cons otherNext others =>
                  have follows : next = otherNext := by
                    have both := (renames next rfl).symm.trans (otherRenames otherNext rfl)
                    simpa using both
                  simpa using ih later otherLater (by simp [follows])

theorem Returns.not_nodup {start : String} {chain : List String}
    (returns : Returns table start chain) : ¬chain.Nodup := by
  obtain ⟨-, -, walked, name, rfl, -, member⟩ := returns
  intro distinct
  exact (List.nodup_append.mp distinct).2.2 name member name (by simp) rfl

theorem Returns.eq_of_prefix {start otherStart : String} {chain other : List String}
    (returns : Returns table start chain) (longer : Returns table otherStart other)
    (front : chain <+: other) : other = chain := by
  obtain ⟨-, -, walked, name, rfl, distinct, -⟩ := longer
  rcases List.prefix_concat_iff.mp front with whole | inside
  · exact whole.symm
  · exact absurd (distinct.sublist inside.sublist) returns.not_nodup

theorem Returns.unique {start : String} {chain other : List String}
    (returns : Returns table start chain) (same : Returns table start other) : other = chain := by
  rcases prefix_or_prefix returns.linked same.linked (returns.start.trans same.start.symm) with
    front | front
  · exact returns.eq_of_prefix same front
  · exact (same.eq_of_prefix returns front).symm

/-! The walk through a dictionary -/

variable {aliases other : Dictionary Specifier} {specifier : Specifier}

theorem ends_or_returns (aliases : Dictionary Specifier) (specifier : Specifier) :
    (∃ target, follow aliases [] specifier = .ok target ∧ Ends aliases.get? specifier target) ∨
    ∃ start chain, follow aliases [] specifier = .error ⟨chain⟩ ∧ specifier = .named start ∧
      Returns aliases.get? start chain := by
  cases found : follow aliases [] specifier with
  | ok target => exact .inl ⟨target, rfl, ends_of_follow (fun _ _ => rfl) found⟩
  | error cycle =>
      obtain ⟨name, start, rfl, first, returns⟩ := returns_of_follow (fun _ _ => rfl) .nil found
      obtain rfl : name = start := by simpa using first
      exact .inr ⟨name, cycle.chain, rfl, rfl, returns⟩

theorem follow_eq_ok_iff {target : Target} :
    follow aliases [] specifier = .ok target ↔ Ends aliases.get? specifier target := by
  refine ⟨ends_of_follow fun _ _ => rfl, ?_⟩
  intro ends
  rcases ends_or_returns aliases specifier with
    ⟨found, followed, same⟩ | ⟨start, _, -, rfl, returns⟩
  · rw [followed, ends.unique same]
  · exact absurd returns.leadsIntoCycle (ends.not_leadsIntoCycle start rfl)

theorem follow_eq_error_iff {cycle : AliasCycle} :
    follow aliases [] specifier = .error cycle ↔
      ∃ start, specifier = .named start ∧ Returns aliases.get? start cycle.chain := by
  rcases ends_or_returns aliases specifier with
    ⟨target, followed, ends⟩ | ⟨start, chain, followed, rfl, returns⟩
  · rw [followed]
    simp only [reduceCtorEq, false_iff, not_exists, not_and]
    intro start same returns
    exact ends.not_leadsIntoCycle start same returns.leadsIntoCycle
  · rw [followed]
    constructor
    · rintro ⟨⟩
      exact ⟨start, rfl, returns⟩
    · rintro ⟨_, ⟨⟩, same⟩
      rw [← returns.unique same]

theorem exists_returns_iff {start : String} :
    (∃ chain, Returns aliases.get? start chain) ↔ LeadsIntoCycle aliases.get? start := by
  constructor
  · rintro ⟨chain, returns⟩
    exact returns.leadsIntoCycle
  · intro leads
    rcases ends_or_returns aliases (.named start) with
      ⟨target, -, ends⟩ | ⟨_, chain, -, ⟨⟩, returns⟩
    · exact absurd leads (ends.not_leadsIntoCycle start rfl)
    · exact ⟨chain, returns⟩

theorem follow_congr (same : aliases.get? = other.get?) (specifier : Specifier) :
    follow aliases [] specifier = follow other [] specifier := by
  cases found : follow other [] specifier with
  | ok target => rwa [follow_eq_ok_iff, same, ← follow_eq_ok_iff]
  | error cycle => rwa [follow_eq_error_iff, same, ← follow_eq_error_iff]

end Switchboard
