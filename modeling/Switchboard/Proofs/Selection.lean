import Switchboard.Proofs.Specificity
import Switchboard.Table

/-!
Which handler serves an exchange. The entries that a sequence of calls registers are read off the
calls; of those for the method whose template matches, the first that none surpasses leads. The
first entry with the template of the leader that is satisfied is selected, and otherwise the
fallback. The scan for the best template is followed step by step.
-/

namespace Switchboard

def First {α : Type} (property : α → Prop) (list : List α) (value : α) : Prop :=
  ∃ earlier later, list = earlier ++ value :: later ∧ property value ∧
    ∀ other ∈ earlier, ¬property other

namespace First

variable {α : Type} {property : α → Prop} {list : List α} {value : α}

theorem holds (first : First property list value) : property value := by
  obtain ⟨_, _, _, holds, _⟩ := first
  exact holds

theorem mem (first : First property list value) : value ∈ list := by
  obtain ⟨earlier, later, rfl, _, _⟩ := first
  simp

theorem cons_iff {head : α} :
    First property (head :: list) value ↔
      (property head ∧ value = head) ∨ (¬property head ∧ First property list value) := by
  constructor
  · rintro ⟨earlier, later, split, holds, none⟩
    cases earlier with
    | nil =>
        obtain ⟨rfl, rfl⟩ := List.cons.inj split
        exact .inl ⟨holds, rfl⟩
    | cons other earlier =>
        obtain ⟨rfl, rfl⟩ := List.cons.inj split
        refine .inr ⟨none head (by simp), earlier, later, rfl, holds, ?_⟩
        exact fun other member => none other (by simp [member])
  · rintro (⟨holds, rfl⟩ | ⟨fails, earlier, later, rfl, holds, none⟩)
    · exact ⟨[], list, rfl, holds, by simp⟩
    · refine ⟨head :: earlier, later, rfl, holds, ?_⟩
      intro other member
      rcases List.mem_cons.mp member with rfl | inside
      · exact fails
      · exact none other inside

theorem unique {other : α} (first : First property list value)
    (second : First property list other) : other = value := by
  induction list with
  | nil => simp [First] at first
  | cons head list ih =>
      rcases cons_iff.mp first with ⟨holds, rfl⟩ | ⟨fails, later⟩
      · rcases cons_iff.mp second with ⟨-, rfl⟩ | ⟨otherFails, -⟩
        · rfl
        · exact absurd holds otherFails
      · rcases cons_iff.mp second with ⟨otherHolds, -⟩ | ⟨-, otherLater⟩
        · exact absurd otherHolds fails
        · exact ih later otherLater

theorem exists_of_mem (member : value ∈ list) (holds : property value) :
    ∃ first, First property list first := by
  induction list with
  | nil => cases member
  | cons head list ih =>
      by_cases front : property head
      · exact ⟨head, cons_iff.mpr (.inl ⟨front, rfl⟩)⟩
      · rcases List.mem_cons.mp member with rfl | later
        · exact absurd holds front
        · obtain ⟨first, found⟩ := ih later
          exact ⟨first, cons_iff.mpr (.inr ⟨front, found⟩)⟩

theorem append_iff {front back : List α} :
    First property (front ++ back) value ↔
      First property front value ∨ (∀ other ∈ front, ¬property other) ∧
        First property back value := by
  induction front with
  | nil => simp [First]
  | cons head front ih =>
      rw [List.cons_append, cons_iff, cons_iff, List.forall_mem_cons, ih]
      tauto

theorem flatMap_iff {β : Type} {select : β → List α} {origins : List β} :
    First property (origins.flatMap select) value ↔
      ∃ origin, First (fun other => ∃ value ∈ select other, property value) origins origin ∧
        First property (select origin) value := by
  induction origins with
  | nil => simp [First]
  | cons head origins ih =>
      rw [List.flatMap_cons, append_iff, ih]
      simp only [cons_iff]
      constructor
      · rintro (front | ⟨none, origin, found, inside⟩)
        · exact ⟨head, .inl ⟨⟨value, front.mem, front.holds⟩, rfl⟩, front⟩
        · refine ⟨origin, .inr ⟨?_, found⟩, inside⟩
          rintro ⟨other, member, holds⟩
          exact none other member holds
      · rintro ⟨origin, ⟨_, rfl⟩ | ⟨none, found⟩, inside⟩
        · exact .inl inside
        · refine .inr ⟨?_, origin, found, inside⟩
          intro other member holds
          exact none ⟨other, member, holds⟩

theorem append {later : List α} (first : First property list value) :
    First property (list ++ later) value :=
  append_iff.mpr (.inl first)

theorem imp {weaker : α → Prop} (first : First property list value) (kept : weaker value)
    (back : ∀ other ∈ list, weaker other → property other) : First weaker list value := by
  obtain ⟨before, after, rfl, holds, none⟩ := first
  refine ⟨before, after, rfl, kept, ?_⟩
  intro other member otherHolds
  exact none other member (back other (by simp [member]) otherHolds)

theorem last (holds : property value) (none : ∀ other ∈ list, ¬property other) :
    First property (list ++ [value]) value :=
  append_iff.mpr (.inr ⟨none, cons_iff.mpr (.inl ⟨holds, rfl⟩)⟩)

theorem filter_iff {test : α → Bool}
    (passes : ∀ other ∈ list, property other → test other = true) :
    First property (list.filter test) value ↔ First property list value := by
  induction list with
  | nil => rfl
  | cons head list ih =>
      have later := ih fun other member => passes other (List.mem_cons_of_mem head member)
      by_cases kept : test head = true
      · rw [List.filter_cons_of_pos kept, cons_iff, cons_iff, later]
      · have fails : ¬property head := fun holds => kept (passes head List.mem_cons_self holds)
        rw [List.filter_cons_of_neg kept, cons_iff, later]
        tauto

end First

theorem first_iff_find? {α : Type} (test : α → Bool) (list : List α) (value : α) :
    First (fun other => test other = true) list value ↔ list.find? test = some value := by
  rw [List.find?_eq_some_iff_append]
  constructor
  · rintro ⟨earlier, later, split, holds, none⟩
    exact ⟨holds, earlier, later, split, fun other member => by simpa using none other member⟩
  · rintro ⟨holds, earlier, later, split, none⟩
    exact ⟨earlier, later, split, holds, fun other member => by simpa using none other member⟩

variable {m : Type → Type}

namespace Entry

def Matches (path : String) (entry : Entry m) : Prop :=
  ∃ captures, entry.template.captures? path = some captures

structure Leads (entries : List (Entry m)) (path : String) (entry : Entry m) : Prop where
  matching : entry.Matches path
  narrowest : ∀ other ∈ entries, other.Matches path →
    ¬entry.template.specificity < other.template.specificity

def Satisfied (view : Exchange) (entry : Entry m) : Prop :=
  ∀ condition, entry.condition = some condition → condition view = true

end Entry

namespace Table

def Won (entries : List (Entry m)) (path : String) : Option Winner → Prop
  | none => ∀ entry ∈ entries, ¬entry.Matches path
  | some winner => ∃ leader, First (Entry.Leads entries path) entries leader ∧
      leader.template = winner.template ∧
      leader.template.captures? path = some winner.captures

theorem leads_append_singleton {entries : List (Entry m)} {path : String} {leader entry : Entry m}
    (leads : leader.Leads entries path)
    (behind : entry.Matches path → ¬leader.template.specificity < entry.template.specificity) :
    leader.Leads (entries ++ [entry]) path := by
  refine ⟨leads.matching, ?_⟩
  intro other member matching
  rcases List.mem_append.mp member with old | new
  · exact leads.narrowest other old matching
  · rw [List.mem_singleton.mp new] at matching ⊢
    exact behind matching

theorem leads_of_append {entries later : List (Entry m)} {path : String} {leader : Entry m}
    (leads : leader.Leads (entries ++ later) path) : leader.Leads entries path :=
  ⟨leads.matching, fun other member => leads.narrowest other (List.mem_append_left _ member)⟩

/-- The leader of a longer list is the one before, unless the new entry surpasses it. -/
theorem first_leads_append_singleton {entries : List (Entry m)} {path : String}
    {leader entry : Entry m} (first : First (Entry.Leads entries path) entries leader)
    (behind : entry.Matches path → ¬leader.template.specificity < entry.template.specificity) :
    First (Entry.Leads (entries ++ [entry]) path) (entries ++ [entry]) leader :=
  (first.imp (leads_append_singleton first.holds behind) fun _ _ => leads_of_append).append

theorem first_leads_of_narrower {entries : List (Entry m)} {path : String} {leader entry : Entry m}
    (leads : leader.Leads entries path) (member : leader ∈ entries) (matching : entry.Matches path)
    (narrower : leader.template.specificity < entry.template.specificity) :
    First (Entry.Leads (entries ++ [entry]) path) (entries ++ [entry]) entry := by
  apply First.last
  · refine ⟨matching, ?_⟩
    intro other otherMember otherMatching above
    rcases List.mem_append.mp otherMember with old | new
    · exact leads.narrowest other old otherMatching (Specificity.lt_trans narrower above)
    · rw [List.mem_singleton.mp new] at above
      exact Specificity.lt_irrefl _ above
  · intro other otherMember otherLeads
    have level := otherLeads.narrowest leader (by simp [member]) leads.matching
    have above : ¬leader.template.specificity < other.template.specificity :=
      leads.narrowest other otherMember otherLeads.matching
    exact otherLeads.narrowest entry (by simp) matching
      (Specificity.lt_of_not_lt_of_lt above narrower)

theorem leader_unique {entries : List (Entry m)} {path : String} {leader other : Entry m}
    {captures seen : Captures} (leads : First (Entry.Leads entries path) entries leader)
    (captured : leader.template.captures? path = some captures)
    (otherLeads : First (Entry.Leads entries path) entries other)
    (otherCaptured : other.template.captures? path = some seen) :
    other = leader ∧ seen = captures := by
  obtain rfl := leads.unique otherLeads
  exact ⟨rfl, Option.some.inj (otherCaptured.symm.trans captured)⟩

theorem won_improve {entries : List (Entry m)} {path : String} {best : Option Winner}
    (won : Won entries path best) (entry : Entry m) :
    Won (entries ++ [entry]) path (improve path best entry) := by
  cases captured : entry.template.captures? path with
  | none =>
      have unmatched : ¬entry.Matches path := by simp [Entry.Matches, captured]
      simp only [improve, captured]
      cases best with
      | none =>
          intro other member
          rcases List.mem_append.mp member with old | new
          · exact won other old
          · rwa [List.mem_singleton.mp new]
      | some winner =>
          obtain ⟨leader, first, same, leaderCaptured⟩ := won
          refine ⟨leader, ?_, same, leaderCaptured⟩
          exact first_leads_append_singleton first fun matching => absurd matching unmatched
  | some captures =>
      have matching : entry.Matches path := ⟨captures, captured⟩
      cases best with
      | none =>
          simp only [improve, captured]
          refine ⟨entry, First.last ⟨matching, ?_⟩ ?_, rfl, captured⟩
          · intro other member otherMatching
            rcases List.mem_append.mp member with old | new
            · exact absurd otherMatching (won other old)
            · rw [List.mem_singleton.mp new]
              exact Specificity.lt_irrefl _
          · intro other member otherLeads
            exact won other member otherLeads.matching
      | some winner =>
          obtain ⟨leader, first, same, leaderCaptured⟩ := won
          simp only [improve, captured]
          -- A level entry does not replace the one under consideration.
          by_cases narrower : winner.template.specificity < entry.template.specificity
          · rw [if_pos narrower]
            rw [← same] at narrower
            exact ⟨entry, first_leads_of_narrower first.holds first.mem matching narrower, rfl,
              captured⟩
          · rw [if_neg narrower]
            rw [← same] at narrower
            exact ⟨leader, first_leads_append_singleton first fun _ => narrower, same,
              leaderCaptured⟩

theorem winner?_won (entries : List (Entry m)) (path : String) :
    Won entries path (winner? entries path) := by
  induction entries using List.reverseRecOn with
  | nil => exact fun entry member => by simp at member
  | append_singleton entries entry ih =>
      rw [winner?, List.foldl_append]
      exact won_improve ih entry

theorem applies_viewOf {exchange : Exchange} {captures : Captures} {candidates : List (Entry m)}
    {entry : Entry m} (member : entry ∈ candidates) :
    applies (viewOf exchange captures candidates) entry =
      applies (exchange.addParameters captures) entry := by
  rw [viewOf]
  split
  next => rfl
  next skipped =>
    simp only [Bool.and_eq_true, Bool.not_eq_true', not_and, Bool.not_eq_true,
      List.any_eq_false] at skipped
    cases condition : entry.condition with
    | none => simp [applies, condition]
    | some test =>
        cases captures with
        | nil => simp [Exchange.addParameters, Parameters.addAll]
        | cons capture captures => simpa [condition] using skipped (by simp) entry member

theorem applies_iff (view : Exchange) (entry : Entry m) :
    applies view entry = true ↔ entry.Satisfied view := by
  cases condition : entry.condition <;> simp [applies, Entry.Satisfied, condition]

/-- Whether an entry may serve under a template that captured something. -/
def Fits (exchange : Exchange) (template : Template) (captures : Captures) (entry : Entry m) :
    Prop :=
  entry.template = template ∧ entry.Satisfied (exchange.addParameters captures)

theorem find?_candidates (exchange : Exchange) (template : Template) (captures : Captures)
    (entries : List (Entry m)) :
    let candidates := entries.filter fun entry => entry.template = template
    candidates.find? (applies (viewOf exchange captures candidates)) =
      entries.find? fun entry =>
        decide (entry.template = template) && applies (exchange.addParameters captures) entry := by
  intro candidates
  have same : ∀ entry ∈ candidates, applies (viewOf exchange captures candidates) entry =
      applies (exchange.addParameters captures) entry := fun _ member => applies_viewOf member
  rw [List.find?_congr same]
  simp only [candidates, List.find?_filter, Bool.decide_and, decide_eq_true_eq, Bool.decide_eq_true]

end Table

end Switchboard
