import Mathlib.Data.List.FinRange
import Mathlib.Data.List.Sort
import Mathlib.Logic.Equiv.Fin.Rotate
import Switchboard.Proofs.Dispatch

/-!
Which registrations may change places. The entry that leads and the entry that fits are each the
first of their kind among entries of one method that are level in specificity. As long as such
entries keep their order, entries of other methods and specificities may stand anywhere.
-/

namespace Switchboard

/-- The second list has the members of the first in other places, and members that are related are
still in the order they had. -/
def Rearranged {α : Type} (related : α → α → Prop) (first second : List α) : Prop :=
  ∃ place : Fin first.length ≃ Fin second.length,
    (∀ index, second[place index] = first[index]) ∧
    ∀ earlier later, earlier < later → related first[earlier] first[later] →
      place earlier < place later

namespace Rearranged

variable {α β : Type} {related : α → α → Prop} {first second : List α}

def places (test : α → Bool) (list : List α) : List (Fin list.length) :=
  (List.finRange list.length).filter fun index => test list[index]

theorem mem_places {test : α → Bool} {list : List α} {index : Fin list.length} :
    index ∈ places test list ↔ test list[index] = true := by
  simp [places]

theorem sortedLT_places (test : α → Bool) (list : List α) : (places test list).SortedLT :=
  ((List.pairwise_lt_finRange list.length).filter _).sortedLT

theorem map_places (test : α → Bool) (list : List α) :
    ((places test list).map fun index => list[index]) = list.filter test := by
  conv_rhs => rw [← List.map_getElem_finRange list]
  rw [List.filter_map]
  rfl

theorem filter_eq (rearranged : Rearranged related first second) {test : α → Bool}
    (close : ∀ one other, test one = true → test other = true → related one other) :
    second.filter test = first.filter test := by
  obtain ⟨place, same, ordered⟩ := rearranged
  -- Both lists of places ascend, and they have the same members.
  have sorted : ((places test first).map place).SortedLT := by
    apply List.Pairwise.sortedLT
    rw [List.pairwise_map]
    apply (sortedLT_places test first).pairwise.imp_of_mem
    intro earlier later earlierIn laterIn below
    exact ordered earlier later below (close _ _ (mem_places.mp earlierIn) (mem_places.mp laterIn))
  have moved : (places test first).map place = places test second := by
    apply List.Subset.antisymm_of_sortedLT ?_ ?_ sorted (sortedLT_places test second)
    · intro index member
      obtain ⟨origin, inside, rfl⟩ := List.mem_map.mp member
      rw [mem_places, same]
      exact mem_places.mp inside
    · intro index member
      obtain ⟨origin, rfl⟩ := place.surjective index
      rw [mem_places, same] at member
      exact List.mem_map_of_mem (mem_places.mpr member)
  rw [← map_places test first, ← map_places test second, ← moved, List.map_map]
  exact List.map_congr_left fun index _ => same index

theorem filterMap_eq (rearranged : Rearranged related first second) {select : α → Option β}
    (close : ∀ one other, (select one).isSome = true → (select other).isSome = true →
      related one other) :
    second.filterMap select = first.filterMap select := by
  have skip : ∀ list : List α,
      (list.filter fun value => (select value).isSome).filterMap select =
        list.filterMap select := by
    intro list
    rw [List.filterMap_filter]
    congr 1
    funext value
    cases select value <;> rfl
  rw [← skip first, ← skip second, rearranged.filter_eq close]

end Rearranged

variable {m : Type → Type}

namespace Table

def Level (specificity : Specificity) (entry : Entry m) : Bool :=
  entry.template.specificity = specificity

/-- Entries that are level in specificity stand in the same order in both lists. -/
def Aligned (first second : List (Entry m)) : Prop :=
  ∀ specificity, second.filter (Level specificity) = first.filter (Level specificity)

namespace Aligned

variable {first second : List (Entry m)}

theorem symm (aligned : Aligned first second) : Aligned second first :=
  fun specificity => (aligned specificity).symm

theorem mem_iff (aligned : Aligned first second) {entry : Entry m} :
    entry ∈ second ↔ entry ∈ first := by
  have own : Level entry.template.specificity entry = true := decide_eq_true rfl
  have both := congrArg (entry ∈ ·) (aligned entry.template.specificity)
  simpa only [List.mem_filter, own, and_true, eq_iff_iff] using both

theorem first_of_level {property : Entry m → Prop} {entry : Entry m}
    (aligned : Aligned first second)
    (level : ∀ other ∈ first, property other →
      other.template.specificity = entry.template.specificity)
    (found : First property first entry) : First property second entry := by
  have passes : ∀ other ∈ first, property other → Level entry.template.specificity other = true :=
    fun other member holds => decide_eq_true (level other member holds)
  rw [← First.filter_iff fun other member => passes other (aligned.mem_iff.mp member),
    aligned entry.template.specificity, First.filter_iff passes]
  exact found

theorem leads (aligned : Aligned first second) {path : String} {leader : Entry m}
    (leads : First (Entry.Leads first path) first leader) :
    First (Entry.Leads second path) second leader := by
  have same : Entry.Leads second path = Entry.Leads first path := by
    funext entry
    apply propext
    constructor
    · rintro ⟨matching, narrowest⟩
      exact ⟨matching, fun other member => narrowest other (aligned.mem_iff.mpr member)⟩
    · rintro ⟨matching, narrowest⟩
      exact ⟨matching, fun other member => narrowest other (aligned.mem_iff.mp member)⟩
  rw [same]
  apply aligned.first_of_level ?_ leads
  intro other member otherLeads
  exact Specificity.eq_of_not_lt
    (otherLeads.narrowest leader leads.mem leads.holds.matching)
    (leads.holds.narrowest other member otherLeads.matching)

end Aligned

theorem select_eq_some_iff {table : Table m} {exchange received : Exchange} {entry : Entry m} :
    table.select exchange = some (entry, received) ↔ ∃ leader captures,
      First (Entry.Leads (table.forMethod exchange.method) exchange.path)
        (table.forMethod exchange.method) leader ∧
      leader.template.captures? exchange.path = some captures ∧
      First (Fits exchange leader.template captures) (table.forMethod exchange.method) entry ∧
      received = exchange.addParameters captures := by
  refine ⟨select_eq_some, ?_⟩
  rintro ⟨leader, captures, leads, captured, fits, rfl⟩
  cases selected : table.select exchange with
  | none =>
      rcases select_eq_none selected with
        unmatched | ⟨other, seen, otherLeads, otherCaptured, unfit⟩
      · exact absurd leads.holds.matching (unmatched leader leads.mem)
      · obtain ⟨rfl, rfl⟩ := leader_unique leads captured otherLeads otherCaptured
        exact absurd fits.holds (unfit entry fits.mem)
  | some pair =>
      obtain ⟨found, seen⟩ := pair
      obtain ⟨other, otherCaptures, otherLeads, otherCaptured, otherFits, rfl⟩ :=
        select_eq_some selected
      obtain ⟨rfl, rfl⟩ := leader_unique leads captured otherLeads otherCaptured
      rw [fits.unique otherFits]

theorem Aligned.select {table other : Table m} {exchange : Exchange}
    (aligned : Aligned (table.forMethod exchange.method) (other.forMethod exchange.method))
    {entry : Entry m} {received : Exchange}
    (selected : table.select exchange = some (entry, received)) :
    other.select exchange = some (entry, received) := by
  obtain ⟨leader, captures, leads, captured, fits, rfl⟩ := select_eq_some selected
  refine select_eq_some_iff.mpr ⟨leader, captures, aligned.leads leads, captured, ?_, rfl⟩
  apply aligned.first_of_level ?_ fits
  intro candidate _ candidateFits
  rw [candidateFits.1, fits.holds.1]

def Call.Rivals (one other : Call m) : Prop :=
  ∃ entry rival, one.added? = some entry ∧ other.added? = some rival ∧
    entry.method = rival.method ∧ entry.template.specificity = rival.template.specificity

theorem aligned_forMethod_build [Monad m] {calls other : List (Call m)}
    (rearranged : Rearranged Call.Rivals calls other) (method : Method) :
    Aligned ((build calls).forMethod method) ((build other).forMethod method) := by
  intro specificity
  simp only [build_eq, forMethod, registered, List.filter_filterMap]
  apply rearranged.filterMap_eq
  have added : ∀ call : Call m,
      ((call.added?.filter fun entry => decide (entry.method = method)).filter
        (Level specificity)).isSome = true → ∃ entry, call.added? = some entry ∧
          entry.method = method ∧ entry.template.specificity = specificity := by
    intro call kept
    obtain ⟨entry, found⟩ := Option.isSome_iff_exists.mp kept
    simp only [Option.filter_eq_some_iff, Level, decide_eq_true_eq] at found
    exact ⟨entry, found.1.1, found.1.2, found.2⟩
  intro one other oneKept otherKept
  obtain ⟨entry, found, ofMethod, level⟩ := added one oneKept
  obtain ⟨rival, rivalFound, rivalOfMethod, rivalLevel⟩ := added other otherKept
  exact ⟨entry, rival, found, rivalFound, ofMethod.trans rivalOfMethod.symm,
    level.trans rivalLevel.symm⟩

/-- Whatever the order in which routes are registered, as long as routes of one method that are
level in specificity keep theirs, every exchange is handled alike. -/
theorem build_rearranged [Monad m] {calls other : List (Call m)}
    (rearranged : Rearranged Call.Rivals calls other)
    (fallback : lastFallback other = lastFallback calls) (exchange : Exchange) :
    (build other).select exchange = (build calls).select exchange ∧
      (build other).chosen exchange = (build calls).chosen exchange ∧
      (build other).handle exchange = (build calls).handle exchange := by
  have aligned := aligned_forMethod_build rearranged exchange.method
  have selected : (build other).select exchange = (build calls).select exchange := by
    apply Option.ext
    rintro ⟨entry, received⟩
    exact ⟨aligned.symm.select, aligned.select⟩
  have chosen : (build other).chosen exchange = (build calls).chosen exchange := by
    have same : (build other).fallback = (build calls).fallback := by
      rw [build_eq, build_eq, fallback]
    rw [Table.chosen, Table.chosen, selected, same]
  refine ⟨selected, chosen, ?_⟩
  rw [handle_eq, handle_eq, chosen]

def shelfCall : Call Id := .add .get "/shelf/*" none (Handler.fixed 200 [])

def firstBookCall : Call Id := .add .get "/{book}" (some fun _ => false) (Handler.fixed 201 [])

def secondBookCall : Call Id := .add .get "/{book}" none (Handler.fixed 202 [])

def bookRequest : Exchange := .ofRequest ⟨.get, ⟨none, none, "/lean", none⟩, .empty, []⟩

theorem not_rivals_shelfCall :
    ¬firstBookCall.Rivals shelfCall ∧ ¬secondBookCall.Rivals shelfCall := by
  constructor <;>
    · rintro ⟨entry, rival, ⟨⟩, ⟨⟩, -, level⟩
      exact absurd level (by decide)

theorem build_rearranged_books :
    Rearranged Call.Rivals [firstBookCall, secondBookCall, shelfCall]
        [shelfCall, firstBookCall, secondBookCall] ∧
      ((build [shelfCall, firstBookCall, secondBookCall]).select bookRequest).map Prod.fst =
        secondBookCall.added? := by
  have rearranged : Rearranged Call.Rivals [firstBookCall, secondBookCall, shelfCall]
      [shelfCall, firstBookCall, secondBookCall] := by
    refine ⟨finRotate 3, ?_, ?_⟩
    · rintro (index : Fin 3)
      match index with
      | 0 | 1 | 2 => rfl
    · rintro (earlier : Fin 3) (later : Fin 3) below rivals
      have inner : later ≠ 2 := by
        rintro rfl
        have front : earlier = 0 ∨ earlier = 1 := by
          clear rivals
          revert earlier
          decide
        rcases front with rfl | rfl
        · exact not_rivals_shelfCall.1 rivals
        · exact not_rivals_shelfCall.2 rivals
      clear rivals
      revert earlier later
      decide
  refine ⟨rearranged, ?_⟩
  rw [(build_rearranged rearranged rfl bookRequest).1]
  rfl

end Table

end Switchboard
