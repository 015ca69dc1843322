import Switchboard.Proofs.Dispatch

/-!
Conditional entries against unconditional ones of the same template. An entry without a condition
always fits, so it hides the conditional entries that come after it. A conditional entry that holds
takes precedence exactly when no such entry was registered before it.
-/

namespace Switchboard

variable {m : Type → Type}

namespace Entry

def Holds (exchange : Exchange) (template : Template) (captures : Captures) (entry : Entry m) :
    Prop :=
  entry.template = template ∧
    ∃ condition, entry.condition = some condition ∧ condition (exchange.addParameters captures)

def Plain (template : Template) (entry : Entry m) : Prop :=
  entry.template = template ∧ entry.condition = none

variable {exchange : Exchange} {template : Template} {captures : Captures} {entry : Entry m}

theorem fits_iff_holds_or_plain :
    Table.Fits exchange template captures entry ↔
      entry.Holds exchange template captures ∨ entry.Plain template := by
  cases condition : entry.condition with
  | none => simp [Table.Fits, Satisfied, Holds, Plain, condition]
  | some test => simp [Table.Fits, Satisfied, Holds, Plain, condition]

theorem Plain.not_holds (plain : entry.Plain template) :
    ¬entry.Holds exchange template captures := by
  rintro ⟨_, condition, conditional, _⟩
  rw [plain.2] at conditional
  cases conditional

end Entry

namespace Table

/-- The entry for an exchange when conditional entries come before unconditional ones: the first
whose condition holds, otherwise an unconditional one, otherwise none. -/
inductive Preferred (entries : List (Entry m)) (exchange : Exchange) : Option (Entry m) → Prop
  | unmatched : (∀ entry ∈ entries, ¬entry.Matches exchange.path) →
      Preferred entries exchange none
  | conditional {leader entry : Entry m} {captures : Captures} :
      First (Entry.Leads entries exchange.path) entries leader →
      leader.template.captures? exchange.path = some captures →
      First (Entry.Holds exchange leader.template captures) entries entry →
      Preferred entries exchange (some entry)
  | unconditional {leader entry : Entry m} {captures : Captures} :
      First (Entry.Leads entries exchange.path) entries leader →
      leader.template.captures? exchange.path = some captures →
      (∀ other ∈ entries, ¬other.Holds exchange leader.template captures) →
      entry ∈ entries → entry.Plain leader.template →
      Preferred entries exchange (some entry)
  | unsatisfied {leader : Entry m} {captures : Captures} :
      First (Entry.Leads entries exchange.path) entries leader →
      leader.template.captures? exchange.path = some captures →
      (∀ other ∈ entries, ¬other.Holds exchange leader.template captures) →
      (∀ other ∈ entries, ¬other.Plain leader.template) →
      Preferred entries exchange none

/-- An unconditional entry comes before every conditional one that holds, and there is one. -/
def Shadowed (entries : List (Entry m)) (exchange : Exchange) : Prop :=
  ∃ leader captures earlier plain later,
    First (Entry.Leads entries exchange.path) entries leader ∧
    leader.template.captures? exchange.path = some captures ∧
    entries = earlier ++ plain :: later ∧
    plain.Plain leader.template ∧
    (∀ other ∈ earlier, ¬other.Holds exchange leader.template captures) ∧
    ∃ other ∈ later, other.Holds exchange leader.template captures

variable {table : Table m} {exchange : Exchange}

theorem plain_of_first_fits {earlier later : List (Entry m)} {plain entry : Entry m}
    {template : Template} {captures : Captures} (isPlain : plain.Plain template)
    (none : ∀ other ∈ earlier, ¬other.Holds exchange template captures)
    (fits : First (Fits exchange template captures) (earlier ++ plain :: later) entry) :
    entry.Plain template := by
  rcases First.append_iff.mp fits with front | ⟨-, back⟩
  · exact (Entry.fits_iff_holds_or_plain.mp front.holds).resolve_left (none entry front.mem)
  · rcases First.cons_iff.mp back with ⟨-, rfl⟩ | ⟨unfit, -⟩
    · exact isPlain
    · exact absurd (Entry.fits_iff_holds_or_plain.mpr (.inr isPlain)) unfit

theorem not_preferred_of_shadowed (shadowed : Shadowed (table.forMethod exchange.method) exchange) :
    ¬Preferred (table.forMethod exchange.method) exchange
      ((table.select exchange).map Prod.fst) := by
  obtain ⟨leader, captures, earlier, plain, later, leads, captured, split, isPlain, none, holder,
    inLater, holds⟩ := shadowed
  have holderMember : holder ∈ table.forMethod exchange.method := by simp [split, inLater]
  have plainMember : plain ∈ table.forMethod exchange.method := by simp [split]
  cases selected : table.select exchange with
  | none =>
      rcases select_eq_none selected with unmatched | ⟨other, seen, otherLeads, seenCaptured, unfit⟩
      · exact absurd leads.holds.matching (unmatched leader leads.mem)
      · obtain ⟨rfl, rfl⟩ := leader_unique leads captured otherLeads seenCaptured
        exact absurd (Entry.fits_iff_holds_or_plain.mpr (.inr isPlain)) (unfit plain plainMember)
  | some pair =>
      obtain ⟨entry, received⟩ := pair
      obtain ⟨other, seen, otherLeads, seenCaptured, fits, -⟩ := select_eq_some selected
      obtain ⟨rfl, rfl⟩ := leader_unique leads captured otherLeads seenCaptured
      rw [split] at fits
      have entryPlain : entry.Plain other.template := plain_of_first_fits isPlain none fits
      intro preferred
      cases preferred with
      | conditional thirdLeads thirdCaptured first =>
          obtain ⟨rfl, rfl⟩ := leader_unique leads captured thirdLeads thirdCaptured
          exact entryPlain.not_holds first.holds
      | unconditional thirdLeads thirdCaptured unheld _ _ =>
          obtain ⟨rfl, rfl⟩ := leader_unique leads captured thirdLeads thirdCaptured
          exact unheld holder holderMember holds

theorem preferred_of_not_shadowed
    (clear : ¬Shadowed (table.forMethod exchange.method) exchange) :
    Preferred (table.forMethod exchange.method) exchange
      ((table.select exchange).map Prod.fst) := by
  cases selected : table.select exchange with
  | none =>
      rcases select_eq_none selected with unmatched | ⟨leader, captures, leads, captured, unfit⟩
      · exact Preferred.unmatched unmatched
      · refine Preferred.unsatisfied leads captured ?_ ?_
        · intro other member holds
          exact unfit other member (Entry.fits_iff_holds_or_plain.mpr (.inl holds))
        · intro other member plain
          exact unfit other member (Entry.fits_iff_holds_or_plain.mpr (.inr plain))
  | some pair =>
      obtain ⟨entry, received⟩ := pair
      obtain ⟨leader, captures, leads, captured, fits, -⟩ := select_eq_some selected
      rcases Entry.fits_iff_holds_or_plain.mp fits.holds with holds | plain
      · refine Preferred.conditional leads captured (fits.imp holds ?_)
        intro other _ otherHolds
        exact Entry.fits_iff_holds_or_plain.mpr (.inl otherHolds)
      · refine Preferred.unconditional leads captured ?_ fits.mem plain
        obtain ⟨earlier, later, split, -, unfit⟩ := fits
        have unheld : ∀ other ∈ earlier, ¬other.Holds exchange leader.template captures :=
          fun other member holds =>
            unfit other member (Entry.fits_iff_holds_or_plain.mpr (.inl holds))
        intro other member holds
        rw [split, List.mem_append, List.mem_cons] at member
        rcases member with before | rfl | after
        · exact unheld other before holds
        · exact plain.not_holds holds
        · exact clear ⟨leader, captures, earlier, entry, later, leads, captured, split, plain,
            unheld, other, after, holds⟩

/-- Conditional entries take precedence over unconditional ones exactly where no unconditional
entry was registered ahead of them. -/
theorem select_preferred_iff (table : Table m) (exchange : Exchange) :
    Preferred (table.forMethod exchange.method) exchange ((table.select exchange).map Prod.fst) ↔
      ¬Shadowed (table.forMethod exchange.method) exchange :=
  ⟨fun preferred shadowed => not_preferred_of_shadowed shadowed preferred,
    preferred_of_not_shadowed⟩

def docEntry (condition : Option Condition) (status : UInt16) : Entry Id :=
  ⟨.get, ⟨[.literal "doc"], false⟩, condition, Handler.fixed status []⟩

def docRequest : Exchange := .ofRequest ⟨.get, ⟨none, none, "/doc", none⟩, .empty, []⟩

def unconditionalFirst : List (Call Id) :=
  [.add .get "/doc" none (Handler.fixed 200 []),
    .add .get "/doc" (some fun _ => true) (Handler.fixed 201 [])]

/-- An unconditional route that comes first is selected, though the condition of the other holds. -/
theorem unconditionalFirst_not_preferred :
    ¬Preferred ((build unconditionalFirst).forMethod docRequest.method) docRequest
      (((build unconditionalFirst).select docRequest).map Prod.fst) := by
  have entries : (build unconditionalFirst).forMethod docRequest.method =
      [docEntry none 200, docEntry (some fun _ => true) 201] := rfl
  have captured : (docEntry none 200).template.captures? docRequest.path = some [] := rfl
  have leads : (docEntry none 200).Leads [docEntry none 200, docEntry (some fun _ => true) 201]
      docRequest.path := by
    refine ⟨⟨[], captured⟩, ?_⟩
    intro other member _
    rcases List.mem_cons.mp member with rfl | last
    · exact Specificity.lt_irrefl _
    · rw [List.mem_singleton.mp last]
      exact Specificity.lt_irrefl _
  apply not_preferred_of_shadowed
  rw [entries]
  refine ⟨docEntry none 200, [], [], docEntry none 200, [docEntry (some fun _ => true) 201],
    ⟨[], _, rfl, leads, by simp⟩, captured, rfl, ⟨rfl, rfl⟩, by simp, ?_⟩
  exact ⟨_, List.mem_singleton_self _, rfl, _, rfl, rfl⟩

end Table

end Switchboard
