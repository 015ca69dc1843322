import Switchboard.Proofs.Selection

/-!
A table made by any sequence of calls invokes one handler once. Which one, and with what exchange,
is read off the calls. That nothing else is invoked shows when every handler is replaced by another,
as by one that counts.
-/

namespace Switchboard

variable {m n : Type → Type}

namespace Template

def parameterName? : Segment → Option String
  | .literal _ => none
  | .parameter name => some name

def captureNames (template : Template) : List String :=
  template.segments.filterMap parameterName? ++ if template.wildcard then ["*"] else []

theorem names_of_capture? {segments : List Segment} {pieces rest : List String}
    {captures : Captures} (found : capture? segments pieces = some (captures, rest)) :
    captures.map Prod.fst = segments.filterMap parameterName? := by
  fun_induction capture? segments pieces generalizing captures rest with
  | case1 pieces =>
      obtain ⟨rfl, rfl⟩ : [] = captures ∧ pieces = rest := by simpa using found
      rfl
  | case2 => cases found
  | case3 segments piece pieces ih => exact ih found
  | case4 => cases found
  | case5 name segments piece pieces ih =>
      obtain ⟨⟨later, left⟩, inner, same⟩ := Option.map_eq_some_iff.mp found
      obtain ⟨rfl, rfl⟩ : (name, piece) :: later = captures ∧ left = rest := by simpa using same
      simp [parameterName?, ih inner]

theorem captures?_eq_some_iff {template : Template} {path : String} {captures : Captures} :
    template.captures? path = some captures ↔
      ∃ inner rest, capture? template.segments (decodedPieces path) = some (inner, rest) ∧
        (template.wildcard = false → rest = []) ∧
        captures = inner ++ if template.wildcard then [("*", "/".intercalate rest)] else [] := by
  unfold captures?
  cases capture? template.segments (decodedPieces path) with
  | none => simp
  | some found =>
      obtain ⟨inner, rest⟩ := found
      cases template.wildcard with
      | true => simp [eq_comm]
      | false =>
          simp only [Bool.false_eq_true, if_false, Option.ite_none_right_eq_some,
            List.isEmpty_iff, Option.some.injEq, Prod.mk.injEq, List.append_nil]
          constructor
          · rintro ⟨rfl, rfl⟩
            exact ⟨_, _, ⟨rfl, rfl⟩, fun _ => rfl, rfl⟩
          · rintro ⟨_, _, ⟨rfl, rfl⟩, closed, rfl⟩
            exact ⟨closed trivial, rfl⟩

theorem names_of_captures? {template : Template} {path : String} {captures : Captures}
    (found : template.captures? path = some captures) :
    captures.map Prod.fst = template.captureNames := by
  obtain ⟨inner, rest, read, -, rfl⟩ := captures?_eq_some_iff.mp found
  rw [List.map_append, names_of_capture? read, captureNames]
  split <;> rfl

end Template

/-- The exchange with captures after the values that came before them, and no other change. -/
structure Receives (exchange : Exchange) (captures : Captures) (received : Exchange) : Prop where
  request : received.request = exchange.request
  response : received.response = exchange.response
  complete : received.complete = exchange.complete
  parameters : ∀ name, received.parameters.values name =
    exchange.parameters.values name ++
      (captures.filter fun (other, _) => other = name).map Prod.snd

theorem Exchange.receives_addParameters (exchange : Exchange) (captures : Captures) :
    Receives exchange captures (exchange.addParameters captures) := by
  refine ⟨rfl, rfl, rfl, ?_⟩
  intro name
  simp [Exchange.addParameters, Parameters.addAll, Parameters.values]

def Entry.mapHandler (transform : Handler m → Handler n) (entry : Entry m) : Entry n :=
  { entry with handler := transform entry.handler }

namespace Table

/-- What serves an exchange, and the exchange it is given. -/
inductive Serves (entries : List (Entry m)) (fallback : Handler m) (exchange : Exchange) :
    Handler m → Exchange → Prop
  | route {leader entry : Entry m} {captures : Captures} :
      First (Entry.Leads entries exchange.path) entries leader →
      leader.template.captures? exchange.path = some captures →
      First (Fits exchange leader.template captures) entries entry →
      Serves entries fallback exchange entry.handler (exchange.addParameters captures)
  | unmatched : (∀ entry ∈ entries, ¬entry.Matches exchange.path) →
      Serves entries fallback exchange fallback exchange
  | unsatisfied {leader : Entry m} {captures : Captures} :
      First (Entry.Leads entries exchange.path) entries leader →
      leader.template.captures? exchange.path = some captures →
      (∀ entry ∈ entries, ¬Fits exchange leader.template captures entry) →
      Serves entries fallback exchange fallback exchange

theorem Serves.unique {entries : List (Entry m)} {fallback handler other : Handler m}
    {exchange received seen : Exchange} (first : Serves entries fallback exchange handler received)
    (second : Serves entries fallback exchange other seen) : other = handler ∧ seen = received := by
  cases first with
  | route leads captured fits =>
      cases second with
      | route otherLeads otherCaptured otherFits =>
          obtain ⟨rfl, rfl⟩ := leader_unique leads captured otherLeads otherCaptured
          obtain rfl := fits.unique otherFits
          exact ⟨rfl, rfl⟩
      | unmatched none => exact absurd leads.holds.matching (none _ leads.mem)
      | unsatisfied otherLeads otherCaptured none =>
          obtain ⟨rfl, rfl⟩ := leader_unique leads captured otherLeads otherCaptured
          exact absurd fits.holds (none _ fits.mem)
  | unmatched none =>
      cases second with
      | route leads _ _ => exact absurd leads.holds.matching (none _ leads.mem)
      | unmatched _ => exact ⟨rfl, rfl⟩
      | unsatisfied _ _ _ => exact ⟨rfl, rfl⟩
  | unsatisfied leads captured none =>
      cases second with
      | route otherLeads otherCaptured fits =>
          obtain ⟨rfl, rfl⟩ := leader_unique leads captured otherLeads otherCaptured
          exact absurd fits.holds (none _ fits.mem)
      | unmatched _ => exact ⟨rfl, rfl⟩
      | unsatisfied _ _ _ => exact ⟨rfl, rfl⟩

theorem fits_iff (exchange : Exchange) (template : Template) (captures : Captures)
    (entry : Entry m) :
    Fits exchange template captures entry ↔ (decide (entry.template = template) &&
      applies (exchange.addParameters captures) entry) = true := by
  simp [Fits, applies_iff]

theorem select_of_winner {table : Table m} {exchange : Exchange} {winner : Winner}
    (won : winner? (table.forMethod exchange.method) exchange.path = some winner) :
    table.select exchange =
      ((table.forMethod exchange.method).find? fun entry =>
        decide (entry.template = winner.template) &&
          applies (exchange.addParameters winner.captures) entry).map
        fun entry => (entry, exchange.addParameters winner.captures) := by
  have found := find?_candidates exchange winner.template winner.captures
    (table.forMethod exchange.method)
  simp only [select, won, Option.bind_eq_bind, Option.bind_some]
  rw [found]
  rw [Option.map_eq_bind]
  rfl

theorem select_of_no_winner {table : Table m} {exchange : Exchange}
    (won : winner? (table.forMethod exchange.method) exchange.path = none) :
    table.select exchange = none := by
  simp [select, won]

theorem find?_fits (exchange : Exchange) (template : Template) (captures : Captures)
    (entries : List (Entry m)) (entry : Entry m) :
    (entries.find? fun entry => decide (entry.template = template) &&
        applies (exchange.addParameters captures) entry) = some entry ↔
      First (Fits exchange template captures) entries entry := by
  rw [← first_iff_find?]
  simp only [← fits_iff]

theorem select_eq_some {table : Table m} {exchange received : Exchange} {entry : Entry m}
    (selected : table.select exchange = some (entry, received)) :
    ∃ leader captures,
      First (Entry.Leads (table.forMethod exchange.method) exchange.path)
        (table.forMethod exchange.method) leader ∧
      leader.template.captures? exchange.path = some captures ∧
      First (Fits exchange leader.template captures) (table.forMethod exchange.method) entry ∧
      received = exchange.addParameters captures := by
  have won := winner?_won (table.forMethod exchange.method) exchange.path
  cases found : winner? (table.forMethod exchange.method) exchange.path with
  | none => simp [select_of_no_winner found] at selected
  | some winner =>
      rw [found] at won
      obtain ⟨leader, leads, same, captured⟩ := won
      rw [select_of_winner found, Option.map_eq_some_iff] at selected
      obtain ⟨fitting, fits, pair⟩ := selected
      obtain ⟨rfl, rfl⟩ := Prod.mk.inj pair
      rw [find?_fits, ← same] at fits
      exact ⟨leader, winner.captures, leads, captured, fits, rfl⟩

theorem select_eq_none {table : Table m} {exchange : Exchange}
    (unselected : table.select exchange = none) :
    (∀ entry ∈ table.forMethod exchange.method, ¬entry.Matches exchange.path) ∨
    ∃ leader captures,
      First (Entry.Leads (table.forMethod exchange.method) exchange.path)
        (table.forMethod exchange.method) leader ∧
      leader.template.captures? exchange.path = some captures ∧
      ∀ entry ∈ table.forMethod exchange.method,
        ¬Fits exchange leader.template captures entry := by
  have won := winner?_won (table.forMethod exchange.method) exchange.path
  cases found : winner? (table.forMethod exchange.method) exchange.path with
  | none =>
      rw [found] at won
      exact .inl won
  | some winner =>
      rw [found] at won
      obtain ⟨leader, leads, same, captured⟩ := won
      rw [select_of_winner found, Option.map_eq_none_iff, ← same] at unselected
      refine .inr ⟨leader, winner.captures, leads, captured, ?_⟩
      intro entry member fits
      rw [fits_iff] at fits
      exact List.find?_eq_none.mp unselected entry member fits

def chosen (table : Table m) (exchange : Exchange) : Handler m × Exchange :=
  match table.select exchange with
  | some (entry, received) => (entry.handler, received)
  | none => (table.fallback, exchange)

theorem handle_eq (table : Table m) (exchange : Exchange) :
    table.handle exchange = (table.chosen exchange).1 (table.chosen exchange).2 := by
  rw [handle, chosen]
  cases table.select exchange <;> rfl

theorem chosen_serves (table : Table m) (exchange : Exchange) :
    Serves (table.forMethod exchange.method) table.fallback exchange
      (table.chosen exchange).1 (table.chosen exchange).2 := by
  rw [chosen]
  cases selected : table.select exchange with
  | none =>
      rcases select_eq_none selected with unmatched | ⟨leader, captures, leads, captured, none⟩
      · exact Serves.unmatched unmatched
      · exact Serves.unsatisfied leads captured none
  | some pair =>
      obtain ⟨entry, received⟩ := pair
      obtain ⟨leader, captures, leads, captured, fits, rfl⟩ := select_eq_some selected
      exact Serves.route leads captured fits

def mapHandlers (table : Table m) (transform : Handler m → Handler n) : Table n :=
  { entries := table.entries.map (Entry.mapHandler transform)
    fallback := transform table.fallback }

theorem forMethod_mapHandlers (table : Table m) (transform : Handler m → Handler n)
    (method : Method) :
    (table.mapHandlers transform).forMethod method =
      (table.forMethod method).map (Entry.mapHandler transform) := by
  simp only [forMethod, mapHandlers, List.filter_map]
  rfl

theorem winner?_map (transform : Handler m → Handler n) (entries : List (Entry m))
    (path : String) :
    winner? (entries.map (Entry.mapHandler transform)) path = winner? entries path := by
  rw [winner?, List.foldl_map]
  rfl

theorem select_mapHandlers (table : Table m) (transform : Handler m → Handler n)
    (exchange : Exchange) :
    (table.mapHandlers transform).select exchange =
      (table.select exchange).map fun (entry, received) =>
        (entry.mapHandler transform, received) := by
  have scanned : winner? ((table.mapHandlers transform).forMethod exchange.method) exchange.path =
      winner? (table.forMethod exchange.method) exchange.path := by
    rw [forMethod_mapHandlers, winner?_map]
  cases found : winner? (table.forMethod exchange.method) exchange.path with
  | none =>
      rw [select_of_no_winner found, select_of_no_winner (scanned.trans found)]
      rfl
  | some winner =>
      rw [select_of_winner found, select_of_winner (scanned.trans found), forMethod_mapHandlers,
        List.find?_map, Option.map_map, Option.map_map]
      rfl

theorem chosen_mapHandlers (table : Table m) (transform : Handler m → Handler n)
    (exchange : Exchange) :
    (table.mapHandlers transform).chosen exchange =
      (transform (table.chosen exchange).1, (table.chosen exchange).2) := by
  rw [chosen, chosen, select_mapHandlers]
  cases table.select exchange <;> rfl

inductive Call (m : Type → Type) where
  | add (method : Method) (template : String) (condition : Option Condition) (handler : Handler m)
  | setFallback (handler : Handler m)

namespace Call

def change : Call m → Change TemplateError (Table m) Unit
  | .add method template condition handler => Table.add method template condition handler
  | .setFallback handler => Table.setFallback handler

def added? : Call m → Option (Entry m)
  | .add method template condition handler =>
    match Template.parse template with
    | .ok template => some { method, template, condition, handler }
    | .error _ => none
  | .setFallback _ => none

def fallback? : Call m → Option (Handler m)
  | .add .. => none
  | .setFallback handler => some handler

theorem after_change (call : Call m) (table : Table m) :
    call.change.after table =
      ⟨table.entries ++ call.added?.toList, call.fallback?.getD table.fallback⟩ := by
  cases call with
  | add method template condition handler =>
      cases parsed : Template.parse template with
      | ok template =>
          simp only [added?, fallback?, parsed, change, Table.add, Change.after]
          rfl
      | error error =>
          simp only [added?, fallback?, parsed, change, Table.add, Change.after]
          rw [Option.toList_none, List.append_nil]
          rfl
  | setFallback handler =>
      simp only [added?, fallback?, change, Table.setFallback, Change.after]
      rw [Option.toList_none, List.append_nil]
      rfl

end Call

def build [Monad m] (calls : List (Call m)) : Table m :=
  calls.foldl (fun table call => call.change.after table) .initial

def registered (calls : List (Call m)) : List (Entry m) := calls.filterMap Call.added?

def lastFallback [Monad m] (calls : List (Call m)) : Handler m :=
  (calls.filterMap Call.fallback?).getLast?.getD Handler.notFound

theorem build_eq [Monad m] (calls : List (Call m)) :
    build calls = ⟨registered calls, lastFallback calls⟩ := by
  induction calls using List.reverseRecOn with
  | nil => rfl
  | append_singleton calls call ih =>
      rw [build, List.foldl_append, ← build, ih]
      simp only [List.foldl_cons, List.foldl_nil, Call.after_change, registered, lastFallback,
        List.filterMap_append, List.filterMap_cons, List.filterMap_nil]
      cases call.added? <;> cases call.fallback? <;> simp only [Option.toList_none,
        Option.toList_some, List.append_nil, List.getLast?_append, Option.getD_none,
        Option.getD_some, List.getLast?_singleton, Option.some_or]

end Table

def Handler.counted [Monad m] (handler : Handler m) : Handler (StateT Nat m) :=
  fun exchange count => do
    let handled ← handler exchange
    pure (handled, count + 1)

/-- A table made by calls invokes the handler that serves the exchange, once, and no other. -/
theorem Table.build_handle [Monad m] (calls : List (Table.Call m)) (exchange : Exchange) :
    let entries := (registered calls).filter fun entry => entry.method = exchange.method
    ∃ handler received,
      Serves entries (lastFallback calls) exchange handler received ∧
      (∀ other seen, Serves entries (lastFallback calls) exchange other seen →
        other = handler ∧ seen = received) ∧
      (build calls).handle exchange = handler received ∧
      (∀ count, ((build calls).mapHandlers Handler.counted).handle exchange count = do
        let handled ← handler received
        pure (handled, count + 1)) ∧
      ∀ (template : Template) captures, template.captures? exchange.path = some captures →
        captures.map Prod.fst = template.captureNames ∧
          Receives exchange captures (exchange.addParameters captures) := by
  intro entries
  have serves := chosen_serves (build calls) exchange
  have made : (build calls).forMethod exchange.method = entries := by rw [build_eq]; rfl
  have fallback : (build calls).fallback = lastFallback calls := by rw [build_eq]
  rw [made, fallback] at serves
  refine ⟨_, _, serves, fun _ _ => serves.unique, handle_eq _ _, ?_, ?_⟩
  · intro count
    rw [handle_eq, chosen_mapHandlers]
    rfl
  · intro template captures captured
    exact ⟨Template.names_of_captures? captured, exchange.receives_addParameters captures⟩

end Switchboard
