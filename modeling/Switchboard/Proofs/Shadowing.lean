import Switchboard.Proofs.Dispatch

/-!
What a handler reads under the name of a template parameter. The captured piece comes right after
the values that the query gave for that name, so a handler that looks at the first value finds the
piece only if the query did not use the name.
-/

namespace Switchboard

namespace Parameters

def given (captures : Captures) (name : String) : List String :=
  (captures.filter fun (other, _) => other = name).map Prod.snd

theorem given_cons (other value : String) (captures : Captures) (name : String) :
    given ((other, value) :: captures) name =
      if other = name then value :: given captures name else given captures name := by
  by_cases same : other = name
  · simp [given, same]
  · simp [given, same]

theorem given_eq_nil {captures : Captures} {name : String}
    (fresh : name ∉ captures.map Prod.fst) : given captures name = [] := by
  simp only [given, List.map_eq_nil_iff, List.filter_eq_nil_iff, decide_eq_true_eq]
  rintro ⟨other, value⟩ member rfl
  exact fresh (List.mem_map_of_mem member)

end Parameters

namespace Template

theorem mem_parameterNames {segments : List Segment} {name : String} :
    name ∈ segments.filterMap parameterName? ↔ Segment.parameter name ∈ segments := by
  rw [List.mem_filterMap]
  constructor
  · rintro ⟨segment, member, named⟩
    cases segment with
    | literal text => cases named
    | parameter other =>
        obtain rfl := Option.some.inj named
        exact member
  · intro member
    exact ⟨_, member, rfl⟩

theorem given_of_capture? {segments : List Segment} {pieces rest : List String}
    {captures : Captures} (found : capture? segments pieces = some (captures, rest))
    {name : String} {index : Nat} (position : segments[index]? = some (.parameter name))
    (once : segments.count (.parameter name) = 1) :
    ∃ piece, pieces[index]? = some piece ∧ Parameters.given captures name = [piece] := by
  fun_induction capture? segments pieces generalizing captures rest index with
  | case1 pieces => simp at position
  | case2 => cases found
  | case3 segments piece pieces ih =>
      cases index with
      | zero => simp at position
      | succ index => exact ih found (by simpa using position) (by simpa using once)
  | case4 => cases found
  | case5 other segments piece pieces ih =>
      obtain ⟨⟨later, left⟩, inner, same⟩ := Option.map_eq_some_iff.mp found
      obtain ⟨rfl, rfl⟩ : (other, piece) :: later = captures ∧ left = rest := by simpa using same
      rw [Parameters.given_cons]
      cases index with
      | zero =>
          obtain rfl : other = name := by simpa using position
          have gone : Segment.parameter other ∉ segments := by
            rw [List.count_cons_self] at once
            exact List.count_eq_zero.mp (by omega)
          have none : Parameters.given later other = [] := by
            apply Parameters.given_eq_nil
            rw [names_of_capture? inner, mem_parameterNames]
            exact gone
          exact ⟨piece, rfl, by rw [if_pos rfl, none]⟩
      | succ index =>
          have further : segments[index]? = some (.parameter name) := by simpa using position
          have present : 0 < segments.count (.parameter name) :=
            List.count_pos_iff.mpr (List.mem_of_getElem? further)
          have different : other ≠ name := by
            rintro rfl
            rw [List.count_cons_self] at once
            omega
          rw [List.count_cons_of_ne (by simpa using different)] at once
          obtain ⟨value, inPlace, single⟩ := ih inner further once
          exact ⟨value, inPlace, by rw [if_neg different, single]⟩

theorem given_of_captures? {template : Template} {path : String} {captures : Captures}
    (found : template.captures? path = some captures) {name : String} {index : Nat}
    (position : template.segments[index]? = some (.parameter name))
    (once : template.segments.count (.parameter name) = 1) :
    ∃ piece, (decodedPieces path)[index]? = some piece ∧
      ∃ later, Parameters.given captures name = piece :: later ∧ (name ≠ "*" → later = []) := by
  obtain ⟨inner, rest, read, -, rfl⟩ := captures?_eq_some_iff.mp found
  obtain ⟨piece, inPlace, single⟩ := given_of_capture? read position once
  have parts : ∀ more, Parameters.given (inner ++ more) name =
      piece :: Parameters.given more name := by
    intro more
    rw [Parameters.given, List.filter_append, List.map_append]
    exact congrArg (· ++ _) single
  refine ⟨piece, inPlace, _, parts _, fun plain => Parameters.given_eq_nil ?_⟩
  split
  next => simpa using plain
  next => simp

end Template

namespace Table

variable {m : Type → Type}

/-- The values of a template parameter that stands once: those of the query, then the piece. -/
theorem query_then_capture {table : Table m} {request : Request} {received : Exchange}
    {entry : Entry m} {name : String} {index : Nat}
    (selected : table.select (.ofRequest request) = some (entry, received))
    (position : entry.template.segments[index]? = some (.parameter name))
    (once : entry.template.segments.count (.parameter name) = 1) :
    let sent := (request.uri.query.map Parameters.ofQuery).getD .empty
    table.handle (.ofRequest request) = entry.handler received ∧
    ∃ piece, (Template.decodedPieces request.uri.path)[index]? = some piece ∧
      received.parameters.first? name = some ((sent.first? name).getD piece) ∧
      ∃ later, received.parameters.values name = sent.values name ++ piece :: later ∧
        (name ≠ "*" → later = []) := by
  intro sent
  have initial : (Exchange.ofRequest request).parameters = sent := by
    simp only [Exchange.ofRequest, sent]
    cases request.uri.query <;> rfl
  obtain ⟨leader, captures, -, captured, fits, rfl⟩ := select_eq_some selected
  rw [← fits.holds.1] at captured
  obtain ⟨piece, inPlace, later, given, plain⟩ :=
    Template.given_of_captures? captured position once
  have values : ((Exchange.ofRequest request).addParameters captures).parameters.values name =
      sent.values name ++ piece :: later := by
    rw [(Exchange.receives_addParameters _ captures).parameters name, initial, ← given]
    rfl
  refine ⟨?_, piece, inPlace, ?_, later, values, plain⟩
  · rw [handle, selected]
  · rw [Parameters.first?, values, Parameters.first?]
    cases sent.values name <;> rfl

def items : List (Call Id) := [.add .get "/items/{id}" none (Handler.fixed 200 [])]

def itemEntry : Entry Id :=
  ⟨.get, ⟨[.literal "items", .parameter "id"], false⟩, none, Handler.fixed 200 []⟩

def itemRequest (query : String) : Request :=
  ⟨.get, ⟨none, none, "/items/%39", some query⟩, .empty, []⟩

theorem select_items (query : String) :
    (build items).select (.ofRequest (itemRequest query)) =
      some (itemEntry, (Exchange.ofRequest (itemRequest query)).addParameters [("id", "9")]) := by
  have entries : (build items).forMethod (Exchange.ofRequest (itemRequest query)).method =
      [itemEntry] := rfl
  have captured : itemEntry.template.captures? "/items/%39" = some [("id", "9")] := by decide
  have won : winner? [itemEntry] "/items/%39" = some ⟨itemEntry.template, [("id", "9")]⟩ := by
    simp [winner?, improve, captured]
  rw [← entries] at won
  rw [select_of_winner won, entries]
  rfl

theorem query_then_capture_item :
    ∃ received, (build items).select (.ofRequest (itemRequest "p=2")) =
      some (itemEntry, received) ∧ received.parameters.first? "id" = some "9" := by
  refine ⟨_, select_items "p=2", ?_⟩
  obtain ⟨-, piece, inPlace, first, -⟩ := query_then_capture (select_items "p=2")
    (show itemEntry.template.segments[1]? = some (.parameter "id") from rfl) (by decide)
  rw [first]
  have piece_eq : (Template.decodedPieces "/items/%39")[1]? = some "9" := by decide
  obtain rfl := Option.some.inj (inPlace.symm.trans piece_eq)
  decide

/-- A query that uses the name of a parameter comes before the piece of the path. -/
theorem query_shadows_capture :
    ¬∀ (table : Table Id) (request : Request) (entry : Entry Id) (received : Exchange)
      (name : String) (index : Nat),
      table.select (.ofRequest request) = some (entry, received) →
      entry.template.segments[index]? = some (.parameter name) →
      entry.template.segments.count (.parameter name) = 1 →
      received.parameters.first? name = (Template.decodedPieces request.uri.path)[index]? := by
  intro unshadowed
  have read := unshadowed (build items) (itemRequest "id=1") itemEntry _ "id" 1
    (select_items "id=1") rfl (by decide)
  exact absurd read (by decide)

end Table

end Switchboard
