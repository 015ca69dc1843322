import Mathlib.Data.List.Induction
import Switchboard.Proofs.Traffic.Site

/-!
Requests and redeployments, interleaved in any way. A request takes its steps one at a time: it
loads the live table, selects what serves it, resolves the values it wants one after the other and
runs the handler. Whatever is redeployed between two of its steps, or by the request itself, it
meets one table only: the one that was live when it loaded it.
-/

namespace Switchboard

inductive Phase where
  | arrived (exchange : Exchange)
  | loaded (board : Board Work) (exchange : Exchange)
  | resolving (selection : Selection Work) (left : List Resolver) (values : List (Option Injected))
  | running (work : Work Handled)
  | ended (handled : Handled)

namespace Phase

def handled? : Phase → Option Handled
  | .ended handled => some handled
  | _ => none

theorem handled?_eq_some {phase : Phase} {handled : Handled} :
    phase.handled? = some handled ↔ phase = .ended handled := by
  cases phase <;> simp [handled?]

/-- One step of a request. Resolving a value may set off redeployments of its own. -/
def advance (triggers : Resolver → Exchange → List Settings) (site : Site) : Phase → Site × Phase
  | .arrived exchange => (site, .loaded site.board exchange)
  | .loaded board exchange =>
    let selection := board.handle exchange
    (site, .resolving selection selection.handler.resolvers [])
  | .resolving selection (resolver :: left) values =>
    let received := selection.received
    (site.redeployAll (triggers resolver received),
      .resolving selection left (values ++ [resolver.resolve received]))
  | .resolving selection [] values =>
    (site, .running (selection.handler.handler selection.received ⟨values⟩))
  | .running (.redeploy settings next) =>
    let (site, result) := site.redeploy settings
    (site, .running (next result))
  | .running (.finished handled) => (site, .ended handled)
  | .ended handled => (site, .ended handled)

/-- All that a request met since it loaded its table came from the table live at that moment: what
was selected, the values, and what was done with them, up to the results of its own
redeployments. -/
inductive ServedBy (live : Site) (exchange : Exchange) : Phase → Prop
  | loaded : ServedBy live exchange (.loaded live.board exchange)
  | resolving {asked left : List Resolver} {values : List (Option Injected)} :
      (live.board.handle exchange).handler.resolvers = asked ++ left →
      values = asked.map (·.resolve (live.board.handle exchange).received) →
      ServedBy live exchange (.resolving (live.board.handle exchange) left values)
  | running {results : List (Except Failure Unit)} {work : Work Handled} :
      (live.host.handle exchange).resume? results = some work →
      ServedBy live exchange (.running work)
  | ended {results : List (Except Failure Unit)} {handled : Handled} :
      (live.host.handle exchange).resume? results = some (.finished handled) →
      ServedBy live exchange (.ended handled)

variable {triggers : Resolver → Exchange → List Settings}

theorem ServedBy.advance {live : Site} {exchange : Exchange} {phase : Phase}
    (served : phase.ServedBy live exchange) (site : Site) :
    (phase.advance triggers site).2.ServedBy live exchange := by
  cases served with
  | loaded => exact .resolving (List.nil_append _).symm rfl
  | @resolving asked left values split resolved =>
      cases left with
      | nil =>
          -- All values are there, so what starts to run is all that the live host has to do.
          have work : live.host.handle exchange =
              (live.board.handle exchange).handler.handler
                (live.board.handle exchange).received ⟨values⟩ := by
            rw [Host.handle, ← live.agrees, Board.handle_table, resolved, ← List.append_nil asked,
              ← split]
            rfl
          exact @running live exchange [] _ (congrArg some work)
      | cons resolver left =>
          refine .resolving (split.trans (List.append_cons _ _ _)) ?_
          rw [resolved, List.map_append]
          rfl
  | @running results work resumed =>
      cases work with
      | finished handled => exact .ended resumed
      | redeploy settings next => exact .running (Work.resume?_concat resumed _)
  | ended resumed => exact .ended resumed

theorem stored_advance (phase : Phase) (site : Site) :
    site.stored <+: (phase.advance triggers site).1.stored := by
  unfold advance
  split
  next => exact List.prefix_refl _
  next => exact List.prefix_refl _
  next => exact site.stored_redeployAll _
  next => exact List.prefix_refl _
  next settings next => exact site.stored_redeploy settings
  next => exact List.prefix_refl _
  next => exact List.prefix_refl _

end Phase

/-- A site and the requests that came to it, in the order of their arrival. -/
structure Traffic where
  site : Site
  requests : List Phase

inductive Step where
  | arrive (exchange : Exchange)
  | advance (index : Nat)
  | redeploy (settings : Settings)
  | replan (plan : Plan Work)

namespace Traffic

variable (triggers : Resolver → Exchange → List Settings)

def after (traffic : Traffic) : Step → Traffic
  | .arrive exchange => { traffic with requests := traffic.requests ++ [.arrived exchange] }
  | .advance index =>
    match traffic.requests[index]? with
    | none => traffic
    | some phase =>
      let (site, phase) := phase.advance triggers traffic.site
      ⟨site, traffic.requests.set index phase⟩
  | .redeploy settings => { traffic with site := (traffic.site.redeploy settings).1 }
  | .replan plan => { traffic with site := traffic.site.replan plan }

def run (host : Host Work) (steps : List Step) : Traffic :=
  steps.foldl (after triggers) ⟨.start host, []⟩

variable {triggers}

theorem run_concat (host : Host Work) (steps : List Step) (step : Step) :
    run triggers host (steps ++ [step]) = (run triggers host steps).after triggers step := by
  rw [run, List.foldl_append]
  rfl

theorem stored_after (traffic : Traffic) (step : Step) :
    traffic.site.stored <+: (traffic.after triggers step).site.stored := by
  cases step with
  | arrive exchange => exact List.prefix_refl _
  | advance index =>
      rw [after]
      split
      next => exact List.prefix_refl _
      next phase met => exact phase.stored_advance traffic.site
  | redeploy settings => exact traffic.site.stored_redeploy settings
  | replan plan => exact List.prefix_refl _

theorem stored_run (host : Host Work) (before between : List Step) :
    (run triggers host before).site.stored <+:
      (run triggers host (before ++ between)).site.stored := by
  induction between using List.reverseRecOn with
  | nil => exact ⟨[], by rw [List.append_nil, List.append_nil]⟩
  | append_singleton between step ih =>
      rw [← List.append_assoc, run_concat]
      exact ih.trans (stored_after _ step)

theorem requests_after_of_some {traffic : Traffic} {index : Nat} {phase : Phase}
    (met : traffic.requests[index]? = some phase) (step : Step) :
    (traffic.after triggers step).requests[index]? = some phase ∨
      step = .advance index ∧ (traffic.after triggers step).requests[index]? =
        some (phase.advance triggers traffic.site).2 := by
  have inside : index < traffic.requests.length := (List.getElem?_eq_some_iff.mp met).1
  cases step with
  | arrive exchange =>
      refine .inl ?_
      rw [after, List.getElem?_append_left inside, met]
  | advance other =>
      by_cases same : other = index
      · subst other
        refine .inr ⟨rfl, ?_⟩
        rw [after, met]
        exact List.getElem?_set_self inside
      · refine .inl ?_
        rw [after]
        split
        next => exact met
        next => rw [List.getElem?_set_ne same, met]
  | redeploy settings => exact .inl met
  | replan plan => exact .inl met

theorem requests_after_of_none {traffic : Traffic} {index : Nat} {step : Step} {phase : Phase}
    (absent : traffic.requests[index]? = none)
    (met : (traffic.after triggers step).requests[index]? = some phase) :
    ∃ exchange, phase = .arrived exchange := by
  cases step with
  | arrive exchange =>
      rw [after, List.getElem?_append_right (List.getElem?_eq_none_iff.mp absent)] at met
      exact ⟨exchange, (List.mem_singleton.mp (List.mem_of_getElem? met))⟩
  | advance other =>
      rw [after] at met
      split at met
      next => rw [absent] at met; cases met
      next previous _ =>
        have outside : (traffic.requests.set other
            (previous.advance triggers traffic.site).2)[index]? = none := by
          rw [List.getElem?_eq_none_iff, List.length_set]
          exact List.getElem?_eq_none_iff.mp absent
        exact absurd (outside.symm.trans met) (Option.some_ne_none phase).symm
  | redeploy settings => rw [after, absent] at met; cases met
  | replan plan => rw [after, absent] at met; cases met

theorem advance_arrived {traffic : Traffic} {index : Nat} {exchange : Exchange}
    (waiting : traffic.requests[index]? = some (.arrived exchange)) :
    (traffic.after triggers (.advance index)).requests[index]? =
      some (.loaded traffic.site.board exchange) := by
  rw [after, waiting]
  exact List.getElem?_set_self (List.getElem?_eq_some_iff.mp waiting).1

/-- Once it loaded a table, a request is served by it through all that follows. -/
theorem run_after_load (host : Host Work) {earlier : List Step} {index : Nat} {exchange : Exchange}
    (waiting : (run triggers host earlier).requests[index]? = some (.arrived exchange))
    (later : List Step) :
    ∃ phase, (run triggers host (earlier ++ .advance index :: later)).requests[index]? =
        some phase ∧ phase.ServedBy (run triggers host earlier).site exchange := by
  induction later using List.reverseRecOn with
  | nil =>
      rw [run_concat]
      exact ⟨_, advance_arrived waiting, .loaded⟩
  | append_singleton later step ih =>
      obtain ⟨phase, met, served⟩ := ih
      rw [← List.cons_append, ← List.append_assoc, run_concat]
      rcases requests_after_of_some met step with still | ⟨-, moved⟩
      · exact ⟨phase, still, served⟩
      · exact ⟨_, moved, served.advance _⟩

theorem exists_load (host : Host Work) {steps : List Step} {index : Nat} {phase : Phase}
    (met : (run triggers host steps).requests[index]? = some phase) :
    (∃ exchange, phase = .arrived exchange) ∨
      ∃ earlier exchange later, steps = earlier ++ .advance index :: later ∧
        (run triggers host earlier).requests[index]? = some (.arrived exchange) := by
  induction steps using List.reverseRecOn generalizing phase with
  | nil => cases met
  | append_singleton steps step ih =>
      rw [run_concat] at met
      cases before : (run triggers host steps).requests[index]? with
      | none => exact .inl (requests_after_of_none before met)
      | some previous =>
          rcases ih before with ⟨exchange, rfl⟩ | ⟨earlier, exchange, later, rfl, waiting⟩
          · rcases @requests_after_of_some triggers _ _ _ before step with still | ⟨rfl, -⟩
            · rw [still] at met
              exact .inl ⟨exchange, (Option.some.inj met).symm⟩
            -- This step is the one that loads.
            · exact .inr ⟨steps, exchange, [], rfl, before⟩
          · refine .inr ⟨earlier, exchange, later ++ [step], ?_, waiting⟩
            rw [List.append_assoc, List.cons_append]

theorem not_arrived_after_load (host : Host Work) {earlier later : List Step} {index : Nat}
    {exchange seen : Exchange}
    (waiting : (run triggers host earlier).requests[index]? = some (.arrived exchange)) :
    (run triggers host (earlier ++ .advance index :: later)).requests[index]? ≠
      some (.arrived seen) := by
  intro unmoved
  obtain ⟨phase, met, served⟩ := run_after_load host waiting later
  rw [unmoved] at met
  obtain rfl := Option.some.inj met
  cases served

theorem eq_nil_of_arrived (host : Host Work) {earlier between later rest : List Step} {index : Nat}
    {exchange seen : Exchange}
    (waiting : (run triggers host earlier).requests[index]? = some (.arrived exchange))
    (same : .advance index :: later = between ++ .advance index :: rest)
    (still : (run triggers host (earlier ++ between)).requests[index]? = some (.arrived seen)) :
    between = [] := by
  cases between with
  | nil => rfl
  | cons step between =>
      obtain ⟨rfl, -⟩ := List.cons.inj same
      exact absurd still (not_arrived_after_load host waiting)

theorem load_unique (host : Host Work) {earlier other later rest : List Step} {index : Nat}
    {exchange seen : Exchange}
    (split : earlier ++ .advance index :: later = other ++ .advance index :: rest)
    (waiting : (run triggers host earlier).requests[index]? = some (.arrived exchange))
    (still : (run triggers host other).requests[index]? = some (.arrived seen)) :
    other = earlier := by
  rcases List.append_eq_append_iff.mp split with ⟨between, rfl, same⟩ | ⟨between, rfl, same⟩
  · rw [eq_nil_of_arrived host waiting same still, List.append_nil]
  · rw [eq_nil_of_arrived host still same waiting, List.append_nil]

/-- A request that got past its arrival loaded a table at one moment and is served by it alone. No
table stored before that moment is newer. -/
theorem run_served (triggers : Resolver → Exchange → List Settings) (host : Host Work)
    {steps : List Step} {index : Nat} {phase : Phase}
    (met : (run triggers host steps).requests[index]? = some phase) :
    (∃ exchange, phase = .arrived exchange) ∨
    ∃ earlier exchange later, steps = earlier ++ .advance index :: later ∧
      let live := (run triggers host earlier).site
      (run triggers host earlier).requests[index]? = some (.arrived exchange) ∧
      (∀ other seen rest, steps = other ++ .advance index :: rest →
        (run triggers host other).requests[index]? = some (.arrived seen) → other = earlier) ∧
      phase.ServedBy live exchange ∧
      ∀ before between, earlier = before ++ between →
        let older := (run triggers host before).site
        ∃ newer, live.stored = older.stored ++ newer ∧
          live.host.table ∈ older.host.table :: newer := by
  rcases exists_load host met with arrived | ⟨earlier, exchange, later, rfl, waiting⟩
  · exact .inl arrived
  · refine .inr ⟨earlier, exchange, later, rfl, waiting, ?_, ?_, ?_⟩
    · intro other seen rest split still
      exact load_unique host split waiting still
    · obtain ⟨reached, same, served⟩ := run_after_load host waiting later
      obtain rfl := Option.some.inj (met.symm.trans same)
      exact served
    · rintro before between rfl
      obtain ⟨newer, grown⟩ := @stored_run triggers host before between
      exact ⟨newer, grown.symm, Site.table_mem_of_stored grown.symm⟩

/-- The route answers with a status of its settings, after it had others deployed. -/
def relay (settings : Settings) : RouteHandler Work := fun exchange _ =>
  .redeploy { settings with requestSeconds := settings.requestSeconds + 1 } fun _ =>
    .finished ⟨exchange.withResponse
      (exchange.response.withStatus (.ofNat settings.requestSeconds)), .succeeded⟩

def relays : Host Work where
  registry := .initial
  fallback := Handler.notFound
  plan settings := EStateM.adaptExcept .rejected
    (Routes.register .get "/" none (.injected ["$entity:text"] (relay settings)))
  table := .withFallback Handler.notFound
  generation := 0
  metrics := .initial

def answering (status : Nat) : Settings := { Settings.default with requestSeconds := status }

def redeploying (_ : Resolver) (_ : Exchange) : List Settings := [answering 500]

def relayed : List Step :=
  [.redeploy (answering 201), .arrive (.ofRequest ⟨.get, ⟨none, none, "/", none⟩, .empty, []⟩),
    .advance 0, .redeploy (answering 400), .advance 0, .advance 0, .advance 0, .advance 0,
    .advance 0]

theorem run_served_relayed :
    (run redeploying relays relayed).site.stored.length = 5 ∧
    ∃ handled earlier exchange later,
      (run redeploying relays relayed).requests[0]? = some (.ended handled) ∧
      handled.exchange.response.status = 201 ∧
      relayed = earlier ++ .advance 0 :: later ∧
      (run redeploying relays earlier).requests[0]? = some (.arrived exchange) ∧
      (Phase.ended handled).ServedBy (run redeploying relays earlier).site exchange := by
  refine ⟨by decide +kernel, ?_⟩
  have answered : (((run redeploying relays relayed).requests[0]?.bind Phase.handled?).map
      (·.exchange.response.status)) = some 201 := by decide +kernel
  obtain ⟨handled, left, status⟩ := Option.map_eq_some_iff.mp answered
  obtain ⟨phase, met, ended⟩ := Option.bind_eq_some_iff.mp left
  obtain rfl := Phase.handled?_eq_some.mp ended
  rcases run_served redeploying relays met with
    ⟨_, unmoved⟩ | ⟨earlier, exchange, later, split, waiting, -, served, -⟩
  · cases unmoved
  · exact ⟨handled, earlier, exchange, later, met, status, split, waiting, served⟩

end Traffic

end Switchboard
