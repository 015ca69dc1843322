import Mathlib.Data.List.Induction
import Switchboard.Exchange

/-!
Completing a response freezes it, and an operation that fails changes nothing. What an operation
can do to an exchange is said once, by its effect; what a run of operations keeps follows from it.
-/

namespace Switchboard

namespace Exchange

variable (exchange : Exchange)

theorem run_setRequestHeader (name value : String) :
    (setRequestHeader name value).run exchange =
      match headerField name value with
      | .ok (name, value) =>
        .ok () (exchange.withRequestHeaders (exchange.request.headers.insert name value))
      | .error error => .error error exchange := by
  rw [setRequestHeader]
  cases headerField name value <;> rfl

theorem run_addParameter (name value : String) :
    (addParameter name value).run exchange = .ok () (exchange.addParameters [(name, value)]) :=
  rfl

theorem run_ensureOpen_bind (rest : Unit → Change ExchangeError Exchange Unit) :
    (ensureOpen >>= rest).run exchange =
      if exchange.complete then .error .alreadyComplete exchange else (rest ()).run exchange := by
  obtain ⟨request, parameters, response, complete⟩ := exchange
  cases complete <;> rfl

theorem run_editResponseHeaders (edit : Headers → Headers) :
    (editResponseHeaders edit).run exchange =
      if exchange.complete then .error .alreadyComplete exchange
      else .ok () (exchange.withResponse
        (exchange.response.withHeaders (edit exchange.response.headers))) :=
  run_ensureOpen_bind exchange _

theorem run_setResponseHeader (name value : String) :
    (setResponseHeader name value).run exchange =
      if exchange.complete then .error .alreadyComplete exchange
      else match headerField name value with
      | .ok (name, value) => .ok () (exchange.withResponse
        (exchange.response.withHeaders (exchange.response.headers.insert name value)))
      | .error error => .error error exchange := by
  rw [setResponseHeader, run_ensureOpen_bind]
  cases headerField name value <;> rfl

theorem run_setStatus (status : UInt16) :
    (setStatus status).run exchange =
      if exchange.complete then .error .alreadyComplete exchange
      else .ok () (exchange.withResponse (exchange.response.withStatus status)) :=
  run_ensureOpen_bind exchange _

def completed (exchange : Exchange) : Exchange := { exchange with complete := true }

theorem run_finish : finish.run exchange = .ok () exchange.completed := rfl

theorem run_send (body : Bytes) :
    (send body).run exchange =
      if exchange.complete then .error .alreadyComplete exchange
      else .ok () (exchange.withResponse (exchange.response.withBody body)).completed :=
  run_ensureOpen_bind exchange _

theorem run_respond (status : UInt16) (body : Bytes) :
    (respond status body).run exchange =
      if exchange.complete then .error .alreadyComplete exchange
      else .ok () (exchange.withResponse
        ((exchange.response.withStatus status).withBody body)).completed := by
  obtain ⟨request, parameters, response, complete⟩ := exchange
  cases complete <;> rfl

/-- The location is checked before anything is changed, and after that no check fails. -/
theorem run_sendRedirect (location : String) :
    (sendRedirect location).run exchange =
      if exchange.complete then .error .alreadyComplete exchange
      else match headerValue .location location with
      | .ok value => .ok () (exchange.withResponse
        ((exchange.response.withHeaders
          (exchange.response.headers.insert .location value)).withStatus 302)).completed
      | .error error => .error error exchange := by
  rw [sendRedirect, run_ensureOpen_bind]
  obtain ⟨request, parameters, response, complete⟩ := exchange
  cases complete with
  | true => rfl
  | false => cases headerValue .location location <;> rfl

end Exchange

/-- All that an operation can do to an exchange. -/
inductive Effect (before : Exchange) : EStateM.Result ExchangeError Exchange Unit → Prop
  | refused (error : ExchangeError) : Effect before (.error error before)
  | requestHeaders (headers : Headers) :
      Effect before (.ok () (before.withRequestHeaders headers))
  | parameters (pairs : List (String × String)) :
      Effect before (.ok () (before.addParameters pairs))
  | response (response : Response) : before.complete = false →
      response.body = before.response.body → Effect before (.ok () (before.withResponse response))
  | completion (response : Response) : before.complete = false →
      Effect before (.ok () (before.withResponse response).completed)
  | finish : Effect before (.ok () before.completed)

namespace Effect

variable {before : Exchange}

theorem guarded {result : EStateM.Result ExchangeError Exchange Unit}
    (effect : before.complete = false → Effect before result) :
    Effect before (if before.complete then .error .alreadyComplete before else result) := by
  split
  next => exact refused _
  next isOpen => exact effect (by simpa using isOpen)

end Effect

theorem Edit.effect (edit : Edit) (before : Exchange) :
    Effect before (edit.change.run before) := by
  cases edit with
  | setRequestHeader name value =>
      rw [change, Exchange.run_setRequestHeader]
      split
      next => exact Effect.requestHeaders _
      next => exact Effect.refused _
  | addParameter name value =>
      rw [change, Exchange.run_addParameter]
      exact Effect.parameters _
  | setResponseHeader name value =>
      rw [change, Exchange.run_setResponseHeader]
      apply Effect.guarded
      intro isOpen
      split
      next => exact Effect.response _ isOpen rfl
      next => exact Effect.refused _
  | editResponseHeaders edit =>
      rw [change, Exchange.run_editResponseHeaders]
      exact Effect.guarded fun isOpen => Effect.response _ isOpen rfl
  | setStatus status =>
      rw [change, Exchange.run_setStatus]
      exact Effect.guarded fun isOpen => Effect.response _ isOpen rfl
  | send payload =>
      rw [change, Exchange.run_send]
      exact Effect.guarded fun isOpen => Effect.completion _ isOpen
  | sendRedirect location =>
      rw [change, Exchange.run_sendRedirect]
      apply Effect.guarded
      intro isOpen
      split
      next => exact Effect.completion _ isOpen
      next => exact Effect.refused _
  | respond status body =>
      rw [change, Exchange.run_respond]
      exact Effect.guarded fun isOpen => Effect.completion _ isOpen
  | finish =>
      rw [change, Exchange.run_finish]
      exact Effect.finish

structure Kept (before after : Exchange) : Prop where
  method : after.request.method = before.request.method
  uri : after.request.uri = before.request.uri
  body : after.request.body = before.request.body
  parameters : ∀ name, before.parameters.values name <+: after.parameters.values name
  complete : before.complete = true → after.complete = true
  response : before.complete = true → after.response = before.response

namespace Kept

theorem refl (exchange : Exchange) : Kept exchange exchange :=
  ⟨rfl, rfl, rfl, fun _ => List.prefix_rfl, id, fun _ => rfl⟩

theorem trans {first second third : Exchange} (former : Kept first second)
    (latter : Kept second third) : Kept first third where
  method := latter.method.trans former.method
  uri := latter.uri.trans former.uri
  body := latter.body.trans former.body
  parameters name := (former.parameters name).trans (latter.parameters name)
  complete done := latter.complete (former.complete done)
  response done := (latter.response (former.complete done)).trans (former.response done)

end Kept

theorem Parameters.values_prefix_addAll (parameters : Parameters)
    (pairs : List (String × String)) (name : String) :
    parameters.values name <+: (parameters.addAll pairs).values name := by
  simp only [values, addAll, List.filter_append, List.map_append]
  exact List.prefix_append _ _

namespace Effect

variable {before left : Exchange} {error : ExchangeError}

theorem unchanged (effect : Effect before (.error error left)) : left = before := by
  cases effect
  rfl

theorem kept (effect : Effect before (.ok () left)) : Kept before left := by
  cases effect with
  | requestHeaders headers => exact ⟨rfl, rfl, rfl, fun _ => List.prefix_rfl, id, fun _ => rfl⟩
  | parameters pairs =>
      exact ⟨rfl, rfl, rfl, before.parameters.values_prefix_addAll pairs, id, fun _ => rfl⟩
  | response response isOpen same =>
      refine ⟨rfl, rfl, rfl, fun _ => List.prefix_rfl, id, ?_⟩
      intro done
      simp [isOpen] at done
  | completion response isOpen =>
      refine ⟨rfl, rfl, rfl, fun _ => List.prefix_rfl, fun _ => rfl, ?_⟩
      intro done
      simp [isOpen] at done
  | finish => exact ⟨rfl, rfl, rfl, fun _ => List.prefix_rfl, fun _ => rfl, fun _ => rfl⟩

theorem body (effect : Effect before (.ok () left)) (isOpen : left.complete = false) :
    before.complete = false ∧ left.response.body = before.response.body := by
  cases effect with
  | requestHeaders headers => exact ⟨isOpen, rfl⟩
  | parameters pairs => exact ⟨isOpen, rfl⟩
  | response response wasOpen same => exact ⟨wasOpen, same⟩
  | completion response wasOpen => cases isOpen
  | finish => cases isOpen

end Effect

namespace Edit

theorem atomic (edit : Edit) : edit.change.Atomic := by
  intro state error left failed
  have effect := edit.effect state
  rw [failed] at effect
  exact effect.unchanged

theorem kept (edit : Edit) (before : Exchange) : Kept before (edit.change.after before) := by
  have effect := edit.effect before
  rw [Change.after]
  split
  next left succeeded =>
    rw [succeeded] at effect
    exact effect.kept
  next error left failed =>
    rw [edit.atomic before error left failed]
    exact Kept.refl before

/-- The operations that write to the response. The rest write to the request or only complete. -/
def writesResponse : Edit → Bool
  | .setRequestHeader .. | .addParameter .. | .finish => false
  | .setResponseHeader .. | .editResponseHeaders _ | .setStatus _ | .send _ | .sendRedirect _ |
    .respond .. => true

theorem refused_of_complete {edit : Edit} {before : Exchange} (done : before.complete = true)
    (writes : edit.writesResponse = true) :
    edit.change.run before = .error .alreadyComplete before := by
  cases edit with
  | setRequestHeader | addParameter | finish => cases writes
  | setResponseHeader name value => rw [change, Exchange.run_setResponseHeader, if_pos done]
  | editResponseHeaders edit => rw [change, Exchange.run_editResponseHeaders, if_pos done]
  | setStatus status => rw [change, Exchange.run_setStatus, if_pos done]
  | send payload => rw [change, Exchange.run_send, if_pos done]
  | sendRedirect location => rw [change, Exchange.run_sendRedirect, if_pos done]
  | respond status body => rw [change, Exchange.run_respond, if_pos done]

def completesBare : Edit → Bool
  | .sendRedirect _ | .finish => true
  | _ => false

theorem completed_of_bare {edit : Edit} {before left : Exchange} (bare : edit.completesBare = true)
    (succeeded : edit.change.run before = .ok () left) :
    left.complete = true ∧ left.response.body = before.response.body := by
  cases edit with
  | sendRedirect location =>
      rw [change, Exchange.run_sendRedirect] at succeeded
      split at succeeded
      next => cases succeeded
      next =>
        split at succeeded
        next =>
          cases succeeded
          exact ⟨rfl, rfl⟩
        next => cases succeeded
  | finish =>
      rw [change, Exchange.run_finish] at succeeded
      cases succeeded
      exact ⟨rfl, rfl⟩
  | _ => cases bare

end Edit

namespace Exchange

def afterAll (edits : List Edit) (exchange : Exchange) : Exchange :=
  edits.foldl (fun exchange edit => edit.change.after exchange) exchange

theorem kept_afterAll (edits : List Edit) (exchange : Exchange) :
    Kept exchange (afterAll edits exchange) := by
  induction edits generalizing exchange with
  | nil => exact Kept.refl exchange
  | cons edit edits ih => exact (edit.kept exchange).trans (ih _)

def OpenEmpty (exchange : Exchange) : Prop :=
  exchange.complete = false → exchange.response.body = []

theorem openEmpty_after (edit : Edit) {exchange : Exchange} (empty : exchange.OpenEmpty) :
    (edit.change.after exchange).OpenEmpty := by
  have effect := edit.effect exchange
  rw [Change.after]
  split
  next left succeeded =>
    rw [succeeded] at effect
    intro isOpen
    obtain ⟨wasOpen, same⟩ := effect.body isOpen
    rw [same]
    exact empty wasOpen
  next error left failed =>
    rw [edit.atomic exchange error left failed]
    exact empty

theorem openEmpty_afterAll (edits : List Edit) {exchange : Exchange} (empty : exchange.OpenEmpty) :
    (afterAll edits exchange).OpenEmpty := by
  induction edits generalizing exchange with
  | nil => exact empty
  | cons edit edits ih => exact ih (openEmpty_after edit empty)

theorem openEmpty_ofRequest (request : Request) : (ofRequest request).OpenEmpty := fun _ => rfl

/-- Over any run of operations on a fresh exchange, completion freezes the response and every
operation that fails leaves the exchange as it was. -/
theorem completion_freezes (request : Request) (earlier later : List Edit) (edit : Edit) :
    let before := afterAll earlier (ofRequest request)
    let after := afterAll later before
    (before.complete = true → after.complete = true ∧ after.response = before.response ∧
      after.render = before.render) ∧
    (before.complete = true → edit.writesResponse = true →
      edit.change.run before = .error .alreadyComplete before) ∧
    (before.complete = true → Edit.finish.change.run before = .ok () before) ∧
    (∀ error left, edit.change.run before = .error error left → left = before) ∧
    (before.complete = false → before.response.body = []) ∧
    (∀ left, before.complete = false → edit.completesBare = true →
      edit.change.run before = .ok () left → left.complete = true ∧ left.response.body = []) ∧
    before.request.method = request.method ∧ before.request.uri = request.uri ∧
    before.request.body = request.body ∧
    ∀ name, before.parameters.values name <+: after.parameters.values name := by
  intro before after
  have start : Kept (ofRequest request) before := kept_afterAll earlier _
  have kept : Kept before after := kept_afterAll later before
  have empty : before.OpenEmpty := openEmpty_afterAll earlier (openEmpty_ofRequest request)
  refine ⟨?_, fun done => Edit.refused_of_complete done, ?_, edit.atomic before, empty, ?_,
    start.method, start.uri, start.body, kept.parameters⟩
  · intro done
    have same := kept.response done
    refine ⟨kept.complete done, same, ?_⟩
    simp only [render, path, same, kept.uri]
  · intro done
    rw [Edit.change, run_finish, completed, ← done]
  · intro left isOpen bare succeeded
    obtain ⟨done, body⟩ := Edit.completed_of_bare bare succeeded
    exact ⟨done, body.trans (empty isOpen)⟩

end Exchange

end Switchboard
