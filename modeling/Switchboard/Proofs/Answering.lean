import Mathlib.Data.List.Basic
import Switchboard.Gateway
import Switchboard.Proofs.Completion
import Switchboard.Proofs.Dispatch

/-!
What is answered to a request that is dispatched, and what is counted. A body over the limit is
refused before the handler is asked. Otherwise the handler runs once, and how it ended decides
whether anything of its exchange is shown. Every answer is counted under the status it has.
-/

namespace Switchboard

theorem readBody_unbroken (limit : Nat) (chunks : List Bytes) :
    readBody limit false chunks =
      if limit < chunks.flatten.length then .error .tooLarge else .ok chunks.flatten := by
  induction chunks generalizing limit with
  | nil => simp [readBody]
  | cons chunk chunks ih =>
      rw [readBody, List.flatten_cons, List.length_append]
      by_cases long : limit < chunk.length
      · rw [if_pos long, if_pos (by omega)]
      · rw [if_neg long, ih]
        by_cases exceeds : limit - chunk.length < chunks.flatten.length
        · rw [if_pos exceeds, if_pos (by omega)]
          rfl
        · rw [if_neg exceeds, if_neg (by omega)]
          rfl

/-- The response of an exchange, with 500 for a status that HTTP cannot carry. -/
def Exchange.shown (exchange : Exchange) : Response where
  status :=
    if 100 ≤ exchange.response.status ∧ exchange.response.status ≤ 999 then
      exchange.response.status
    else 500
  headers := exchange.response.headers
  body := exchange.response.body

theorem Exchange.render_eq_shown (exchange : Exchange) : exchange.render.1 = exchange.shown := by
  simp only [render, shown, Bool.and_eq_true, decide_eq_true_eq]
  by_cases representable : 100 ≤ exchange.response.status ∧ exchange.response.status ≤ 999
  · simp only [representable, and_self, if_true]
  · simp only [if_neg representable, Response.withStatus]

/-- A fresh exchange that carries a whole request: what was sent, the parameters of its query, and
an open response without anything in it. -/
structure Inbound.Carries (inbound : Inbound) (body : Bytes) (exchange : Exchange) : Prop where
  method : exchange.request.method = inbound.method
  uri : exchange.request.uri = inbound.uri
  headers : exchange.request.headers = inbound.headers
  body : exchange.request.body = body
  queried : ∀ query, inbound.uri.query = some query → exchange.parameters = .ofQuery query
  unqueried : inbound.uri.query = none → exchange.parameters = .empty
  response : exchange.response = ⟨200, .empty, []⟩
  unfinished : exchange.complete = false

theorem Inbound.carries_ofRequest (inbound : Inbound) (body : Bytes) :
    inbound.Carries body (.ofRequest (inbound.request body)) where
  method := rfl
  uri := rfl
  headers := rfl
  body := rfl
  queried query asked := by rw [Exchange.ofRequest, request, asked]
  unqueried silent := by rw [Exchange.ofRequest, request, silent]
  response := rfl
  unfinished := rfl

namespace Handled

/-- The response that is due after a handler ended. -/
inductive Due (handled : Handled) : Response → Prop
  | succeeded : handled.outcome = .succeeded → Due handled handled.exchange.shown
  | completed {error : HandlerError} : handled.outcome = .failed error →
      handled.exchange.complete = true → Due handled handled.exchange.shown
  | incomplete {error : HandlerError} : handled.outcome = .failed error →
      handled.exchange.complete = false → Due handled ⟨500, .empty, []⟩
  | panicked : handled.outcome = .panicked → Due handled ⟨500, .empty, []⟩

theorem Due.eq_of_succeeded {handled : Handled} {response : Response} (due : handled.Due response)
    (succeeded : handled.outcome = .succeeded) : response = handled.exchange.shown := by
  cases due with
  | succeeded _ => rfl
  | completed _ _ => rfl
  | incomplete ended _ => cases succeeded.symm.trans ended
  | panicked ended => cases succeeded.symm.trans ended

theorem Due.eq_of_panicked {handled : Handled} {response : Response} (due : handled.Due response)
    (panicked : handled.outcome = .panicked) : response = ⟨500, .empty, []⟩ := by
  cases due with
  | succeeded ended => cases panicked.symm.trans ended
  | completed ended _ => cases panicked.symm.trans ended
  | incomplete _ _ => rfl
  | panicked _ => rfl

theorem due_response (handled : Handled) : handled.Due handled.response.1 := by
  unfold response
  split
  next ended =>
    rw [Exchange.render_eq_shown]
    exact .succeeded ended
  next error ended =>
    split
    next done =>
      rw [Exchange.render_eq_shown]
      exact .completed ended done
    next unfinished => exact .incomplete ended (by simpa using unfinished)
  next ended => exact .panicked ended

end Handled

namespace Metrics

theorem lookup_increment (key other : Method × UInt16) (counts : List ((Method × UInt16) × Nat)) :
    ((increment key counts).lookup other).getD 0 =
      (counts.lookup other).getD 0 + if key = other then 1 else 0 := by
  induction counts with
  | nil =>
      by_cases same : key = other
      · simp [increment, same]
      · have apart : (other == key) = false := by simpa using Ne.symm same
        simp [increment, List.lookup_cons, same, apart]
  | cons head counts ih =>
      obtain ⟨seen, count⟩ := head
      rw [increment]
      by_cases found : seen = key
      · subst found
        by_cases same : seen = other
        · simp [same]
        · have apart : (other == seen) = false := by simpa using Ne.symm same
          simp [List.lookup_cons, same, apart]
      · rw [if_neg found]
        by_cases same : other = seen
        · subst same
          simp [Ne.symm found]
        · have apart : (other == seen) = false := by simpa using same
          simp only [List.lookup_cons, apart, ih]

theorem countOf_recordAnswer (metrics : Metrics) (method other : Method) (status code : UInt16) :
    (metrics.recordAnswer method status).countOf other code =
      metrics.countOf other code + if (method, status) = (other, code) then 1 else 0 :=
  lookup_increment _ _ _

def recordAll (metrics : Metrics) (answers : List (Method × UInt16)) : Metrics :=
  answers.foldl (fun metrics (method, status) => metrics.recordAnswer method status) metrics

theorem countOf_recordAll (metrics : Metrics) (answers : List (Method × UInt16)) (method : Method)
    (status : UInt16) :
    (metrics.recordAll answers).countOf method status =
      metrics.countOf method status + answers.count (method, status) := by
  induction answers generalizing metrics with
  | nil => rfl
  | cons answer answers ih =>
      obtain ⟨other, code⟩ := answer
      rw [recordAll, List.foldl_cons, ← recordAll, ih, countOf_recordAnswer, List.count_cons]
      simp only [beq_iff_eq]
      omega

end Metrics

namespace Gateway

variable {m : Type → Type} [Monad m]

def counted (gateway : Gateway m) : Gateway (StateT Nat m) :=
  ⟨gateway.handler.counted, gateway.maxBodySize⟩

def answerOf (metrics : Metrics) (inbound : Inbound) (answered : Response × List Notice) :
    Answer :=
  ⟨answered.1, answered.2, metrics.recordAnswer inbound.method answered.1.status⟩

def answers (inbounds : List Inbound) (responses : List Response) : List (Method × UInt16) :=
  List.zipWith (fun inbound response => (inbound.method, response.status)) inbounds responses

variable [LawfulMonad m]

theorem dispatch_eq (gateway : Gateway m) (metrics : Metrics) (inbound : Inbound) :
    gateway.dispatch metrics inbound = answerOf metrics inbound <$> gateway.run inbound := by
  rw [map_eq_pure_bind]
  rfl

theorem dispatch_of_tooLarge (gateway : Gateway m) (metrics : Metrics) {inbound : Inbound}
    (whole : inbound.broken = false)
    (exceeds : gateway.maxBodySize < inbound.chunks.flatten.length) :
    gateway.dispatch metrics inbound =
      pure (answerOf metrics inbound (BodyFault.tooLarge.response, [])) := by
  rw [dispatch_eq, run, whole, readBody_unbroken, if_pos exceeds, map_pure]

theorem dispatch_of_fits (gateway : Gateway m) (metrics : Metrics) {inbound : Inbound}
    (whole : inbound.broken = false)
    (fits : inbound.chunks.flatten.length ≤ gateway.maxBodySize) :
    gateway.dispatch metrics inbound =
      (fun handled => answerOf metrics inbound handled.response) <$>
        gateway.handler (.ofRequest (inbound.request inbound.chunks.flatten)) := by
  rw [dispatch_eq, run, whole, readBody_unbroken, if_neg (by omega)]
  simp only [bind_pure_comp, Functor.map_map]

theorem run_map_counted {α : Type} (handler : Handler m) (exchange : Exchange)
    (finish : Handled → α) (count : Nat) :
    (finish <$> handler.counted exchange).run count = (do
      let handled ← handler exchange
      pure (finish handled, count + 1)) := by
  rw [StateT.run_map]
  change _ <$> (handler exchange >>= fun handled => pure (handled, count + 1)) = _
  rw [map_bind]
  simp only [map_pure]

theorem response_dispatch (gateway : Gateway m) (metrics : Metrics) (inbound : Inbound) :
    Answer.response <$> gateway.dispatch metrics inbound = Prod.fst <$> gateway.run inbound := by
  rw [dispatch_eq, Functor.map_map]
  rfl

theorem dispatchAll_eq (gateway : Gateway m) (metrics : Metrics) (inbounds : List Inbound) :
    gateway.dispatchAll metrics inbounds =
      (fun responses => (responses, metrics.recordAll (answers inbounds responses))) <$>
        inbounds.mapM fun inbound => Prod.fst <$> gateway.run inbound := by
  induction inbounds generalizing metrics with
  | nil => simp [dispatchAll, answers, Metrics.recordAll]
  | cons inbound inbounds ih =>
      rw [dispatchAll, dispatch_eq, List.mapM_cons]
      simp only [ih, bind_map_left, bind_pure_comp, map_bind, Functor.map_map]
      rfl

theorem count_answers (inbounds : List Inbound) (responses : List Response)
    (method : Method) (status : UInt16) :
    (answers inbounds responses).count (method, status) =
      (inbounds.zip responses).countP fun (inbound, response) =>
        inbound.method = method ∧ response.status = status := by
  rw [answers, List.count, ← List.map_uncurry_zip_eq_zipWith, List.countP_map]
  apply List.countP_congr
  rintro ⟨inbound, response⟩ _
  simp

/-- A body over the limit is answered 413 without the handler. Otherwise the handler runs once, on a
fresh exchange that carries the request, and the response is due to how it ended. After any sequence
of requests the counters tell how many of a method were answered with a status. -/
theorem dispatch_answers (gateway : Gateway m) :
    (∀ (metrics : Metrics) (inbound : Inbound), inbound.broken = false →
      let body := inbound.chunks.flatten
      (gateway.maxBodySize < body.length → ∃ headers,
        let answer := answerOf metrics inbound
          (⟨413, headers, Text.bytes "Request body too large"⟩, [])
        gateway.dispatch metrics inbound = pure answer ∧
        ∀ count, (gateway.counted.dispatch metrics inbound).run count = pure (answer, count)) ∧
      (body.length ≤ gateway.maxBodySize →
        ∃ (exchange : Exchange) (answered : Handled → Response × List Notice),
          inbound.Carries body exchange ∧
          (∀ handled : Handled, handled.Due (answered handled).1) ∧
          (gateway.dispatch metrics inbound = do
            let handled ← gateway.handler exchange
            pure (answerOf metrics inbound (answered handled))) ∧
          ∀ count, (gateway.counted.dispatch metrics inbound).run count = do
            let handled ← gateway.handler exchange
            pure (answerOf metrics inbound (answered handled), count + 1))) ∧
    ∀ inbounds : List Inbound, ∃ tally : List Response → Metrics,
      gateway.dispatchAll .initial inbounds = (fun responses => (responses, tally responses)) <$>
        (inbounds.mapM fun inbound => Answer.response <$> gateway.dispatch .initial inbound) ∧
      ∀ responses method status, (tally responses).countOf method status =
        (inbounds.zip responses).countP fun (inbound, response) =>
          inbound.method = method ∧ response.status = status := by
  refine ⟨?_, ?_⟩
  · intro metrics inbound whole body
    refine ⟨?_, ?_⟩
    · intro exceeds
      refine ⟨BodyFault.tooLarge.response.headers, ?_, ?_⟩
      · exact gateway.dispatch_of_tooLarge metrics whole exceeds
      · intro count
        rw [gateway.counted.dispatch_of_tooLarge metrics whole exceeds]
        rfl
    · intro fits
      let exchange := Exchange.ofRequest (inbound.request body)
      refine ⟨exchange, Handled.response, inbound.carries_ofRequest body, Handled.due_response,
        ?_, ?_⟩
      · rw [gateway.dispatch_of_fits metrics whole fits, map_eq_pure_bind]
      · intro count
        rw [gateway.counted.dispatch_of_fits metrics whole fits]
        exact run_map_counted gateway.handler exchange _ count
  · intro inbounds
    refine ⟨fun responses => Metrics.initial.recordAll (answers inbounds responses), ?_, ?_⟩
    · simp only [response_dispatch]
      exact gateway.dispatchAll_eq .initial inbounds
    · intro responses method status
      rw [Metrics.countOf_recordAll, count_answers]
      exact Nat.zero_add _

def burst : Gateway Id where
  handler exchange := ⟨(exchange.withResponse ⟨200, .empty, [1]⟩).completed, .panicked⟩
  maxBodySize := 2

def mirror : Gateway Id where
  handler exchange :=
    ⟨exchange.withResponse ⟨200, exchange.request.headers, exchange.request.body⟩, .succeeded⟩
  maxBodySize := 2

def posted (body : Bytes) : Inbound :=
  ⟨.post, ⟨none, none, "/", none⟩, Headers.empty.append .contentType plainText, [body], false⟩

/-- At the limit the handler runs and sees the request; nothing is shown of an exchange it left by a
panic. A byte more and it does not run. -/
theorem dispatch_answers_burst :
    (∃ notices, (burst.counted.dispatch .initial (posted [7, 7])).run 0 =
        (answerOf .initial (posted [7, 7]) (⟨500, .empty, []⟩, notices), 1)) ∧
      ((burst.counted.dispatch .initial (posted [7, 7, 7])).run 0).2 = 0 ∧
      ∃ notices, mirror.dispatch .initial (posted [7, 7]) =
        answerOf .initial (posted [7, 7]) (⟨200, (posted []).headers, [7, 7]⟩, notices) := by
  refine ⟨?_, ?_, ?_⟩
  · obtain ⟨exchange, answered, -, due, -, counted⟩ :=
      ((dispatch_answers burst).1 .initial (posted [7, 7]) rfl).2 (by decide)
    let left := burst.handler exchange
    have bare : answered left = (⟨500, .empty, []⟩, (answered left).2) :=
      Prod.ext ((due left).eq_of_panicked rfl) rfl
    refine ⟨(answered left).2, ?_⟩
    rw [counted 0, ← bare]
    rfl
  · obtain ⟨headers, -, counted⟩ :=
      ((dispatch_answers burst).1 .initial (posted [7, 7, 7]) rfl).1 (by decide)
    rw [counted 0]
    rfl
  · obtain ⟨exchange, answered, carries, due, dispatched, -⟩ :=
      ((dispatch_answers mirror).1 .initial (posted [7, 7]) rfl).2 (by decide)
    let left := mirror.handler exchange
    have shown : left.exchange.shown = ⟨200, (posted []).headers, [7, 7]⟩ := by
      change Response.mk 200 exchange.request.headers exchange.request.body = _
      rw [carries.headers, carries.body]
      rfl
    have same : answered left = (⟨200, (posted []).headers, [7, 7]⟩, (answered left).2) :=
      Prod.ext (((due left).eq_of_succeeded rfl).trans shown) rfl
    refine ⟨(answered left).2, ?_⟩
    rw [dispatched, ← same]
    rfl

end Gateway

end Switchboard
