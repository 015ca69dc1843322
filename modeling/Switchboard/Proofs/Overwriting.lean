import Switchboard.Predicate
import Switchboard.Proofs.Completion
import Switchboard.Proofs.Message.Header

/-!
Setting a header. The header of that name, in any case, then has the one value that was set, every
other header what it had; a refused name or value changes nothing. Conditions on headers read the
same values.
-/

namespace Switchboard

/-- One header has one value, which reads back where it is plain, and the others are as before. -/
structure Overwritten (before after : Headers) (name value : String) : Prop where
  only : ∀ other, other.toLower = name.toLower → after.under other = [Text.bytes value]
  plain : IsPlain value → ∀ other, other.toLower = name.toLower → after.text? other = some value
  obscure : ¬ IsPlain value → ∀ other, other.toLower = name.toLower → after.text? other = none
  others : ∀ other, other.toLower ≠ name.toLower →
    after.under other = before.under other ∧ after.text? other = before.text? other

/-- What comes of setting a header: the name is checked, then the value, and a failure leaves the
exchange as it was. -/
structure Overwrites (result : EStateM.Result ExchangeError Exchange Unit) (exchange : Exchange)
    (headers : Headers) (put : Headers → Exchange) (name value : String) : Prop where
  succeeds_iff : (∃ left, result = .ok () left) ↔ IsFieldName name ∧ IsFieldValue value
  overwritten : ∀ left, result = .ok () left →
    ∃ after, left = put after ∧ Overwritten headers after name value
  unnamed : ¬ IsFieldName name → result = .error (.invalidHeaderName name) exchange
  unwritable : IsFieldName name → ¬ IsFieldValue value →
    result = .error (.invalidHeaderValue name.toLower) exchange

namespace Headers

theorem text?_congr {headers others : Headers} {name : String}
    (same : headers.under name = others.under name) : headers.text? name = others.text? name := by
  apply Option.ext
  intro text
  rw [text?_eq_some_iff, text?_eq_some_iff, same]

theorem overwritten_insert {header : HeaderName} {written : HeaderValue} {name value : String}
    (isName : IsFieldName name) (named : header.text = name.toLower)
    (bytes : written.bytes = Text.bytes value) (headers : Headers) :
    Overwritten headers (headers.insert header written) name value := by
  have hit (other : String) (same : other.toLower = name.toLower) :
      (headers.insert header written).under other = [Text.bytes value] := by
    rw [under_insert, if_pos (same.trans named.symm), bytes]
  have missed (other : String) (different : other.toLower ≠ name.toLower) :
      (headers.insert header written).under other = headers.under other := by
    rw [under_insert, named, if_neg different]
  refine ⟨hit, ?_, ?_, fun other different => ⟨missed other different, ?_⟩⟩
  · intro plain other same
    rw [text?_eq_some_iff, hit other same]
    exact ⟨(isFieldName_congr same).mpr isName, plain, rfl⟩
  · intro obscure other same
    apply Option.eq_none_iff_forall_ne_some.mpr
    intro text read
    obtain ⟨-, plain, first⟩ := text?_eq_some_iff.mp read
    rw [hit other same, List.head?_cons, Option.some.injEq] at first
    rw [← Text.bytes_injective first] at plain
    exact obscure plain
  · exact text?_congr (missed other different)

end Headers

section HeaderField

variable {name value : String}

theorem headerField_of_ofText? {header : HeaderName}
    (read : HeaderName.ofText? name = some header) :
    headerField name value = (headerValue header value).map (header, ·) := by
  rw [headerField, headerName, read]
  change (headerValue header value >>= fun written => pure (header, written)) = _
  cases headerValue header value <;> rfl

theorem headerField_of_unnamed (unnamed : ¬ IsFieldName name) :
    headerField name value = .error (.invalidHeaderName name) := by
  rw [headerField, headerName, HeaderName.ofText?_eq_none unnamed]
  rfl

theorem headerField_of_unwritable (isName : IsFieldName name) (unwritable : ¬ IsFieldValue value) :
    headerField name value = .error (.invalidHeaderValue name.toLower) := by
  obtain ⟨header, read, named⟩ := HeaderName.exists_ofText?_eq_some isName
  rw [headerField_of_ofText? read, headerValue, HeaderValue.ofText?_eq_none unwritable, ← named]
  rfl

theorem exists_headerField (isName : IsFieldName name) (isValue : IsFieldValue value) :
    ∃ header written, headerField name value = .ok (header, written) ∧
      header.text = name.toLower ∧ written.bytes = Text.bytes value := by
  obtain ⟨header, read, named⟩ := HeaderName.exists_ofText?_eq_some isName
  obtain ⟨written, accepted, bytes⟩ := HeaderValue.exists_ofText?_eq_some isValue
  refine ⟨header, written, ?_, named, bytes⟩
  rw [headerField_of_ofText? read, headerValue, accepted]
  rfl

theorem overwrites_headerField (exchange : Exchange) (headers : Headers)
    (put : Headers → Exchange) :
    Overwrites
      (match headerField name value with
      | .ok (header, written) => .ok () (put (headers.insert header written))
      | .error error => .error error exchange)
      exchange headers put name value := by
  by_cases isName : IsFieldName name
  · by_cases isValue : IsFieldValue value
    · obtain ⟨header, written, checked, named, bytes⟩ := exists_headerField isName isValue
      rw [checked]
      refine ⟨?_, ?_, fun unnamed => absurd isName unnamed, fun _ refused => absurd isValue refused⟩
      · exact iff_of_true ⟨_, rfl⟩ ⟨isName, isValue⟩
      · rintro left ⟨⟩
        exact ⟨_, rfl, headers.overwritten_insert isName named bytes⟩
    · rw [headerField_of_unwritable isName isValue]
      refine ⟨?_, ?_, fun unnamed => absurd isName unnamed, fun _ _ => rfl⟩
      · simp [isValue]
      · rintro left ⟨⟩
  · rw [headerField_of_unnamed isName]
    refine ⟨?_, ?_, fun _ => rfl, fun named => absurd named isName⟩
    · simp [isName]
    · rintro left ⟨⟩

end HeaderField

theorem Predicate.holds_header_iff (exchange : Exchange) (name expected : String) :
    (Predicate.header name (some expected)).holds exchange = true ↔
      IsFieldName name ∧ IsPlain expected ∧
        Text.bytes expected ∈ exchange.request.headers.under name := by
  rw [holds, headerHolds, List.any_eq_true]
  by_cases isName : IsFieldName name
  · simp only [← Headers.map_bytes_valuesNamed isName, List.mem_map, decide_eq_true_iff,
      HeaderValue.text?_eq_some_iff, isName, true_and]
    exact ⟨fun ⟨value, found, plain, bytes⟩ => ⟨plain, value, found, bytes⟩,
      fun ⟨plain, value, found, bytes⟩ => ⟨value, found, plain, bytes⟩⟩
  · simp [Headers.valuesNamed_eq_nil isName, isName]

namespace Exchange

/-- Setting a header of the request, and one of the response while that is open, overwrites that
header and only it. A condition on a header holds where a value of it is the expected text. -/
theorem setHeader_overwrites (exchange : Exchange) (name value : String) :
    Overwrites ((setRequestHeader name value).run exchange) exchange exchange.request.headers
      exchange.withRequestHeaders name value ∧
    (exchange.complete = false →
      Overwrites ((setResponseHeader name value).run exchange) exchange exchange.response.headers
        (fun headers => exchange.withResponse (exchange.response.withHeaders headers)) name value) ∧
    (exchange.complete = true →
      (setResponseHeader name value).run exchange = .error .alreadyComplete exchange) ∧
    ∀ expected, (Predicate.header name (some expected)).holds exchange = true ↔
      IsFieldName name ∧ IsPlain expected ∧
        Text.bytes expected ∈ exchange.request.headers.under name := by
  refine ⟨?_, ?_, ?_, Predicate.holds_header_iff exchange name⟩
  · rw [run_setRequestHeader]
    exact overwrites_headerField exchange exchange.request.headers exchange.withRequestHeaders
  · intro isOpen
    rw [run_setResponseHeader, if_neg (by simp [isOpen])]
    exact overwrites_headerField exchange exchange.response.headers
      fun headers => exchange.withResponse (exchange.response.withHeaders headers)
  · intro done
    rw [run_setResponseHeader, if_pos done]

def scattered : Headers :=
  ⟨[(⟨"x-a", by decide⟩, ⟨[0xFF], by decide⟩), (⟨"b", by decide⟩, ⟨[0x63], by decide⟩),
    (⟨"x-a", by decide⟩, ⟨[0x32], by decide⟩)]⟩

def headed : Exchange :=
  ⟨⟨.get, ⟨none, none, "/", none⟩, scattered, []⟩, .empty, ⟨200, scattered, []⟩, false⟩

theorem setHeader_overwrites_headed :
    headed.complete = false ∧
    (∃ after, (setResponseHeader "X-A" "é").run headed =
        .ok () (headed.withResponse (headed.response.withHeaders after)) ∧
      after.text? "x-A" = none ∧ after.under "b" = [[0x63]]) ∧
    (setRequestHeader "X A" "\n").run headed = .error (.invalidHeaderName "X A") headed ∧
    (setRequestHeader "X-A" "\n").run headed =
      .error (.invalidHeaderValue "X-A".toLower) headed ∧
    headed.completed.complete = true ∧
    (setResponseHeader "X A" "\n").run headed.completed =
      .error .alreadyComplete headed.completed := by
  have isName : IsFieldName "X-A" := ⟨by decide, by decide⟩
  have accented : Text.bytes "é" = [0xC3, 0xA9] := by
    rw [Text.bytes_eq_utf8]
    decide
  have isValue : IsFieldValue "é" := by simp [IsFieldValue, accented]
  have obscure : ¬ IsPlain "é" := by simp [IsPlain, accented]
  have broken : Text.bytes "\n" = [0x0A] := by
    rw [Text.bytes_eq_utf8]
    decide
  have refused : ¬ IsFieldValue "\n" := by simp [IsFieldValue, broken]
  have spaced : ¬ IsFieldName "X A" := fun named => absurd named.1 (by decide)
  have sameName : "x-A".toLower = "X-A".toLower := by
    rw [← String.toList_inj, Text.toList_toLower, Text.toList_toLower]
    decide
  have small : "b".toLower = "b" := by
    rw [← String.toList_inj, Text.toList_toLower]
    decide
  have otherName : "b".toLower ≠ "X-A".toLower := by
    rw [ne_eq, ← String.toList_inj, Text.toList_toLower, Text.toList_toLower]
    decide
  obtain ⟨-, response, -, -⟩ := setHeader_overwrites headed "X-A" "é"
  obtain ⟨misnamed, -, -, -⟩ := setHeader_overwrites headed "X A" "\n"
  obtain ⟨unwritable, -, -, -⟩ := setHeader_overwrites headed "X-A" "\n"
  obtain ⟨-, -, closed, -⟩ := setHeader_overwrites headed.completed "X A" "\n"
  have set := response rfl
  obtain ⟨left, succeeded⟩ := set.succeeds_iff.mpr ⟨isName, isValue⟩
  obtain ⟨after, rfl, overwritten⟩ := set.overwritten left succeeded
  refine ⟨rfl, ⟨after, succeeded, overwritten.obscure obscure _ sameName, ?_⟩,
    misnamed.unnamed spaced, unwritable.unwritable isName refused, rfl, closed rfl⟩
  rw [(overwritten.others "b" otherName).1, Headers.under, small]
  decide

end Exchange

end Switchboard
