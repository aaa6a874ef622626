import TableTalk.Execution.Executor
import TableTalk.Proofs.Source.Request

/-!
# Failures of remote executions

A remote execution that gives no result fails as a remote one, whatever is received, apart from what
`Slips` lists; then a chain of executors goes on with the second one. A reply slips through if it is
taken for a result though its rows or its time cannot be read.
-/

namespace TableTalk

open TableTalk.Action Web

inductive HasItems : Json → Prop
  | falsy {j : Json} : j.isFalsy = true → HasItems j
  | list (items : List Json) : HasItems (.list items)
  | text (s : String) : HasItems (.text s)
  | record (fields : List (String × Json)) : HasItems (.record fields)

inductive IsTime : Json → Prop
  | falsy {j : Json} : j.isFalsy = true → IsTime j
  | bool (b : Bool) : IsTime (.bool b)
  | float (d : Double) : IsTime (.float d)
  | int {i : Int} {d : Double} : Double.ofInt? i = some d → IsTime (.int i)
  | text {s : String} {d : Double} : Double.ofText? s = some d → IsTime (.text s)

namespace ResultSet

theorem escapes_itemsOf_iff {j : Json} :
    Escapes Failure.isRemoteFailure (itemsOf j) ↔ ¬ HasItems j := by
  unfold itemsOf
  by_cases hfalsy : j.isFalsy = true
  · rw [if_pos hfalsy]
    exact iff_of_false (not_escapes_ok _) (not_not.2 (.falsy hfalsy))
  · rw [if_neg hfalsy]
    cases j with
    | list items => exact iff_of_false (not_escapes_ok _) (not_not.2 (.list items))
    | text s => exact iff_of_false (not_escapes_ok _) (not_not.2 (.text s))
    | record fields => exact iff_of_false (not_escapes_ok _) (not_not.2 (.record fields))
    | null => exact absurd rfl hfalsy
    | bool b | int i | float d =>
      refine iff_of_true (escapes_error rfl) fun h => ?_
      cases h with
      | falsy h => exact hfalsy h

theorem eq_wrongKind_of_itemsOf {j : Json} {f : Failure} (h : itemsOf j = .error f) :
    f = .wrongKind := by
  unfold itemsOf at h
  split at h
  · cases h
  · split at h
    all_goals cases h
    rfl

theorem escapes_numberOf_iff {j : Json} :
    Escapes Failure.isRemoteFailure (numberOf j) ↔ ¬ IsTime j := by
  -- The readers stand under other names, since reductions would run into the bounds of doubles.
  obtain ⟨ofInt, hofInt⟩ : ∃ f, f = Double.ofInt? := ⟨_, rfl⟩
  obtain ⟨ofText, hofText⟩ : ∃ f, f = Double.ofText? := ⟨_, rfl⟩
  unfold numberOf
  rw [← hofInt, ← hofText]
  by_cases hfalsy : j.isFalsy = true
  · rw [if_pos hfalsy]
    exact iff_of_false (not_escapes_ok _) (not_not.2 (.falsy hfalsy))
  · rw [if_neg hfalsy]
    cases j with
    | null => exact absurd rfl hfalsy
    | bool b => exact iff_of_false (not_escapes_ok _) (not_not.2 (.bool b))
    | float d => exact iff_of_false (not_escapes_ok _) (not_not.2 (.float d))
    | int i =>
      dsimp only
      cases hof : ofInt i with
      | some d => exact iff_of_false (not_escapes_ok d) (not_not.2 (.int (hofInt ▸ hof)))
      | none =>
        refine iff_of_true (escapes_error rfl) fun h => ?_
        cases h with
        | falsy h => exact hfalsy h
        | int h =>
          rw [← hofInt, hof] at h
          cases h
    | text s =>
      dsimp only
      cases hof : ofText s with
      | some d => exact iff_of_false (not_escapes_ok d) (not_not.2 (.text (hofText ▸ hof)))
      | none =>
        refine iff_of_true (escapes_error rfl) fun h => ?_
        cases h with
        | falsy h => exact hfalsy h
        | text h =>
          rw [← hofText, hof] at h
          cases h
    | list items | record fields =>
      refine iff_of_true (escapes_error rfl) fun h => ?_
      cases h with
      | falsy h => exact hfalsy h

theorem escapes_ofJson_iff {fields : List (String × Json)} {columns : List Json}
    (hcolumns : (Json.record fields).get? "columns" = some (.list columns)) :
    Escapes Failure.isRemoteFailure (ofJson (.record fields)) ↔
      ¬ (HasItems ((Json.record fields).getD "rows") ∧
        IsTime ((Json.record fields).getD "executionTime")) := by
  have hread : itemsOf ((Json.record fields).getD "columns") = .ok columns := by
    rw [Json.getD, hcolumns]
    cases columns <;> rfl
  rw [not_and_or, ← escapes_itemsOf_iff, ← escapes_numberOf_iff, ofJson, hread]
  change Escapes _ (itemsOf ((Json.record fields).getD "rows") >>= _) ↔ _
  cases hrows : itemsOf ((Json.record fields).getD "rows") with
  | ok rows =>
    rw [or_iff_right (not_escapes_ok rows)]
    exact escapes_bind_pure_iff
  | error f =>
    have hf : f.isRemoteFailure = false := by
      rw [eq_wrongKind_of_itemsOf hrows]
      rfl
    exact iff_of_true (escapes_error hf) (Or.inl (escapes_error hf))

end ResultSet

def IsTooDeep (r : Reply) : Prop :=
  ∃ cs, Json.decode? r.body = some cs ∧ Json.isTooDeep cs = true

def IsMisread (r : Reply) : Prop :=
  isSuccess r.status = true ∧ ∃ fields columns,
    RemoteService.payload r = .ok (.record fields) ∧
    (Json.record fields).get? "error" = none ∧
    (Json.record fields).get? "columns" = some (.list columns) ∧
    ¬ (HasItems ((Json.record fields).getD "rows") ∧
      IsTime ((Json.record fields).getD "executionTime"))

/-- What is received that is put down neither to the service nor to the way there. -/
inductive Slips (address : Address) : Outcome → Prop
  | sender {kind message : String} : kind ∈ Failure.senderFaults →
      Slips address (.broken kind message)
  | garbled : Slips address .garbled
  | astray {r : Reply} : Source.LeadsAstray address r → Slips address (.reply r)
  | tooDeep {r : Reply} : IsTooDeep r → (∃ onward, Source.onward? address r = .ok onward) →
      Slips address (.reply r)
  | misread {r : Reply} : IsMisread r → Slips address (.reply r)

namespace RemoteService

theorem payload_eq (r : Reply) :
    (IsTooDeep r ∧ payload r = .error .tooDeep) ∨
      (¬ IsTooDeep r ∧ ∃ fields, payload r = .ok (.record fields)) := by
  rw [payload]
  cases hdecode : Json.decode? r.body with
  | none =>
    refine Or.inr ⟨?_, _, rfl⟩
    rintro ⟨cs, hcs, -⟩
    exact absurd (hdecode.symm.trans hcs) (by simp)
  | some cs =>
    by_cases hdeep : Json.isTooDeep cs = true
    · exact Or.inl ⟨⟨cs, hdecode, hdeep⟩, if_pos hdeep⟩
    · refine Or.inr ⟨?_, ?_⟩
      · rintro ⟨cs', hcs, hdeep'⟩
        exact hdeep (Option.some.inj (hdecode.symm.trans hcs) ▸ hdeep')
      · dsimp only
        rw [if_neg hdeep]
        split <;> exact ⟨_, rfl⟩

theorem isMisread_iff {r : Reply} {fields : List (String × Json)}
    (hpayload : payload r = .ok (.record fields)) :
    IsMisread r ↔ isSuccess r.status = true ∧ (Json.record fields).get? "error" = none ∧
      ∃ columns, (Json.record fields).get? "columns" = some (.list columns) ∧
        Escapes Failure.isRemoteFailure (ResultSet.ofJson (.record fields)) := by
  constructor
  · rintro ⟨hsuccess, fields', columns, hfields, herror, hcolumns, hbad⟩
    obtain rfl := Json.record.inj (Except.ok.inj (hpayload.symm.trans hfields))
    exact ⟨hsuccess, herror, columns, hcolumns, (ResultSet.escapes_ofJson_iff hcolumns).2 hbad⟩
  · rintro ⟨hsuccess, herror, columns, hcolumns, hends⟩
    exact ⟨hsuccess, fields, columns, hpayload, herror, hcolumns,
      (ResultSet.escapes_ofJson_iff hcolumns).1 hends⟩

theorem escapes_readReply_iff {r : Reply} :
    Escapes Failure.isRemoteFailure (readReply r) ↔ IsTooDeep r ∨ IsMisread r := by
  rcases payload_eq r with ⟨hdeep, hpayload⟩ | ⟨hdeep, fields, hpayload⟩
  · have hread : readReply r = .error .tooDeep := by
      rw [readReply, hpayload]
      rfl
    exact iff_of_true ⟨_, hread, rfl⟩ (Or.inl hdeep)
  · rw [or_iff_right hdeep, readReply, hpayload, isMisread_iff hpayload]
    dsimp only [Bind.bind, Except.bind]
    by_cases hrefused : (!isSuccess r.status || ((Json.record fields).get? "error").isSome) = true
    · rw [if_pos hrefused]
      refine iff_of_false (not_escapes_error rfl) ?_
      rintro ⟨hsuccess, herror, -⟩
      rw [hsuccess, herror] at hrefused
      exact absurd hrefused (by decide)
    · rw [if_neg hrefused]
      rw [Bool.not_eq_true, Bool.or_eq_false_iff, Bool.not_eq_false', Option.isSome_eq_false_iff,
        Option.isNone_iff_eq_none] at hrefused
      split
      · next columns hcolumns =>
        exact ⟨fun h => ⟨hrefused.1, hrefused.2, columns, hcolumns, h⟩, fun ⟨_, _, _, _, h⟩ => h⟩
      · next hother =>
        refine iff_of_false (not_escapes_error rfl) ?_
        rintro ⟨-, -, columns, hcolumns, -⟩
        exact hother columns hcolumns

def outcomeOf (address : Address) (outcome : Outcome) : Except Failure ResultSet :=
  match Source.replyOf address outcome with
  | .ok (reply, _) => readReply reply
  | .error f =>
    if f.isTransportFailure then .error (.remoteUnreachable f.message) else .error f

/-- An exchange ends the run exactly if what is received slips through. -/
theorem escapes_outcomeOf_iff {address : Address}
    (hscheme : Source.namesScheme address.text = true) {outcome : Outcome} :
    Escapes Failure.isRemoteFailure (outcomeOf address outcome) ↔ Slips address outcome := by
  rw [outcomeOf]
  rcases Source.replyOf_cases address outcome with
    ⟨hstray, reply, onward, rfl, honward, hreply⟩ | ⟨hstray, f, hreply, hf, hnone⟩ |
      ⟨hstray, f, hreply, hf, -, hremote⟩
  · simp only [hreply]
    rw [escapes_readReply_iff]
    constructor
    · rintro (h | h)
      · exact .tooDeep h ⟨onward, honward⟩
      · exact .misread h
    · intro h
      cases h with
      | astray h => exact absurd (.astray h) hstray
      | tooDeep h _ => exact Or.inl h
      | misread h => exact Or.inr h
  · simp only [hreply, hf, if_true]
    refine iff_of_false (not_escapes_error rfl) fun h => ?_
    cases h with
    | sender h => exact hstray (.sender h)
    | garbled => exact hstray .garbled
    | astray h => exact hstray (.astray h)
    | tooDeep _ honward =>
      obtain ⟨onward, honward⟩ := honward
      exact hnone _ onward rfl honward
    | misread h => exact hnone _ none rfl (Source.onward?_of_isSuccess address h.1)
  · simp only [hreply, hf, Bool.false_eq_true, if_false]
    refine iff_of_true (escapes_error hremote) ?_
    cases hstray with
    | sender h => exact .sender h
    | garbled => exact .garbled
    | noScheme h =>
      rw [hscheme] at h
      cases h
    | astray h => exact .astray h

def posting (address : Address) (statement : String) : Request :=
  ⟨"POST", address.text, some (.record [("query", .text statement)])⟩

theorem namesScheme_of_addressOf {location : String} {address : Address}
    (haddress : Source.addressOf location = .ok address) (habsolute : address.isAbsolute = true) :
    Source.namesScheme address.text = true := by
  have hparse : Address.parse location = .ok address := by
    rw [Source.addressOf] at haddress
    cases hparse : Address.parse location with
    | ok a =>
      rw [hparse] at haddress
      exact congrArg Except.ok (Except.ok.inj haddress)
    | error fault =>
      rw [hparse] at haddress
      cases haddress
  exact Address.namesScheme_text hparse habsolute

theorem run_eq {s : RemoteService} {address : Address}
    (haddress : Source.addressOf s.endpoint = .ok address) (habsolute : address.isAbsolute = true)
    (statement : String) (w : World) :
    s.run statement w = (outcomeOf address (w.received address.text),
      w.sent (posting address statement)) := by
  have hask := Source.ask_run "POST" address (some (.record [("query", .text statement)])) w
  have hpost : s.post statement w = ((Source.replyOf address (w.received address.text)).map
      Prod.fst, w.sent (posting address statement)) := by
    rw [post, haddress, Action.bind_of_ok (Action.ofExcept_run _ _),
      Address.rooted_of_isAbsolute habsolute]
    cases hreply : Source.replyOf address (w.received address.text) with
    | error f =>
      rw [hreply] at hask
      exact Action.bind_of_error hask
    | ok found =>
      rw [hreply] at hask
      exact Action.bind_of_ok hask
  rw [run, outcomeOf]
  cases hreply : Source.replyOf address (w.received address.text) with
  | ok found =>
    rw [hreply] at hpost
    rw [Action.bind_of_ok (Action.orElseIf_of_ok hpost)]
    rfl
  | error f =>
    rw [hreply] at hpost
    by_cases hf : f.isTransportFailure = true
    · dsimp only
      rw [if_pos hf, Action.bind_of_error ((Action.orElseIf_of_error hpost hf).trans rfl)]
    · dsimp only
      rw [if_neg hf, Action.bind_of_error
        (Action.orElseIf_of_other hpost (Bool.eq_false_iff.2 hf))]

end RemoteService

namespace Executor

/-- A chain with a remote service first. What is received either gives the result or makes the
service fail as a remote one, in which case the second executor runs the statement after the
exchange; or it slips through, and the chain fails without asking the second executor. -/
theorem run_chain_remote {s : RemoteService} {address : Address}
    (haddress : Source.addressOf s.endpoint = .ok address) (habsolute : address.isAbsolute = true)
    (second : Executor) (statement : String) (w : World) :
    let w' := w.sent (RemoteService.posting address statement)
    (¬ Slips address (w.received address.text) →
      (∃ result, s.run statement w = (.ok result, w') ∧
        (chain (remote s) second).run statement w = (.ok result, w')) ∨
      (∃ f, f.isRemoteFailure = true ∧ s.run statement w = (.error f, w') ∧
        (chain (remote s) second).run statement w = second.run statement w')) ∧
    (Slips address (w.received address.text) →
      ∃ f, f.isRemoteFailure = false ∧ s.run statement w = (.error f, w') ∧
        (chain (remote s) second).run statement w = (.error f, w')) := by
  intro w'
  have hrun := RemoteService.run_eq haddress habsolute statement w
  rw [← RemoteService.escapes_outcomeOf_iff
    (RemoteService.namesScheme_of_addressOf haddress habsolute)]
  rw [run, run]
  cases houtcome : RemoteService.outcomeOf address (w.received address.text) with
  | ok result =>
    rw [houtcome] at hrun
    exact ⟨fun _ => Or.inl ⟨result, hrun, Action.orElseIf_of_ok hrun⟩,
      fun hends => absurd hends (not_escapes_ok result)⟩
  | error f =>
    rw [houtcome] at hrun
    by_cases hf : f.isRemoteFailure = true
    · exact ⟨fun _ => Or.inr ⟨f, hf, hrun, Action.orElseIf_of_error hrun hf⟩,
        fun hends => absurd hends (not_escapes_error hf)⟩
    · have hother : f.isRemoteFailure = false := Bool.eq_false_iff.2 hf
      exact ⟨fun hcovered => absurd (escapes_error hother) hcovered,
        fun _ => ⟨f, hother, hrun, Action.orElseIf_of_other hrun hother⟩⟩

section Exchanges

def service : RemoteService := ⟨"http://sql.example/", Double.zero⟩

def serviceAddress : Address where
  scheme := "http"
  user := ""
  host := "sql.example"
  port := none
  path := "/api/sql/execute"
  query := none
  fragment := none

def worldWith (outcome : Outcome) : World :=
  { World.bare with web := ⟨[("http://sql.example/api/sql/execute", [outcome])], []⟩ }

def localEngine : Executor :=
  engine ⟨⟨["a"], [[some "1"]]⟩, false⟩

def oneCell : ResultSet := ⟨["a"], [["1"]], Double.zero⟩

/-- The service cannot be reached, and the table is asked. -/
theorem run_chain_remote_unreachable :
    ((chain (remote service) localEngine).run "SELECT a FROM t"
      (worldWith (.broken "ConnectError" "refused"))).1 = .ok oneCell := by
  let w := worldWith (.broken "ConnectError" "refused")
  have haddress : Source.addressOf service.endpoint = .ok serviceAddress := by decide +kernel
  have hreceived : w.received serviceAddress.text = .broken "ConnectError" "refused" := by
    have hscript : w.web.script.lookup serviceAddress.text =
        some [.broken "ConnectError" "refused"] := by
      have htext : serviceAddress.text = "http://sql.example/api/sql/execute" := by decide +kernel
      rw [htext]
      rfl
    rw [World.received, Exchange.next, hscript]
    rfl
  have hcovered : ¬ Slips serviceAddress (w.received serviceAddress.text) := by
    rw [hreceived]
    intro h
    cases h with
    | sender h => exact absurd h (by decide)
  have hfails : (service.run "SELECT a FROM t" w).1 = .error (.remoteUnreachable "refused") := by
    decide +kernel
  rcases (run_chain_remote haddress rfl localEngine "SELECT a FROM t" w).1 hcovered with
    ⟨result, hresult, -⟩ | ⟨f, -, -, hchain⟩
  · rw [hresult] at hfails
    cases hfails
  · rw [hchain]
    decide +kernel

def numberedBody : String :=
  "\x7b\"columns\":[\"a\"],\"rows\":5\x7d"

/-- The reply is taken for a result that cannot be read, and the table is not asked. -/
theorem run_chain_remote_misread :
    let w := worldWith (.reply ⟨200, [], Text.encodeUtf8 numberedBody.toList⟩)
    Source.addressOf service.endpoint = .ok serviceAddress ∧
      (service.run "SELECT a FROM t" w).1 = .error .wrongKind ∧
      ((chain (remote service) localEngine).run "SELECT a FROM t" w).1 = .error .wrongKind ∧
      (localEngine.run "SELECT a FROM t" (service.run "SELECT a FROM t" w).2).1 = .ok oneCell ∧
      Failure.isRemoteFailure .wrongKind = false := by
  decide +kernel

end Exchanges

end Executor

end TableTalk
