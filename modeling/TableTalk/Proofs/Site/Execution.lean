import TableTalk.Proofs.Assistant.Build
import TableTalk.Proofs.Execution.Remote
import TableTalk.Proofs.Json.Encoded
import TableTalk.Proofs.Query.Refusal
import TableTalk.Site.Service

/-!
# Statements sent to a site

A statement may be posted to a site as to any remote service. The service then gives the result that
the engine of the site gives, however the texts of request and response are written as JSON, and
refuses a statement with status 400 exactly if that engine finds columns unknown.
-/

namespace TableTalk

open TableTalk.Action Text Web

namespace ResultSet

theorem isValue_textList (items : List String) : Json.IsValue (textList items) := by
  refine .list fun j hj => ?_
  obtain ⟨s, -, rfl⟩ := List.mem_map.1 hj
  exact .text s

theorem nestsWithin_textList (n : Nat) (items : List String) :
    Json.NestsWithin (n + 1) (textList items) := by
  refine .list fun j hj => ?_
  obtain ⟨s, -, rfl⟩ := List.mem_map.1 hj
  exact .text s

theorem isEncoded_toJson {r : ResultSet} (hcount : r.rowCount < 10 ^ digitLimit)
    (helapsed : r.elapsed.IsValue) :
    Json.IsEncoded (encodeUtf8 (Json.writeChars r.toJson)) r.toJson := by
  have hrows : ∀ j ∈ r.rows.map textList, ∃ row, j = textList row := by
    intro j hj
    obtain ⟨row, -, rfl⟩ := List.mem_map.1 hj
    exact ⟨row, rfl⟩
  refine Json.isEncoded_record (by simp) (.record (by simp) ?_) (.record (n := 2) ?_) (by decide)
  · simp only [List.forall_mem_cons]
    refine ⟨isValue_textList _, .list fun j hj => ?_, .int hcount, .float helapsed, by simp⟩
    obtain ⟨row, rfl⟩ := hrows j hj
    exact isValue_textList row
  · simp only [List.forall_mem_cons]
    refine ⟨nestsWithin_textList 1 _, .list fun j hj => ?_, .int _, .float _, by simp⟩
    obtain ⟨row, rfl⟩ := hrows j hj
    exact nestsWithin_textList 0 row

theorem itemsOf_list (items : List Json) : itemsOf (.list items) = .ok items := by
  cases items <;> rfl

/-- A finite time is read as an equal one; a negative zero loses its sign. -/
theorem numberOf_float {d : Double} (hfinite : d.isFinite = true) :
    ∃ d', numberOf (.float d) = .ok d' ∧ d'.eqv d = true := by
  obtain ⟨negative, units, rfl⟩ : ∃ negative units, d = .finite negative units := by
    cases d with
    | finite negative units => exact ⟨negative, units, rfl⟩
    | infinite negative => cases hfinite
    | nan => cases hfinite
  cases units with
  | zero => exact ⟨Double.zero, rfl, by cases negative <;> rfl⟩
  | succ units => exact ⟨.finite negative (units + 1), rfl, beq_self_eq_true _⟩

theorem ofJson_toJson {r : ResultSet} (hfinite : r.elapsed.isFinite = true) :
    ∃ d, ofJson r.toJson = .ok { r with elapsed := d } ∧ d.eqv r.elapsed = true := by
  have hcolumns : (r.columns.map Json.text).map Json.display = r.columns := by
    rw [List.map_map]
    exact List.map_id _
  have hcells (row : List String) : (row.map Json.text).map cellText = row := by
    rw [List.map_map]
    exact List.map_id _
  have hrows {rowOf : Json → Option (List String)} (h : ∀ row, rowOf (textList row) = some row) :
      (r.rows.map textList).filterMap rowOf = r.rows := by
    rw [List.filterMap_map]
    exact (List.filterMap_congr fun row _ => h row).trans List.filterMap_some
  obtain ⟨d, hd, heqv⟩ := numberOf_float hfinite
  refine ⟨d, ?_, heqv⟩
  have hcolumnsField : r.toJson.getD "columns" = .list (r.columns.map .text) := rfl
  have hrowsField : r.toJson.getD "rows" = .list (r.rows.map textList) := rfl
  have helapsedField : r.toJson.getD "executionTime" = .float r.elapsed := rfl
  rw [ofJson.eq_def, hcolumnsField, hrowsField, helapsedField, itemsOf_list, itemsOf_list, hd]
  change Except.ok _ = _
  rw [hcolumns, hrows fun row => ?_]
  exact congrArg some (hcells row)

end ResultSet

namespace Json

/-- A record of one text can be read back from its JSON. -/
theorem isEncoded_textField (name value : String) :
    IsEncoded (encodeUtf8 (writeChars (.record [(name, .text value)])))
      (.record [(name, .text value)]) :=
  isEncoded_record (by simp) (.record (by simp) (by simpa using .text value))
    (.record (n := 0) (by simpa using .text value)) (by decide)

theorem IsEncoded.ne_nil {bytes : List UInt8} {j : Json} (h : IsEncoded bytes j) : bytes ≠ [] := by
  rintro rfl
  obtain ⟨cs, hcs, -, hparse⟩ := h
  have hnil : cs = [] := Option.some.inj (hcs.symm.trans (by decide +kernel))
  rw [hnil] at hparse
  cases hparse

end Json

namespace Site

/-- The request that arrives is the one that was posted to an address, with the same JSON. -/
structure Delivers (address : Address) (posted : Web.Request) (arrived : Request) : Prop where
  method : arrived.method = posted.method
  path : arrived.path = address.path
  isJson : arrived.isJson = true
  body : ∃ j, posted.body = some j ∧ Json.IsEncoded (encodeUtf8 arrived.body.toList) j

inductive Carries (bytes : List UInt8) : Content → Prop
  | data {j : Json} : Json.IsEncoded bytes j → Carries bytes (.data j)
  | complaints (all : List Complaint) : Carries bytes (.complaints all)
  | text {s : String} : bytes = encodeUtf8 s.toList → Carries bytes (.text s)

/-- The reply that a client receives is the response, with the same JSON. -/
structure Returns (response : Response) (reply : Reply) : Prop where
  status : reply.status = response.status
  body : Carries reply.body response.content

/-- Statements that are sent to the site are run by the engine: that of the assistant that is there
or, if none is, of the one that is put together. -/
def Serves (site : Site) (e : Engine) (w : World) : Prop :=
  ∃ a, a.engine = e ∧
    (site.assistant = some a ∨ site.assistant = none ∧ (site.prepare w).1 = .ok a)

def executed : Except Failure ResultSet → Response
  | .ok r => withFinite r.elapsed (.ok r.toJson)
  | .error f => if f.isColumnFailure then .detail 400 f.message else .serverError

variable {site : Site} {e : Engine} {w : World} {address : Address} {statement : String}
  {arrived : Request}

/-- A site for a given table runs statements on it, as strictly as its settings say. -/
theorem serves_given {t : Table} {a : Assistant} (hgiven : site.given = some t)
    (hnone : site.assistant = none) (hprepare : (site.prepare w).1 = .ok a) :
    site.Serves ⟨t, site.settings.strict⟩ w := by
  refine ⟨a, ?_, .inr ⟨hnone, hprepare⟩⟩
  obtain ⟨built, _, hbuild, ha⟩ := exists_of_bind_eq_ok hprepare
  rw [hgiven] at hbuild
  have hengine := Assistant.engine_of_build (congrArg Prod.fst hbuild)
  rw [← Except.ok.inj ha]
  exact hengine

theorem data_of_isEncoded {j : Json} (hjson : arrived.isJson = true) (hnull : j ≠ .null)
    (hbody : Json.IsEncoded (encodeUtf8 arrived.body.toList) j) : arrived.data = .ok (some j) := by
  have hne : arrived.body.isEmpty = false := by
    rw [String.isEmpty_eq_false_iff]
    intro hempty
    rw [hempty] at hbody
    exact hbody.ne_nil rfl
  obtain ⟨cs, hcs, hdeep, hparse⟩ := hbody
  rw [Request.data, hne, hjson, hcs]
  dsimp only
  rw [if_neg (by decide), if_neg (by decide), if_neg (by simp [hdeep]), hparse]
  cases j with
  | null => exact absurd rfl hnull
  | _ => rfl

theorem wish_of_delivers (hne : statement ≠ "") (hpath : address.path = Endpoint.execute.path)
    (h : Delivers address (RemoteService.posting address statement) arrived) :
    arrived.wish = .ok (.execute statement) := by
  obtain ⟨j, hj, hbody⟩ := h.body
  obtain rfl := Option.some.inj hj
  have hdata := data_of_isEncoded h.isJson (by simp) hbody
  have htext : arrived.bodyText "query" = .ok statement := by
    have hempty : statement.isEmpty = false := String.isEmpty_eq_false_iff.2 hne
    rw [Request.bodyText, hdata]
    change (if statement.isEmpty then _ else Except.ok statement) = _
    rw [hempty]
    rfl
  have hendpoint : Endpoint.ofPath? arrived.path = some .execute := by
    rw [h.path, hpath]
    decide +kernel
  rw [Request.wish, hendpoint]
  dsimp only
  rw [if_pos (show Endpoint.execute.method = arrived.method from h.method.symm), wishOf, htext]
  rfl

/-- A posted statement can be delivered as JSON. -/
theorem delivers_written (address : Address) (statement : String) :
    Delivers address (RemoteService.posting address statement)
      ⟨"POST", address.path, [], Json.write (.record [("query", .text statement)]), none⟩ where
  method := rfl
  path := rfl
  isJson := rfl
  body := by
    refine ⟨_, rfl, ?_⟩
    rw [Json.write, String.toList_ofList]
    exact Json.isEncoded_textField "query" statement

theorem meet_execute_run (a : Assistant) (ticket statement : String) (w : World) :
    (orServerError (meet a ticket (.execute statement)) w).1 =
      .ok (executed (a.engine.run statement w).1) := by
  let answer : Action Response := do
    let result ← a.engine.run statement
    return withFinite result.elapsed (.ok result.toJson)
  change (orElseIf _ (orElseIf Failure.isColumnFailure answer _) _ w).1 = _
  cases hrun : a.engine.run statement w with
  | mk outcome w' =>
    cases outcome with
    | ok r =>
      have hanswer : answer w = (.ok (executed (.ok r)), w') := (bind_of_ok hrun).trans rfl
      rw [orElseIf_of_ok (orElseIf_of_ok hanswer)]
    | error f =>
      have hanswer : answer w = (.error f, w') := bind_of_error hrun
      by_cases hf : f.isColumnFailure = true
      · rw [orElseIf_of_ok ((orElseIf_of_error hanswer hf).trans rfl)]
        exact congrArg Except.ok (if_pos hf).symm
      · rw [orElseIf_of_error (orElseIf_of_other hanswer (Bool.eq_false_iff.2 hf)) rfl]
        exact congrArg Except.ok (if_neg hf).symm

/-- To put the site's assistant together leaves the stopwatch as it is. -/
theorem stopwatch_prepare (site : Site) (w : World) :
    (site.prepare w).2.stopwatch = w.stopwatch :=
  ((Assistant.keeps_build site.settings site.given).bind fun _ => .pure _) w

theorem respond_run (hserves : site.Serves e w) (hwish : arrived.wish = .ok (.execute statement)) :
    ∃ site', (site.respond arrived w).1 = .ok (executed (e.run statement w).1, site') := by
  have hticket : ticketFor (.execute statement) w = (.ok "", w) := rfl
  obtain ⟨a, rfl, hthere | ⟨hnone, hprepare⟩⟩ := hserves
  · refine ⟨site, ?_⟩
    obtain ⟨w', hmeet⟩ : ∃ w', orServerError (meet a "" (.execute statement)) w =
        (.ok (executed (a.engine.run statement w).1), w') :=
      ⟨_, Prod.ext (meet_execute_run a "" statement w) rfl⟩
    rw [respond, hwish]
    dsimp only
    rw [serve, bind_of_ok hticket, hthere]
    dsimp only
    rw [bind_of_ok hmeet]
    rfl
  · refine ⟨{ site with assistant := some a }, ?_⟩
    obtain ⟨w₁, hready⟩ : ∃ w₁, site.prepare w = (.ok a, w₁) := ⟨_, Prod.ext hprepare rfl⟩
    have hattempt : attempt site.prepare w = (.ok (.ok a), w₁) := by rw [attempt, hready]
    have hclock : w₁.stopwatch = w.stopwatch := by
      have h := stopwatch_prepare site w
      rwa [hready] at h
    obtain ⟨w', hmeet⟩ : ∃ w', orServerError (meet a "" (.execute statement)) w₁ =
        (.ok (executed (a.engine.run statement w).1), w') := by
      rw [← Engine.run_congr hclock]
      exact ⟨_, Prod.ext (meet_execute_run a "" statement w₁) rfl⟩
    rw [respond, hwish]
    dsimp only
    rw [serve, bind_of_ok hticket, hnone]
    dsimp only
    rw [bind_of_ok hattempt]
    dsimp only
    rw [bind_of_ok hmeet]
    rfl

end Site

namespace RemoteService

variable {address : Address} {reply : Reply}

theorem payload_of_isEncoded {fields : List (String × Json)}
    (h : Json.IsEncoded reply.body (.record fields)) : payload reply = .ok (.record fields) := by
  obtain ⟨cs, hcs, hdeep, hparse⟩ := h
  rw [payload, hcs]
  dsimp only
  rw [if_neg (by simp [hdeep]), hparse]

/-- A reply that does not send the client on comes to what is read in it. -/
theorem outcomeOf_reply (hscheme : Source.namesScheme address.text = true)
    (hstatus : isRedirect reply.status = false) :
    outcomeOf address (.reply reply) = readReply reply := by
  have hreply : Source.replyOf address (.reply reply) = .ok (reply, none) := by
    rw [Source.replyOf]
    dsimp only [Web.Outcome.reply?]
    rw [if_pos hscheme, Source.onward?_of_not_isRedirect address hstatus]
    rfl
  rw [outcomeOf, hreply]

theorem readReply_of_success {r : ResultSet} (hstatus : reply.status = 200)
    (hfinite : r.elapsed.isFinite = true) (hbody : Json.IsEncoded reply.body r.toJson) :
    ∃ d, readReply reply = .ok { r with elapsed := d } ∧ d.eqv r.elapsed = true := by
  obtain ⟨d, hread, heqv⟩ := ResultSet.ofJson_toJson hfinite
  refine ⟨d, ?_, heqv⟩
  rw [readReply, payload_of_isEncoded hbody, hstatus]
  exact hread

theorem readReply_of_detail {message : String} (hstatus : reply.status = 400)
    (hne : message ≠ "")
    (hbody : Json.IsEncoded reply.body (.record [("detail", .text message)])) :
    readReply reply = .error (.remoteRefused 400 message) := by
  have hempty : message.isEmpty = false := String.isEmpty_eq_false_iff.2 hne
  have hcomplaint : complaint reply (.record [("detail", .text message)]) = message := by
    change (if !message.isEmpty then message else _) = message
    rw [hempty]
    rfl
  rw [readReply, payload_of_isEncoded hbody, hstatus]
  change Except.error (Failure.remoteRefused 400 _) = _
  rw [hcomplaint]

theorem readReply_of_serverError (h : Site.Returns .serverError reply) :
    ∃ message, readReply reply = .error (.remoteRefused 500 message) := by
  have hbody : reply.body = encodeUtf8 "Internal Server Error".toList := by
    cases h.body with
    | text hbody => exact hbody
  have hpayload : payload reply = .ok (.record []) := by
    have hdecode : Json.decode? reply.body = some "Internal Server Error".toList := by
      rw [hbody]
      decide +kernel
    have hdeep : Json.isTooDeep "Internal Server Error".toList = false := by decide +kernel
    rw [payload, hdecode]
    dsimp only
    rw [if_neg (Bool.eq_false_iff.1 hdeep)]
    rfl
  have hstatus : reply.status = 500 := h.status
  rw [readReply, hpayload, hstatus]
  exact ⟨_, rfl⟩

end RemoteService

theorem message_unknownColumns_ne_empty (names : List String) :
    (Failure.unknownColumns names).message ≠ "" := by
  have hmessage : (Failure.unknownColumns names).message =
      "Unknown column(s): " ++ join ", " (names.map quoted) := rfl
  rw [hmessage]
  intro hempty
  exact absurd (String.append_eq_empty_iff.1 hempty).1 (by decide)

theorem Engine.message_ne_empty {e : Engine} {statement : String} {w : World} {f : Failure}
    (h : (e.run statement w).1 = .error f) (hf : f.isColumnFailure = true) : f.message ≠ "" := by
  have heval : Query.evaluate e.strict e.table statement = .error f := by
    cases heval : Query.evaluate e.strict e.table statement with
    | ok answer =>
      rw [run_of_ok heval] at h
      cases h
    | error f' =>
      rw [run_of_error heval] at h
      exact congrArg Except.error (Except.error.inj h)
  rcases Query.evaluate_eq_error heval with
    ⟨names, rfl⟩ | ⟨-, digits, rfl⟩ | ⟨-, cell, rfl⟩ | ⟨rfl, -⟩
  · exact message_unknownColumns_ne_empty names
  all_goals cases hf

theorem Site.isRedirect_executed (outcome : Except Failure ResultSet) :
    isRedirect (executed outcome).status = false := by
  cases outcome with
  | ok r =>
    rw [executed, withFinite]
    split <;> rfl
  | error f =>
    rw [executed]
    split <;> rfl

/-- The response to a statement can be written as JSON. -/
theorem Site.exists_returns {outcome : Except Failure ResultSet}
    (h : ∀ r, outcome = .ok r → r.rowCount < 10 ^ digitLimit ∧ r.elapsed.IsValue) :
    ∃ reply, Returns (executed outcome) reply := by
  have htext : Returns .serverError ⟨500, [], encodeUtf8 "Internal Server Error".toList⟩ :=
    ⟨rfl, .text rfl⟩
  cases outcome with
  | ok r =>
    obtain ⟨hcount, hvalue⟩ := h r rfl
    by_cases hfinite : r.elapsed.isFinite = true
    · rw [executed, withFinite, if_pos hfinite]
      exact ⟨⟨200, [], _⟩, rfl, .data (ResultSet.isEncoded_toJson hcount hvalue)⟩
    · rw [executed, withFinite, if_neg hfinite]
      exact ⟨_, htext⟩
  | error f =>
    by_cases hf : f.isColumnFailure = true
    · rw [executed, if_pos hf]
      exact ⟨⟨400, [], _⟩, rfl, .data (Json.isEncoded_textField "detail" f.message)⟩
    · rw [executed, if_neg hf]
      exact ⟨_, htext⟩

namespace RemoteService

variable {s : RemoteService} {address : Address} {site : Site} {e : Engine} {w : World}
  {statement : String} {arrived : Site.Request}

theorem readReply_ne_of_serverError {reply : Reply} (h : Site.Returns .serverError reply)
    (message : String) : readReply reply ≠ .error (.remoteRefused 400 message) := by
  obtain ⟨message', hread⟩ := readReply_of_serverError h
  rw [hread]
  intro hequal
  cases hequal

theorem readReply_of_result {r : ResultSet} {reply : Reply}
    (h : Site.Returns (Site.executed (.ok r)) reply) :
    (r.elapsed.isFinite = true →
      ∃ d, readReply reply = .ok { r with elapsed := d } ∧ d.eqv r.elapsed = true) ∧
    ∀ message, readReply reply ≠ .error (.remoteRefused 400 message) := by
  rw [Site.executed, Site.withFinite] at h
  by_cases hfinite : r.elapsed.isFinite = true
  · rw [if_pos hfinite] at h
    obtain ⟨d, hread, heqv⟩ : ∃ d, readReply reply = .ok { r with elapsed := d } ∧
        d.eqv r.elapsed = true := by
      cases h.body with
      | data hbody => exact readReply_of_success h.status hfinite hbody
    refine ⟨fun _ => ⟨d, hread, heqv⟩, fun message hequal => ?_⟩
    cases hread.symm.trans hequal
  · rw [if_neg hfinite] at h
    exact ⟨fun hfinite' => absurd hfinite' hfinite, readReply_ne_of_serverError h⟩

theorem readReply_of_failure {f : Failure} {reply : Reply}
    (hmessage : f.isColumnFailure = true → f.message ≠ "")
    (h : Site.Returns (Site.executed (.error f)) reply) (message : String) :
    readReply reply = .error (.remoteRefused 400 message) ↔
      f.isColumnFailure = true ∧ f.message = message := by
  by_cases hf : f.isColumnFailure = true
  · rw [Site.executed, if_pos hf] at h
    have hread : readReply reply = .error (.remoteRefused 400 f.message) := by
      cases h.body with
      | data hbody => exact readReply_of_detail h.status (hmessage hf) hbody
    rw [hread]
    constructor
    · intro hequal
      exact ⟨hf, (Failure.remoteRefused.inj (Except.error.inj hequal)).2⟩
    · rintro ⟨-, rfl⟩
      rfl
  · rw [Site.executed, if_neg hf] at h
    exact iff_of_false (readReply_ne_of_serverError h message) fun hfailure => hf hfailure.1

/-- What comes of a statement when the response to it is returned. -/
theorem readReply_executed {outcome : Except Failure ResultSet} {reply : Reply}
    (hmessage : ∀ f, outcome = .error f → f.isColumnFailure = true → f.message ≠ "")
    (h : Site.Returns (Site.executed outcome) reply) :
    (∀ r, outcome = .ok r → r.elapsed.isFinite = true →
      ∃ d, readReply reply = .ok { r with elapsed := d } ∧ d.eqv r.elapsed = true) ∧
    ∀ message, readReply reply = .error (.remoteRefused 400 message) ↔
      ∃ f, outcome = .error f ∧ f.isColumnFailure = true ∧ f.message = message := by
  cases outcome with
  | ok r =>
    obtain ⟨hresult, hne⟩ := readReply_of_result h
    refine ⟨fun r' hr => Except.ok.inj hr ▸ hresult, fun message => iff_of_false (hne message) ?_⟩
    rintro ⟨f, hf, -⟩
    cases hf
  | error f =>
    refine ⟨fun _ hr => (nomatch hr), fun message => ?_⟩
    rw [readReply_of_failure (hmessage f rfl) h message]
    constructor
    · rintro ⟨hf, rfl⟩
      exact ⟨f, rfl, hf, rfl⟩
    · rintro ⟨_, ⟨⟩, hf, rfl⟩
      exact ⟨hf, rfl⟩

/-- A statement that is posted to a site comes back as from the engine of the site. The site gives a
response, which can be returned as JSON; and however it is returned, the service gives the engine's
result with a time equal to the engine's, and refuses the statement with status 400 and a message
exactly if the engine finds columns unknown and says so with that message. -/
theorem run_site (haddress : Source.addressOf s.endpoint = .ok address)
    (habsolute : address.isAbsolute = true) (hpath : address.path = Site.Endpoint.execute.path)
    (hserves : site.Serves e w) (hne : statement ≠ "")
    (hdelivers : Site.Delivers address (posting address statement) arrived) :
    ∃ response site', (site.respond arrived w).1 = .ok (response, site') ∧
      ((∀ r, (e.run statement w).1 = .ok r → r.rowCount < 10 ^ digitLimit) →
        ∃ reply, Site.Returns response reply) ∧
      ∀ reply, Site.Returns response reply → ∀ client : World,
        client.received address.text = .reply reply →
        (∀ r, (e.run statement w).1 = .ok r → r.elapsed.isFinite = true →
          ∃ r', (s.run statement client).1 = .ok r' ∧ r'.columns = r.columns ∧
            r'.rows = r.rows ∧ r'.rowCount = r.rowCount ∧ r'.elapsed.eqv r.elapsed = true) ∧
        ∀ message, (s.run statement client).1 = .error (.remoteRefused 400 message) ↔
          ∃ f, (e.run statement w).1 = .error f ∧ f.isColumnFailure = true ∧
            f.message = message := by
  have hwish := Site.wish_of_delivers hne hpath hdelivers
  obtain ⟨site', hrespond⟩ := Site.respond_run hserves hwish
  refine ⟨_, site', hrespond, fun hcount => ?_, fun reply hreturns client hreceived => ?_⟩
  · exact Site.exists_returns fun r hr => ⟨hcount r hr, Engine.isValue_elapsed hr⟩
  · have hread := readReply_executed (fun f hf => Engine.message_ne_empty hf) hreturns
    have hredirect : isRedirect reply.status = false := by
      rw [hreturns.status]
      exact Site.isRedirect_executed _
    have hrun : (s.run statement client).1 = readReply reply := by
      rw [run_eq haddress habsolute, hreceived,
        outcomeOf_reply (namesScheme_of_addressOf haddress habsolute) hredirect]
    rw [hrun]
    refine ⟨fun r hr hfinite => ?_, hread.2⟩
    obtain ⟨d, hd, heqv⟩ := hread.1 r hr hfinite
    exact ⟨_, hd, rfl, rfl, rfl, heqv⟩

def errorSite : Site where
  settings := ⟨⟨none, none, none, "t", Double.zero⟩, none, true, none, Double.zero, none⟩
  given := some ⟨["error"], [[some "1"]]⟩
  substitute := none
  assistant := none

/-- A column with that name is a column of the result. -/
theorem run_site_error_column :
    ∃ response site', (errorSite.respond ⟨"POST", "/api/sql/execute", [],
        Json.write (.record [("query", .text "SELECT error FROM t")]), none⟩ World.bare).1 =
          .ok (response, site') ∧
      (∃ reply, Site.Returns response reply) ∧
      ∀ reply, Site.Returns response reply → ∀ client : World,
        client.received Executor.serviceAddress.text = .reply reply →
        ∃ r, (Executor.service.run "SELECT error FROM t" client).1 = .ok r ∧
          r.columns = ["error"] ∧ r.rows = [["1"]] := by
  have haddress : Source.addressOf Executor.service.endpoint = .ok Executor.serviceAddress := by
    decide +kernel
  have hprepare : ∃ a, (errorSite.prepare World.bare).1 = .ok a := ⟨_, rfl⟩
  obtain ⟨a, hprepare⟩ := hprepare
  have hserves := Site.serves_given (t := ⟨["error"], [[some "1"]]⟩) rfl rfl hprepare
  have hlocal : (Engine.run ⟨⟨["error"], [[some "1"]]⟩, true⟩ "SELECT error FROM t"
      World.bare).1 = .ok ⟨["error"], [["1"]], Double.zero⟩ := by decide +kernel
  obtain ⟨response, site', hrespond, hexists, hreturns⟩ := run_site haddress rfl rfl hserves
    (by decide) (Site.delivers_written Executor.serviceAddress "SELECT error FROM t")
  refine ⟨response, site', hrespond, hexists fun r hr => ?_, fun reply h client hclient => ?_⟩
  · obtain rfl := Except.ok.inj (hlocal.symm.trans hr)
    have hcount : ResultSet.rowCount ⟨["error"], [["1"]], Double.zero⟩ ≤ digitLimit := by decide
    exact Nat.lt_of_le_of_lt hcount (Nat.lt_pow_self (by decide))
  · obtain ⟨r, hr, hcolumns, hrows, -⟩ := (hreturns reply h client hclient).1 _ hlocal rfl
    exact ⟨r, hr, hcolumns, hrows⟩

end RemoteService

end TableTalk
