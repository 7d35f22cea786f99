import RowStream.Proofs.Accounting
import RowStream.Proofs.QueryStream
import RowStream.Proofs.WholeBody

/-!
# How a query ends

A query that nobody cancels reads the whole body of its reply and then does what the end of the
body asks for (`readBody_never`).  So its events are those that the lines told, and behind them
one of a few endings, which depends on the body, on how it broke off and on the status alone.
-/

set_option autoImplicit false

namespace RowStream

open Http (Reply TransportError)

namespace Body

open Event (Incomplete allRows)

def told (limit : Nat) (body : Bytes) : List Event :=
  (Interpreter.new.interpretAll (readable limit body)).2.events

theorem incomplete_told (limit : Nat) (body : Bytes) : Incomplete (told limit body) :=
  Interpreter.new.incomplete_interpretAll (readable limit body)

/-- In no line of a body the server reports an error. -/
def Unexplained (body : Bytes) : Prop :=
  ∀ line ∈ lines body, Record.reportedIn? (withoutReturn line) = none

instance (body : Bytes) : Decidable (Unexplained body) :=
  inferInstanceAs (Decidable (∀ line ∈ lines body, _))

theorem reportedIn?_nil : Record.reportedIn? [] = none := rfl

theorem errorRecords_eq_zero_iff {limit : Nat} {body : Bytes} (fits : ¬ Overlong limit body) :
    (Interpreter.new.interpretAll (readable limit body)).1.stats.errorRecords = 0 ↔
      Unexplained body := by
  have counted := Interpreter.new.errorRecords_interpretAll (readable limit body)
  have fresh : Interpreter.new.stats.errorRecords = 0 := rfl
  rw [counted, fresh, Nat.zero_add, List.countP_eq_zero, readable_of_fits fits]
  constructor
  · intro silent line member
    by_cases blank : withoutReturn line = []
    · rw [blank]
      exact reportedIn?_nil
    · have read : withoutReturn line ∈ ((lines body).map withoutReturn).filter (· ≠ []) :=
        List.mem_filter.mpr ⟨List.mem_map_of_mem member, decide_eq_true blank⟩
      simpa using silent _ read
  · intro unexplained line member
    obtain ⟨whole, isLine, rfl⟩ := List.mem_map.mp (List.mem_filter.mp member).1
    simp [unexplained whole isLine]

end Body

theorem Interpreter.error_mem_interpretAll (interpreter : Interpreter) {lines : List Bytes}
    {line : Bytes} (member : line ∈ lines) {message : String}
    (reported : Record.reportedIn? line = some message) :
    .error message ∈ (interpreter.interpretAll lines).2.events := by
  induction lines generalizing interpreter with
  | nil => cases member
  | cons first rest inductionHypothesis =>
      have together : (interpreter.interpretAll (first :: rest)).2.events =
          (interpreter.interpret first).2.events ++
            ((interpreter.interpret first).1.interpretAll rest).2.events := rfl
      rw [together, List.mem_append]
      rcases List.mem_cons.mp member with rfl | later
      · obtain ⟨record, decoded, error_eq⟩ := Option.bind_eq_some_iff.mp reported
        simp [interpret, decoded, dispatch, error_eq, onError]
      · exact Or.inr (inductionHypothesis _ later)

namespace Consumer

open Body (remainder readable Overlong told)

theorem interpreter_ofBody {limit : Nat} {body : Bytes} (fits : ¬ Overlong limit body) :
    (ofBody limit body).interpreter =
      (Interpreter.new.interpretAll (readable limit body)).1 := by
  rw [ofBody_of_fits fits]
  exact interpreter_foldl_interpretLine (readable limit body) (new limit)

theorem sent_ofBody {limit : Nat} {body : Bytes} (fits : ¬ Overlong limit body) :
    (ofBody limit body).sent = told limit body := by
  rw [ofBody_of_fits fits]
  exact sent_foldl_interpretLine (readable limit body) (new limit)

theorem rowsSeen_ofBody {limit : Nat} {body : Bytes} (fits : ¬ Overlong limit body) :
    (ofBody limit body).rowsSeen = (Event.allRows (told limit body)).length := by
  have counted := Interpreter.new.rows_interpretAll (readable limit body)
  have fresh : Interpreter.new.stats.rows = 0 := rfl
  rw [fresh, Nat.zero_add] at counted
  exact (congrArg (·.stats.rows) (interpreter_ofBody fits)).trans counted

theorem errorRecords_ofBody {limit : Nat} {body : Bytes} (fits : ¬ Overlong limit body) :
    (ofBody limit body).stats.errorRecords = 0 ↔ Body.Unexplained body := by
  rw [← Body.errorRecords_eq_zero_iff fits, stats, interpreter_ofBody fits]

theorem sent_finish {consumer : Consumer} (isOpen : consumer.outcome = none) :
    consumer.finish.sent = consumer.sent ++
      (consumer.decoder.finish.1.map Event.truncated).toList ++ [.complete consumer.rowsSeen] := by
  rw [finish_of_open isOpen, sent_send, sent_settle, sent_reportTruncation]

theorem outcome_finish {consumer : Consumer} (isOpen : consumer.outcome = none) :
    consumer.finish.outcome = some (.completed consumer.rowsSeen) := by
  rw [finish_of_open isOpen]
  rfl

theorem sent_fail {consumer : Consumer} (isOpen : consumer.outcome = none) (message : String) :
    (consumer.fail message).sent = consumer.sent ++ [.error message] := by
  rw [fail_of_open isOpen, sent_failWith, sent_log]

theorem outcome_fail {consumer : Consumer} (isOpen : consumer.outcome = none) (message : String) :
    (consumer.fail message).outcome = some .failed := by
  rw [fail_of_open isOpen]
  rfl

theorem sent_report {consumer : Consumer} (isOpen : consumer.outcome = none) (message : String) :
    (consumer.report message).sent = consumer.sent ++ [.error message] := by
  rw [report_of_open isOpen, sent_send, sent_log]

theorem outcome_report {consumer : Consumer} (isOpen : consumer.outcome = none)
    (message : String) : (consumer.report message).outcome = none := by
  rw [report_of_open isOpen]
  exact isOpen

theorem report_kept {consumer : Consumer} (isOpen : consumer.outcome = none) (message : String) :
    (consumer.report message).decoder = consumer.decoder ∧
      (consumer.report message).rowsSeen = consumer.rowsSeen := by
  rw [report_of_open isOpen]
  exact ⟨rfl, rfl⟩

end Consumer

namespace Client

/-- The address of an endpoint as it goes out, without user and password. -/
def endpoint (client : Client) (name : String) : Url :=
  { (client.base.child name).withoutCredentials with fragment := none }

theorem send_endpoint {client : Client} (hosted : client.base.hasHost)
    (web : client.base.scheme = "http" ∨ client.base.scheme = "https") (server : Http.Server)
    (method : Http.Method) (name : String) (body : Bytes) :
    (Http.Network.connected server).send { method, url := client.base.child name, body } =
      match server { method, url := client.endpoint name, body } with
      | none =>
          { result := .error (.noAnswer (client.endpoint name))
            seen := [{ method, url := client.endpoint name, body }] }
      | some reply =>
          { result := .ok reply, seen := [{ method, url := client.endpoint name, body }] } := by
  obtain ⟨scheme_eq, host_eq⟩ : (client.base.child name).scheme = client.base.scheme ∧
      (client.base.child name).hasHost = client.base.hasHost := by
    unfold Url.child
    split <;> exact ⟨rfl, rfl⟩
  refine if_pos ⟨host_eq.trans hosted, ?_⟩
  rw [← scheme_eq] at web
  exact web

end Client

namespace QueryRun

open Consumer (ofBody)
open Body (remainder readable Overlong told Unexplained)

def endReply (reply : Reply) (consumer : Consumer) : Consumer :=
  match reply.ending with
  | .clean => endBody reply.status consumer
  | .cut => consumer.fail (TransportError.describe .brokenBody)

theorem endReply_of_ended {consumer : Consumer} (ended : consumer.outcome.isSome) (reply : Reply) :
    endReply reply consumer = consumer := by
  have finished : consumer.finish = consumer := Consumer.apply_of_ended ended .finish
  have reported : ∀ message, consumer.report message = consumer := fun message =>
    Consumer.apply_of_ended ended (.report message)
  unfold endReply
  split
  · simp only [endBody, reported, finished, ite_self]
  · exact Consumer.apply_of_ended ended (.fail _)

theorem readBody_nil {cancellation : Cancellation} {consumer : Consumer}
    (goesOn : cancellation.holds consumer = false) (reply : Reply) :
    readBody cancellation reply [] consumer = endReply reply consumer := by
  rw [readBody, goesOn, if_neg Bool.false_ne_true]
  rfl

theorem readBody_cons {cancellation : Cancellation} {consumer : Consumer}
    (goesOn : cancellation.holds consumer = false) (reply : Reply) (chunk : Bytes)
    (rest : List Bytes) :
    readBody cancellation reply (chunk :: rest) consumer =
      if (consumer.feed chunk).isTerminated then consumer.feed chunk
      else readBody cancellation reply rest (consumer.feed chunk) := by
  rw [readBody, goesOn, if_neg Bool.false_ne_true]

/-- A query that nobody cancels takes in the whole body before the end of the reply counts. -/
theorem readBody_never (reply : Reply) (chunks : List Bytes) (limit : Nat) (body : Bytes) :
    readBody .never reply chunks (ofBody limit body) =
      endReply reply (ofBody limit (body ++ chunks.flatten)) := by
  induction chunks generalizing body with
  | nil =>
      rw [List.flatten_nil, List.append_nil, readBody_nil rfl]
  | cons chunk rest inductionHypothesis =>
      rw [List.flatten_cons, ← List.append_assoc, readBody_cons rfl, Consumer.feed_ofBody]
      by_cases overlong : Overlong limit (body ++ chunk)
      · have ended : (ofBody limit (body ++ chunk)).isTerminated := by
          rw [Consumer.isTerminated, Consumer.outcome_ofBody, if_pos overlong]
          rfl
        rw [if_pos ended, Consumer.ofBody_append_of_overlong overlong, endReply_of_ended ended]
      · have goesOn : (ofBody limit (body ++ chunk)).isTerminated = false := by
          rw [Consumer.isTerminated, Consumer.outcome_ofBody, if_neg overlong]
          rfl
        rw [goesOn, if_neg Bool.false_ne_true]
        exact inductionHypothesis (body ++ chunk)

def statusReport (status : Http.Status) (body : Bytes) : List Event :=
  if status.isSuccess = false ∧ Unexplained body then
    [.error ("Server returned HTTP " ++ status.text)]
  else []

def truncationReport (body : Bytes) : List Event :=
  if remainder body = [] then [] else [.truncated (remainder body).length]

theorem truncation_ofBody {limit : Nat} {body : Bytes} (fits : ¬ Overlong limit body) :
    ((ofBody limit body).decoder.finish.1.map Event.truncated).toList = truncationReport body := by
  rw [Consumer.ofBody_of_fits fits]
  change ((FrameDecoder.holding limit (remainder body)).finish.1.map _).toList = _
  rw [FrameDecoder.finish_holding, truncationReport]
  split <;> rfl

theorem endBody_ofBody {limit : Nat} {body : Bytes} (fits : ¬ Overlong limit body)
    (status : Http.Status) :
    (endBody status (ofBody limit body)).sent =
        told limit body ++ statusReport status body ++ truncationReport body ++
          [.complete (Event.allRows (told limit body)).length] ∧
      (endBody status (ofBody limit body)).outcome =
        some (.completed (Event.allRows (told limit body)).length) := by
  have isOpen : (ofBody limit body).outcome = none := by
    rw [Consumer.outcome_ofBody, if_neg fits]
  have silent_iff := Consumer.errorRecords_ofBody fits
  by_cases unexplained : status.isSuccess = false ∧ Unexplained body
  · have reports : (!status.isSuccess && (ofBody limit body).stats.errorRecords = 0) = true := by
      simp [unexplained.1, silent_iff.mpr unexplained.2]
    have message_eq : ClientError.message (.status status) =
        "Server returned HTTP " ++ status.text := rfl
    have stillOpen := Consumer.outcome_report isOpen (ClientError.message (.status status))
    obtain ⟨decoder_eq, rows_eq⟩ :=
      Consumer.report_kept isOpen (ClientError.message (.status status))
    rw [endBody, if_pos reports, Consumer.sent_finish stillOpen, Consumer.outcome_finish stillOpen,
      Consumer.sent_report isOpen, decoder_eq, rows_eq, Consumer.rowsSeen_ofBody fits,
      truncation_ofBody fits, Consumer.sent_ofBody fits, statusReport, if_pos unexplained,
      message_eq]
    exact ⟨rfl, rfl⟩
  · have explained : (!status.isSuccess && (ofBody limit body).stats.errorRecords = 0) = false := by
      simpa [silent_iff] using unexplained
    rw [endBody, explained, if_neg Bool.false_ne_true, Consumer.sent_finish isOpen,
      Consumer.outcome_finish isOpen, Consumer.rowsSeen_ofBody fits, truncation_ofBody fits,
      Consumer.sent_ofBody fits, statusReport, if_neg unexplained, List.append_nil]
    exact ⟨rfl, rfl⟩

/-- A status that is no success is never passed over: if the body did not explain it, it is
reported. -/
theorem exists_error_of_failure {limit : Nat} {body : Bytes} (fits : ¬ Overlong limit body)
    {status : Http.Status} (failure : status.isSuccess = false) :
    ∃ message, .error message ∈ told limit body ++ statusReport status body := by
  by_cases unexplained : Unexplained body
  · refine ⟨"Server returned HTTP " ++ status.text, List.mem_append_right _ ?_⟩
    rw [statusReport, if_pos ⟨failure, unexplained⟩]
    exact List.mem_singleton_self _
  · obtain ⟨line, isLine, explains⟩ : ∃ line ∈ Body.lines body,
        Record.reportedIn? (Body.withoutReturn line) ≠ none := by
      simpa [Unexplained] using unexplained
    obtain ⟨message, reported⟩ := Option.ne_none_iff_exists'.mp explains
    have notBlank : Body.withoutReturn line ≠ [] := by
      intro blank
      rw [blank, Body.reportedIn?_nil] at explains
      exact explains rfl
    have read : Body.withoutReturn line ∈ readable limit body := by
      rw [Body.readable_of_fits fits]
      exact List.mem_filter.mpr ⟨List.mem_map_of_mem isLine, decide_eq_true notBlank⟩
    exact ⟨message, List.mem_append_left _ (Interpreter.new.error_mem_interpretAll read reported)⟩

theorem endReply_of_overlong {limit : Nat} {body : Bytes} (overlong : Overlong limit body)
    (reply : Reply) :
    (endReply reply (ofBody limit body)).outcome = some .failed ∧
      (endReply reply (ofBody limit body)).sent =
        told limit body ++ [.error ("Line exceeds maximum " ++ toString limit ++ " bytes")] := by
  have failed : (ofBody limit body).outcome = some .failed := by
    rw [Consumer.outcome_ofBody, if_pos overlong]
  rw [endReply_of_ended (by simp [failed])]
  refine ⟨failed, ?_⟩
  rw [Consumer.ofBody_of_overlong overlong]
  change (((Consumer.readThrough limit body).log _).failWith _).sent = _
  rw [Consumer.sent_failWith, Consumer.sent_log, Consumer.readThrough,
    Consumer.sent_foldl_interpretLine]
  rfl

theorem endReply_of_cut {limit : Nat} {body : Bytes} (fits : ¬ Overlong limit body)
    {reply : Reply} (cut : reply.ending = .cut) :
    (endReply reply (ofBody limit body)).outcome = some .failed ∧
      (endReply reply (ofBody limit body)).sent =
        told limit body ++ [.error (TransportError.describe .brokenBody)] := by
  have isOpen : (ofBody limit body).outcome = none := by
    rw [Consumer.outcome_ofBody, if_neg fits]
  simp only [endReply, cut]
  rw [Consumer.outcome_fail isOpen, Consumer.sent_fail isOpen, Consumer.sent_ofBody fits]
  exact ⟨rfl, rfl⟩

/-! ## The request and its reply -/

theorem run_of_error {client : Client} {network : Http.Network} {banquetUrl : String}
    {cancellation : Cancellation} {error : TransportError}
    (goesOn : cancellation.holds (.new client.lineLimit) = false)
    (refused : (network.send (client.queryRequest banquetUrl)).result = .error error) :
    run client network banquetUrl cancellation =
      { consumer := (Consumer.new client.lineLimit).fail error.describe
        seen := (network.send (client.queryRequest banquetUrl)).seen } := by
  simp only [run, goesOn, refused, Bool.false_eq_true, if_false]

theorem run_of_reply {client : Client} {network : Http.Network} {banquetUrl : String}
    {cancellation : Cancellation} {reply : Reply}
    (goesOn : cancellation.holds (.new client.lineLimit) = false)
    (answered : (network.send (client.queryRequest banquetUrl)).result = .ok reply) :
    run client network banquetUrl cancellation =
      { consumer := readBody cancellation reply reply.chunks (.new client.lineLimit)
        seen := (network.send (client.queryRequest banquetUrl)).seen } := by
  simp only [run, goesOn, answered, Bool.false_eq_true, if_false]

theorem seen_run_never (client : Client) (network : Http.Network) (banquetUrl : String) :
    (run client network banquetUrl .never).seen =
      (network.send (client.queryRequest banquetUrl)).seen := by
  cases answer : (network.send (client.queryRequest banquetUrl)).result with
  | error error => rw [run_of_error rfl answer]
  | ok reply => rw [run_of_reply rfl answer]

theorem run_never_of_reply {client : Client} {network : Http.Network} {banquetUrl : String}
    {reply : Reply}
    (answered : (network.send (client.queryRequest banquetUrl)).result = .ok reply) :
    (run client network banquetUrl .never).consumer =
      endReply reply (ofBody client.lineLimit reply.chunks.flatten) := by
  have read := readBody_never reply reply.chunks client.lineLimit []
  rw [Consumer.ofBody_nil, List.nil_append] at read
  rw [run_of_reply rfl answered]
  exact read

def outgoing (client : Client) (banquetUrl : String) : Http.Request :=
  let request := client.queryRequest banquetUrl
  { request with url := { request.url.withoutCredentials with fragment := none } }

theorem send_connected {client : Client} (hosted : client.base.hasHost)
    (web : client.base.scheme = "http" ∨ client.base.scheme = "https") (server : Http.Server)
    (banquetUrl : String) :
    (Http.Network.connected server).send (client.queryRequest banquetUrl) =
      match server (outgoing client banquetUrl) with
      | none =>
          { result := .error (.noAnswer (outgoing client banquetUrl).url)
            seen := [outgoing client banquetUrl] }
      | some reply => { result := .ok reply, seen := [outgoing client banquetUrl] } :=
  Client.send_endpoint hosted web server .post "query" _

/-- A query over a connected network sends one request and ends as the server's reply has it. -/
theorem run_never_connected (client : Client) (server : Http.Server) (banquetUrl : String)
    (hosted : client.base.hasHost)
    (web : client.base.scheme = "http" ∨ client.base.scheme = "https") :
    let limit := client.lineLimit
    let query := run client (.connected server) banquetUrl .never
    let stream := query.consumer
    ∃ request, query.seen = [request] ∧ request.method = .post ∧
      request.body = Bytes.ofText (QueryRequest.toJson ⟨banquetUrl⟩) ∧
      (server request = none → stream.outcome = some .failed ∧
        stream.sent = [.error (TransportError.noAnswer request.url).describe]) ∧
      ∀ reply, server request = some reply →
        let body := reply.chunks.flatten
        let told := told limit body
        let rows := (Event.allRows told).length
        Event.Incomplete told ∧
        (Overlong limit body → stream.outcome = some .failed ∧
          stream.sent = told ++
            [.error ("Line exceeds maximum " ++ toString limit ++ " bytes")]) ∧
        (¬ Overlong limit body → reply.ending = .cut → stream.outcome = some .failed ∧
          stream.sent = told ++ [.error (TransportError.describe .brokenBody)]) ∧
        (¬ Overlong limit body → reply.ending = .clean →
          stream.outcome = some (.completed rows) ∧
          stream.sent = told ++ statusReport reply.status body ++ truncationReport body ++
            [.complete rows]) ∧
        (reply.ending = .clean → reply.status.isSuccess = false →
          ∃ message, .error message ∈ stream.sent) := by
  intro limit query stream
  have sending := send_connected hosted web server banquetUrl
  have seen_eq : query.seen = [outgoing client banquetUrl] := by
    change (run client (.connected server) banquetUrl .never).seen = _
    rw [seen_run_never, sending]
    split <;> rfl
  refine ⟨outgoing client banquetUrl, seen_eq, rfl, rfl, ?_, ?_⟩
  · intro unanswered
    rw [unanswered] at sending
    have stream_eq : stream = (Consumer.new limit).fail _ :=
      congrArg (·.consumer) (run_of_error rfl (congrArg (·.result) sending))
    have fresh : (Consumer.new limit).outcome = none := rfl
    rw [stream_eq, Consumer.outcome_fail fresh, Consumer.sent_fail fresh]
    exact ⟨rfl, rfl⟩
  · intro reply answered body events rows
    rw [answered] at sending
    have stream_eq : stream = endReply reply (ofBody limit body) :=
      run_never_of_reply (congrArg (·.result) sending)
    rw [stream_eq]
    have ends : reply.ending = .clean →
        endReply reply (ofBody limit body) = endBody reply.status (ofBody limit body) := by
      intro clean
      simp only [endReply, clean]
    refine ⟨Body.incomplete_told limit body, fun overlong => endReply_of_overlong overlong reply,
      fun fits cut => endReply_of_cut fits cut, fun fits clean => ?_, fun clean failure => ?_⟩
    · rw [ends clean]
      exact ⟨(endBody_ofBody fits reply.status).2, (endBody_ofBody fits reply.status).1⟩
    · by_cases overlong : Overlong limit body
      · rw [(endReply_of_overlong overlong reply).2]
        exact ⟨_, List.mem_append_right _ (List.mem_singleton_self _)⟩
      · obtain ⟨message, reported⟩ := exists_error_of_failure overlong failure
        rw [ends clean, (endBody_ofBody overlong reply.status).1, List.append_assoc]
        exact ⟨message, List.mem_append_left _ reported⟩

/-- The body of an error reply breaks off inside the record that would have said why. -/
theorem run_never_connected_unexplained :
    let server : Http.Server := fun _ =>
      some { status := ⟨500⟩, chunks := [Bytes.ofText "\x7b\"error\":"], ending := .clean }
    let stream := (run Sample.client (.connected server) "a.sqlite/t" .never).consumer
    Sample.client.base.hasHost ∧
      (Sample.client.base.scheme = "http" ∨ Sample.client.base.scheme = "https") ∧
      stream.outcome = some (.completed 0) ∧
      stream.sent = [.error "Server returned HTTP 500 Internal Server Error", .truncated 9,
        .complete 0] := by
  intro server stream
  have web : Sample.client.base.scheme = "http" ∨ Sample.client.base.scheme = "https" :=
    Or.inl rfl
  obtain ⟨request, _, _, _, _, replied⟩ :=
    run_never_connected Sample.client server "a.sqlite/t" rfl web
  obtain ⟨_, _, _, completes, _⟩ := replied _ rfl
  obtain ⟨outcome_eq, sent_eq⟩ := completes (by decide) rfl
  exact ⟨rfl, web, outcome_eq, sent_eq⟩

end QueryRun

end RowStream
