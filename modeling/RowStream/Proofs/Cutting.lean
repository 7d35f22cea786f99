import RowStream.Proofs.Holding
import RowStream.Proofs.QueryEnding

/-!
# Cancelling cuts a query between two steps

A query that nobody cancels takes steps: it sends its request, it feeds the chunks of the reply one
by one, and it ends the body.  `steps` lists the stream after each of them.  A reader who cancels
while an event is delivered cuts the query behind the step that delivered it: that step is done to
its end, and no later one begins.
-/

set_option autoImplicit false

namespace RowStream

open Http (Network Reply TransportError)

namespace Consumer

/-! ## Events are only added -/

theorem preserved_prefix_sent (earlier : List Event) :
    Preserved fun consumer => earlier <+: consumer.sent where
  line := fun started line => by
    rw [sent_interpretLine]
    exact started.trans (List.prefix_append _ _)
  error := fun started message => by
    rw [sent_send]
    exact started.trans (List.prefix_append _ _)
  complete := fun started total => by
    rw [sent_send]
    exact started.trans (List.prefix_append _ _)
  notice := fun started _ => started
  decoder := fun started _ => started
  outcome := fun started _ => started

theorem prefix_sent_apply (consumer : Consumer) (operation : Operation) :
    consumer.sent <+: (operation.apply consumer).sent :=
  (preserved_prefix_sent consumer.sent).apply (List.prefix_refl _) operation

theorem sent_cancel (consumer : Consumer) : consumer.cancel.sent = consumer.sent := by
  unfold cancel
  split <;> rfl

theorem outcome_cancel (consumer : Consumer) :
    consumer.cancel.outcome = consumer.outcome.or (some .cancelled) := by
  cases ended : consumer.outcome with
  | none => rw [cancel_of_open ended]; rfl
  | some outcome =>
      have stands : consumer.cancel = consumer := apply_of_ended (by simp [ended]) .cancel
      rw [stands, ended]
      rfl

theorem cancel_of_ended {consumer : Consumer} (ended : consumer.outcome.isSome) :
    consumer.cancel = consumer := apply_of_ended ended .cancel

end Consumer

namespace QueryRun

open Consumer (ofBody Operation)

/-! ## Steps -/

/-- The stream after each step of reading a body: the chunks, up to one that ends the stream, or
else the end of the body. -/
def bodySteps (reply : Reply) : List Bytes → Consumer → List Consumer
  | [], consumer => [endReply reply consumer]
  | chunk :: rest, consumer =>
      let fed := consumer.feed chunk
      if fed.isTerminated then [fed] else fed :: bodySteps reply rest fed

def steps (client : Client) (network : Network) (banquetUrl : String) : List Consumer :=
  let consumer := Consumer.new client.lineLimit
  match (network.send (client.queryRequest banquetUrl)).result with
  | .error error => [consumer.fail error.describe]
  | .ok reply => consumer :: bodySteps reply reply.chunks consumer

theorem ended_endReply (reply : Reply) (consumer : Consumer) :
    (endReply reply consumer).outcome.isSome := by
  unfold endReply
  split
  · obtain ⟨_, _, _, ended⟩ := concludes_endBody reply.status consumer
    exact ended
  · exact consumer.ended_fail _

theorem prefix_sent_endReply (reply : Reply) (consumer : Consumer) :
    consumer.sent <+: (endReply reply consumer).sent := by
  have reported : ∀ message, consumer.sent <+: (consumer.report message).sent := fun message =>
    consumer.prefix_sent_apply (.report message)
  unfold endReply
  split
  · unfold endBody
    split
    · exact (reported _).trans (Consumer.prefix_sent_apply _ .finish)
    · exact consumer.prefix_sent_apply .finish
  · exact consumer.prefix_sent_apply (.fail _)

theorem getLast?_bodySteps (reply : Reply) (chunks : List Bytes) (consumer : Consumer) :
    (bodySteps reply chunks consumer).getLast? = some (readBody .never reply chunks consumer) := by
  induction chunks generalizing consumer with
  | nil => rfl
  | cons chunk rest inductionHypothesis =>
      have later := inductionHypothesis (consumer.feed chunk)
      rw [bodySteps, readBody_cons rfl]
      split
      · rfl
      · rw [List.getLast?_cons, later]
        rfl

theorem prefix_sent_readBody (reply : Reply) (chunks : List Bytes) (consumer : Consumer) :
    consumer.sent <+: (readBody .never reply chunks consumer).sent := by
  induction chunks generalizing consumer with
  | nil => exact prefix_sent_endReply reply consumer
  | cons chunk rest inductionHypothesis =>
      have fed : consumer.sent <+: (consumer.feed chunk).sent :=
        consumer.prefix_sent_apply (.feed chunk)
      rw [readBody_cons rfl]
      split
      · exact fed
      · exact fed.trans (inductionHypothesis (consumer.feed chunk))

theorem prefix_sent_of_mem_bodySteps {reply : Reply} {chunks : List Bytes}
    {consumer step : Consumer} (member : step ∈ bodySteps reply chunks consumer) :
    step.sent <+: (readBody .never reply chunks consumer).sent := by
  induction chunks generalizing consumer with
  | nil =>
      obtain rfl := List.mem_singleton.mp member
      exact List.prefix_refl _
  | cons chunk rest inductionHypothesis =>
      rw [readBody_cons rfl]
      rw [bodySteps] at member
      by_cases ended : (consumer.feed chunk).isTerminated
      · rw [if_pos ended] at member
        obtain rfl := List.mem_singleton.mp member
        exact (if_pos ended).symm ▸ List.prefix_refl _
      · rw [if_neg ended] at member ⊢
        rcases List.mem_cons.mp member with rfl | later
        · exact prefix_sent_readBody reply rest _
        · exact inductionHypothesis later

theorem bodySteps_open (reply : Reply) (chunks : List Bytes) (limit : Nat) (body : Bytes)
    (step : Consumer) (member : step ∈ bodySteps reply chunks (ofBody limit body))
    (isOpen : step.outcome = none) :
    ∃ fed, fed <+: chunks ∧ step = ofBody limit (body ++ fed.flatten) := by
  induction chunks generalizing body with
  | nil =>
      obtain rfl := List.mem_singleton.mp member
      have ended := ended_endReply reply (ofBody limit body)
      rw [isOpen] at ended
      cases ended
  | cons chunk rest inductionHypothesis =>
      have first : [chunk] <+: chunk :: rest := List.prefix_append [chunk] rest
      simp only [bodySteps, Consumer.feed_ofBody] at member
      split at member
      · obtain rfl := List.mem_singleton.mp member
        exact ⟨[chunk], first, by simp⟩
      · rcases List.mem_cons.mp member with rfl | later
        · exact ⟨[chunk], first, by simp⟩
        · obtain ⟨fed, isPrefix, step_eq⟩ := inductionHypothesis (body ++ chunk) later
          refine ⟨chunk :: fed, List.prefix_cons_inj chunk |>.mpr isPrefix, ?_⟩
          rw [step_eq, List.flatten_cons, List.append_assoc]

/-! ## The cut -/

/-- Among these steps, the one that delivers the event of this number, counted from one. -/
def Reaches (steps : List Consumer) (number : Nat) (step : Consumer) : Prop :=
  ∃ before after, steps = before ++ step :: after ∧
    (∀ earlier ∈ before, earlier.sent.length < number) ∧ number ≤ step.sent.length

theorem Reaches.mem {steps : List Consumer} {number : Nat} {step : Consumer}
    (reaches : Reaches steps number step) : step ∈ steps := by
  obtain ⟨before, after, shape, _⟩ := reaches
  rw [shape]
  exact List.mem_append_right _ List.mem_cons_self

theorem Reaches.cons {steps : List Consumer} {number : Nat} {first step : Consumer}
    (reaches : Reaches steps number step) (short : first.sent.length < number) :
    Reaches (first :: steps) number step := by
  obtain ⟨before, after, shape, waiting, reached⟩ := reaches
  refine ⟨first :: before, after, by rw [shape, List.cons_append], ?_, reached⟩
  simpa [short] using waiting

theorem reaches_head {number : Nat} {step : Consumer} (rest : List Consumer)
    (reached : number ≤ step.sent.length) : Reaches (step :: rest) number step :=
  ⟨[], rest, rfl, by simp, reached⟩

theorem holds_duringEvent (number : Nat) (consumer : Consumer) :
    (Cancellation.duringEvent number).holds consumer = decide (number ≤ consumer.sent.length) := by
  rw [Consumer.sent, Array.length_toList]
  rfl

theorem readBody_of_holds {cancellation : Cancellation} {consumer : Consumer}
    (cancelled : cancellation.holds consumer) (reply : Reply) (chunks : List Bytes) :
    readBody cancellation reply chunks consumer = consumer.cancel := by
  cases chunks <;> simp only [readBody, cancelled, if_true]

/-- A reader who cancels at an event of the body cuts it behind the step that delivers the event. -/
theorem readBody_duringEvent (reply : Reply) (chunks : List Bytes) {consumer : Consumer}
    {number : Nat} (waiting : consumer.sent.length < number)
    (reached : number ≤ (readBody .never reply chunks consumer).sent.length) :
    ∃ step, Reaches (bodySteps reply chunks consumer) number step ∧
      readBody (.duringEvent number) reply chunks consumer = step.cancel := by
  have goesOn : (Cancellation.duringEvent number).holds consumer = false := by
    simpa [holds_duringEvent] using waiting
  induction chunks generalizing consumer with
  | nil =>
      have ended := ended_endReply reply consumer
      refine ⟨endReply reply consumer, reaches_head [] reached, ?_⟩
      rw [Consumer.cancel_of_ended ended, readBody_nil goesOn]
  | cons chunk rest inductionHypothesis =>
      rw [readBody_cons rfl] at reached
      rw [bodySteps, readBody_cons goesOn]
      by_cases ended : (consumer.feed chunk).isTerminated
      · rw [if_pos ended] at reached
        refine ⟨consumer.feed chunk, ?_, ?_⟩
        · rw [if_pos ended]
          exact reaches_head [] reached
        · rw [if_pos ended, Consumer.cancel_of_ended ended]
      · rw [if_neg ended] at reached ⊢
        rw [if_neg ended]
        by_cases delivered : number ≤ (consumer.feed chunk).sent.length
        · have cancelled : (Cancellation.duringEvent number).holds (consumer.feed chunk) := by
            simpa [holds_duringEvent] using delivered
          exact ⟨consumer.feed chunk, reaches_head _ delivered,
            readBody_of_holds cancelled reply rest⟩
        · have short : (consumer.feed chunk).sent.length < number := Nat.lt_of_not_le delivered
          obtain ⟨step, reaches, result⟩ :=
            inductionHypothesis short reached (by simpa [holds_duringEvent] using short)
          exact ⟨step, reaches.cons short, result⟩

theorem readBody_unreached (reply : Reply) (chunks : List Bytes) {consumer : Consumer}
    {number : Nat} (short : (readBody .never reply chunks consumer).sent.length < number) :
    readBody (.duringEvent number) reply chunks consumer =
      readBody .never reply chunks consumer := by
  have goesOn : (Cancellation.duringEvent number).holds consumer = false := by
    have added := (prefix_sent_readBody reply chunks consumer).length_le
    simp only [holds_duringEvent, decide_eq_false_iff_not]
    omega
  induction chunks generalizing consumer with
  | nil =>
      rw [readBody_nil goesOn, readBody_nil rfl]
  | cons chunk rest inductionHypothesis =>
      rw [readBody_cons rfl] at short
      rw [readBody_cons goesOn, readBody_cons rfl]
      split
      · rfl
      · rename_i open_
        rw [if_neg open_] at short
        have added := (prefix_sent_readBody reply rest (consumer.feed chunk)).length_le
        refine inductionHypothesis short ?_
        simp only [holds_duringEvent, decide_eq_false_iff_not]
        omega

/-! ## Jobs whose query is gone -/

theorem run_atStart (client : Client) (network : Network) (banquetUrl : String) :
    run client network banquetUrl .atStart =
      { consumer := (Consumer.new client.lineLimit).cancel, seen := [] } := rfl

end QueryRun

namespace Session

/-- The job of a query whose handle was let go does nothing. -/
theorem runJob_of_inactive {session : Session} {id : Nat} (tells : session.Tells id)
    (inactive : session.active.map ActiveQuery.id ≠ some id) (network : Network)
    (banquetUrl : String) :
    runJob network session (.query id banquetUrl) = (session, []) := by
  have cancelled : id ∉ session.liveTokens := mt tells.mp inactive
  have sent_nil : (session.queryEvents network id banquetUrl).consumer.events.toList = [] := by
    rw [queryEvents, if_neg cancelled, QueryRun.run_atStart]
    rfl
  have seen_nil : (session.queryEvents network id banquetUrl).seen = [] := by
    rw [queryEvents, if_neg cancelled, QueryRun.run_atStart]
  have kept : finishQuery session.active id = session.active := by
    cases active : session.active with
    | none => rfl
    | some query =>
        have different : query.id ≠ id := by simpa [active] using inactive
        simp [finishQuery, different]
  simp only [runJob, sent_nil, seen_nil, kept, List.map_nil, List.append_nil]

def runNext (network : Network) (before : Session × List Http.Request) (job : Job) :
    Session × List Http.Request :=
  ((runJob network before.1 job).1, before.2 ++ (runJob network before.1 job).2)

theorem runJobs_eq (session : Session) (network : Network) :
    session.runJobs network =
      session.jobs.foldl (runNext network) ({ session with jobs := [] }, []) := rfl

theorem foldl_runNext_filter {id : Nat} (network : Network) (banquetUrl : String)
    (jobs : List Job) {before : Session × List Http.Request} (tells : before.1.Tells id)
    (inactive : before.1.active.map ActiveQuery.id ≠ some id) :
    (jobs.filter (· ≠ .query id banquetUrl)).foldl (runNext network) before =
      jobs.foldl (runNext network) before := by
  induction jobs generalizing before with
  | nil => rfl
  | cons job rest inductionHypothesis =>
      rw [List.foldl_cons]
      by_cases own : job = .query id banquetUrl
      · have idle : runNext network before job = before := by
          rw [own, runNext, runJob_of_inactive tells inactive, List.append_nil]
        rw [List.filter_cons_of_neg (by simp [own]), idle]
        exact inductionHypothesis tells inactive
      · rw [List.filter_cons_of_pos (by simp [own]), List.foldl_cons]
        refine inductionHypothesis (tells.runJob network job) ?_
        rw [runNext, activeId_runJob]
        exact inactive

theorem runJobs_filter {session : Session} {id : Nat} (tells : session.Tells id)
    (inactive : session.active.map ActiveQuery.id ≠ some id) (network : Network)
    (banquetUrl : String) :
    { session with jobs := session.jobs.filter (· ≠ Job.query id banquetUrl) }.runJobs network =
      session.runJobs network := by
  rw [runJobs_eq, runJobs_eq]
  exact foldl_runNext_filter network banquetUrl session.jobs tells inactive

theorem prefix_jobs_startQuery (session : Session) (banquetUrl : String) :
    session.jobs <+: (session.startQuery banquetUrl).jobs := by
  have jobs_eq : (session.startQuery banquetUrl).jobs = (session.begun banquetUrl).jobs :=
    congrArg (·.jobs) (session.core_startQuery banquetUrl)
  rw [jobs_eq]
  exact List.prefix_append _ _

theorem jobs_cancelQuery (session : Session) : session.cancelQuery.jobs = session.jobs := by
  unfold cancelQuery
  split <;> rfl

/-- The job of a query that was replaced or cancelled before it ran does nothing. -/
theorem runJobs_dropped (session : Session) (network : Network) (banquetUrl other : String) :
    let started := session.startQuery banquetUrl
    let job := Job.query session.nextQueryId banquetUrl
    ∀ dropped ∈ [started.cancelQuery, started.startQuery other], job ∈ dropped.jobs ∧
      runJob network dropped job = (dropped, []) ∧
      dropped.runJobs network =
        { dropped with jobs := dropped.jobs.filter (· ≠ job) }.runJobs network := by
  intro started job dropped isDropped
  have queued : job ∈ started.jobs := List.mem_append_right _ (List.mem_singleton_self _)
  have among : dropped = started.cancelQuery ∨ dropped = started.startQuery other := by
    simpa using isDropped
  have gone : dropped.active.map ActiveQuery.id ≠ some session.nextQueryId := by
    rcases among with rfl | rfl
    · have cancelled : started.cancelQuery.active = none := rfl
      simp [cancelled]
    · have next_ne : session.nextQueryId + 1 ≠ session.nextQueryId := Nat.succ_ne_self _
      exact fun same => next_ne (Option.some.inj same)
  have tells : dropped.Tells session.nextQueryId := by
    have tellsStarted := session.tells_startQuery banquetUrl
    rcases among with rfl | rfl
    · exact tellsStarted.cancelQuery
    · exact tellsStarted.startQuery (Nat.ne_of_lt (Nat.lt_succ_self _)) other
  refine ⟨?_, runJob_of_inactive tells gone network banquetUrl,
    (runJobs_filter tells gone network banquetUrl).symm⟩
  rcases among with rfl | rfl
  · rw [jobs_cancelQuery]
    exact queued
  · exact (started.prefix_jobs_startQuery other).subset queued

end Session

namespace QueryRun

open Consumer (ofBody)

/-! ## The whole cut -/

/-- Everything that a query cancelled at an event has sent is what the step that delivered the
event left behind. -/
theorem run_duringEvent (client : Client) (network : Network) (banquetUrl : String) {number : Nat}
    (positive : 0 < number)
    (reached : number ≤ (run client network banquetUrl .never).consumer.sent.length) :
    ∃ step, Reaches (steps client network banquetUrl) number step ∧
      run client network banquetUrl (.duringEvent number) =
        { consumer := step.cancel, seen := (run client network banquetUrl .never).seen } := by
  have goesOn : (Cancellation.duringEvent number).holds (.new client.lineLimit) = false := by
    rw [holds_duringEvent, decide_eq_false_iff_not]
    exact Nat.not_le_of_lt positive
  rw [seen_run_never]
  cases answer : (network.send (client.queryRequest banquetUrl)).result with
  | error error =>
      have ended := (Consumer.new client.lineLimit).ended_fail error.describe
      rw [run_of_error rfl answer] at reached
      refine ⟨(Consumer.new client.lineLimit).fail error.describe, ?_, ?_⟩
      · simp only [steps, answer]
        exact reaches_head [] reached
      · rw [run_of_error goesOn answer, Consumer.cancel_of_ended ended]
  | ok reply =>
      have waiting : (Consumer.new client.lineLimit).sent.length < number := positive
      rw [run_of_reply rfl answer] at reached
      obtain ⟨step, reaches, result⟩ :=
        readBody_duringEvent reply reply.chunks waiting reached
      refine ⟨step, ?_, ?_⟩
      · simp only [steps, answer]
        exact reaches.cons waiting
      · rw [run_of_reply goesOn answer, result]

theorem run_unreached (client : Client) (network : Network) (banquetUrl : String) {number : Nat}
    (short : (run client network banquetUrl .never).consumer.sent.length < number) :
    run client network banquetUrl (.duringEvent number) =
      run client network banquetUrl .never := by
  have goesOn : (Cancellation.duringEvent number).holds (.new client.lineLimit) = false := by
    rw [holds_duringEvent, decide_eq_false_iff_not]
    exact Nat.not_le_of_lt (Nat.zero_lt_of_lt short)
  cases answer : (network.send (client.queryRequest banquetUrl)).result with
  | error error => rw [run_of_error goesOn answer, run_of_error rfl answer]
  | ok reply =>
      rw [run_of_reply rfl answer] at short
      rw [run_of_reply goesOn answer, run_of_reply rfl answer,
        readBody_unreached reply reply.chunks short]

theorem exists_fed_of_mem_steps {client : Client} {network : Network} {banquetUrl : String}
    {step : Consumer} (member : step ∈ steps client network banquetUrl)
    (isOpen : step.outcome = none) :
    ∃ reply fed, (network.send (client.queryRequest banquetUrl)).result = .ok reply ∧
      fed <+: reply.chunks ∧ step = ofBody client.lineLimit fed.flatten := by
  cases answer : (network.send (client.queryRequest banquetUrl)).result with
  | error error =>
      simp only [steps, answer, List.mem_singleton] at member
      have ended := (Consumer.new client.lineLimit).ended_fail error.describe
      rw [← member, isOpen] at ended
      cases ended
  | ok reply =>
      simp only [steps, answer, ← Consumer.ofBody_nil] at member
      rcases List.mem_cons.mp member with atStart | inBody
      · exact ⟨reply, [], rfl, List.nil_prefix, atStart⟩
      · obtain ⟨fed, isPrefix, step_eq⟩ := bodySteps_open reply _ _ [] step inBody isOpen
        exact ⟨reply, fed, rfl, isPrefix, step_eq⟩

theorem exists_fed_of_open {client : Client} {network : Network} {banquetUrl : String}
    {step : Consumer} (member : step ∈ steps client network banquetUrl)
    (isOpen : step.outcome = none) :
    ∃ reply fed, (network.send (client.queryRequest banquetUrl)).result = .ok reply ∧
      fed <+: reply.chunks ∧ step.sent = Body.told client.lineLimit fed.flatten := by
  obtain ⟨reply, fed, answered, isPrefix, step_eq⟩ := exists_fed_of_mem_steps member isOpen
  refine ⟨reply, fed, answered, isPrefix, ?_⟩
  have fits : ¬ Body.Overlong client.lineLimit fed.flatten := by
    intro overlong
    rw [step_eq, Consumer.outcome_ofBody, if_pos overlong] at isOpen
    cases isOpen
  rw [step_eq, Consumer.sent_ofBody fits]

theorem getLast?_steps (client : Client) (network : Network) (banquetUrl : String) :
    (steps client network banquetUrl).getLast? =
      some (run client network banquetUrl .never).consumer := by
  cases answer : (network.send (client.queryRequest banquetUrl)).result with
  | error error =>
      rw [run_of_error rfl answer]
      simp only [steps, answer]
      rfl
  | ok reply =>
      rw [run_of_reply rfl answer]
      simp only [steps, answer]
      rw [List.getLast?_cons, getLast?_bodySteps]
      rfl

theorem prefix_sent_of_mem_steps {client : Client} {network : Network} {banquetUrl : String}
    {step : Consumer} (member : step ∈ steps client network banquetUrl) :
    step.sent <+: (run client network banquetUrl .never).consumer.sent := by
  cases answer : (network.send (client.queryRequest banquetUrl)).result with
  | error error =>
      rw [run_of_error rfl answer]
      simp only [steps, answer, List.mem_singleton] at member
      exact member ▸ List.prefix_refl _
  | ok reply =>
      rw [run_of_reply rfl answer]
      simp only [steps, answer] at member
      rcases List.mem_cons.mp member with rfl | inBody
      · exact prefix_sent_readBody reply _ _
      · exact prefix_sent_of_mem_bodySteps inBody

/-- Cancelling cuts a query behind the step during which it happened. -/
theorem run_cut (client : Client) (network : Network) (banquetUrl : String) :
    let limit := client.lineLimit
    let steps := steps client network banquetUrl
    let whole := run client network banquetUrl .never
    let atStart := run client network banquetUrl .atStart
    steps.getLast? = some whole.consumer ∧
    (∀ number, 0 < number → number ≤ whole.consumer.sent.length →
      let cut := run client network banquetUrl (.duringEvent number)
      ∃ step, Reaches steps number step ∧
        cut.consumer.sent = step.sent ∧
        step.sent <+: whole.consumer.sent ∧
        cut.consumer.outcome = step.outcome.or (some .cancelled) ∧
        cut.seen = whole.seen ∧
        (step.outcome = none → Event.Incomplete step.sent ∧
          ∃ reply fed, (network.send (client.queryRequest banquetUrl)).result = .ok reply ∧
            fed <+: reply.chunks ∧ step.sent = Body.told limit fed.flatten)) ∧
    (∀ number, whole.consumer.sent.length < number →
      run client network banquetUrl (.duringEvent number) = whole) ∧
    (atStart.seen = [] ∧ atStart.consumer.sent = [] ∧
      atStart.consumer.outcome = some .cancelled) ∧
    ∀ (session : Session) (other : String),
      let started := session.startQuery banquetUrl
      let job := Job.query session.nextQueryId banquetUrl
      ∀ dropped ∈ [started.cancelQuery, started.startQuery other], job ∈ dropped.jobs ∧
        Session.runJob network dropped job = (dropped, []) ∧
        dropped.runJobs network =
          { dropped with jobs := dropped.jobs.filter (· ≠ job) }.runJobs network := by
  intro limit steps whole atStart
  refine ⟨getLast?_steps client network banquetUrl, ?_, ?_, ⟨rfl, rfl, rfl⟩, ?_⟩
  · intro number positive reached cut
    obtain ⟨step, reaches, result⟩ :=
      run_duringEvent client network banquetUrl positive reached
    have cut_eq : cut = { consumer := step.cancel, seen := whole.seen } := result
    rw [cut_eq]
    refine ⟨step, reaches, step.sent_cancel, prefix_sent_of_mem_steps reaches.mem,
      step.outcome_cancel, rfl, fun isOpen => ?_⟩
    obtain ⟨reply, fed, answered, isPrefix, sent_eq⟩ := exists_fed_of_open reaches.mem isOpen
    refine ⟨?_, reply, fed, answered, isPrefix, sent_eq⟩
    rw [sent_eq]
    exact Body.incomplete_told limit fed.flatten
  · intro number short
    exact run_unreached client network banquetUrl short
  · intro session other
    exact session.runJobs_dropped network banquetUrl other

end QueryRun

end RowStream
