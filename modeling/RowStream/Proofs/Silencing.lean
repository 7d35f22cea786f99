import RowStream.Proofs.Cutting

/-!
# What a reader still hears after cancelling

The token is looked at between two chunks, and a chunk may hold several records.  So a reader who
cancels during an event is left in peace at once only when the event is the last one of its chunk
(`run_silenced_iff`).  Any other event is followed by the rest of its chunk.
-/

set_option autoImplicit false

namespace RowStream

open Http (Network Reply)

namespace QueryRun

open Consumer (ofBody)

/-! ## The steps of a query in order -/

theorem prefix_sent_of_mem_later {reply : Reply} {chunks : List Bytes} {consumer step : Consumer}
    (member : step ∈ bodySteps reply chunks consumer) : consumer.sent <+: step.sent := by
  induction chunks generalizing consumer with
  | nil =>
      obtain rfl := List.mem_singleton.mp member
      exact prefix_sent_endReply reply consumer
  | cons chunk rest inductionHypothesis =>
      have fed : consumer.sent <+: (consumer.feed chunk).sent :=
        consumer.prefix_sent_apply (.feed chunk)
      rw [bodySteps] at member
      split at member
      · obtain rfl := List.mem_singleton.mp member
        exact fed
      · rcases List.mem_cons.mp member with rfl | later
        · exact fed
        · exact fed.trans (inductionHypothesis later)

theorem pairwise_bodySteps (reply : Reply) (chunks : List Bytes) (consumer : Consumer) :
    (consumer :: bodySteps reply chunks consumer).Pairwise fun earlier later =>
      earlier.sent <+: later.sent := by
  induction chunks generalizing consumer with
  | nil =>
      exact List.pairwise_cons.mpr
        ⟨fun _ member => prefix_sent_of_mem_later member, List.pairwise_singleton _ _⟩
  | cons chunk rest inductionHypothesis =>
      refine List.pairwise_cons.mpr ⟨fun _ member => prefix_sent_of_mem_later member, ?_⟩
      rw [bodySteps]
      split
      · exact List.pairwise_singleton _ _
      · exact inductionHypothesis (consumer.feed chunk)

theorem eq_readBody_of_ended {reply : Reply} {chunks : List Bytes} {consumer step : Consumer}
    (member : step ∈ bodySteps reply chunks consumer) (ended : step.outcome.isSome) :
    step = readBody .never reply chunks consumer := by
  induction chunks generalizing consumer with
  | nil => exact List.mem_singleton.mp member
  | cons chunk rest inductionHypothesis =>
      rw [readBody_cons rfl]
      rw [bodySteps] at member
      by_cases terminated : (consumer.feed chunk).isTerminated
      · rw [if_pos terminated] at member ⊢
        exact List.mem_singleton.mp member
      · rw [if_neg terminated] at member ⊢
        rcases List.mem_cons.mp member with rfl | later
        · exact absurd ended terminated
        · exact inductionHypothesis later

theorem foldl_feed_of_ended {consumer : Consumer} (ended : consumer.outcome.isSome)
    (chunks : List Bytes) : chunks.foldl Consumer.feed consumer = consumer := by
  induction chunks with
  | nil => rfl
  | cons chunk rest inductionHypothesis =>
      have kept : consumer.feed chunk = consumer := Consumer.apply_of_ended ended (.feed chunk)
      rw [List.foldl_cons, kept, inductionHypothesis]

theorem foldl_feed_mem_or (reply : Reply) {chunks fed : List Bytes} (isPrefix : fed <+: chunks)
    {consumer : Consumer} (isOpen : consumer.outcome = none) :
    fed.foldl Consumer.feed consumer ∈ consumer :: bodySteps reply chunks consumer ∨
      fed.foldl Consumer.feed consumer = readBody .never reply chunks consumer := by
  induction fed generalizing consumer chunks with
  | nil => exact Or.inl List.mem_cons_self
  | cons chunk others inductionHypothesis =>
      obtain ⟨later, rfl⟩ := isPrefix
      have otherPrefix : others <+: others ++ later := List.prefix_append _ _
      rw [List.foldl_cons, List.cons_append, bodySteps, readBody_cons rfl]
      by_cases terminated : (consumer.feed chunk).isTerminated
      · right
        rw [if_pos terminated]
        exact foldl_feed_of_ended terminated others
      · have stillOpen : (consumer.feed chunk).outcome = none := by
          simpa [Consumer.isTerminated] using terminated
        rw [if_neg terminated, if_neg terminated]
        exact (inductionHypothesis otherPrefix stillOpen).imp_left (List.mem_cons_of_mem consumer)

/-! ## Silence -/

/-- The step that delivers an event has delivered no other one behind it, if any step stops at that
event. -/
theorem Reaches.length_eq {steps : List Consumer} {number : Nat} {step other : Consumer}
    (reaches : Reaches steps number step)
    (ordered : steps.Pairwise fun earlier later => earlier.sent <+: later.sent)
    (member : other ∈ steps) (stops : other.sent.length = number) :
    step.sent.length = number := by
  obtain ⟨before, after, rfl, waiting, reached⟩ := reaches
  rcases List.mem_append.mp member with inBefore | inRest
  · have short := waiting other inBefore
    omega
  · rcases List.mem_cons.mp inRest with rfl | inAfter
    · exact stops
    · have kept := (List.pairwise_append.mp ordered).2.1
      have added := ((List.pairwise_cons.mp kept).1 other inAfter).length_le
      omega

theorem outcome_of_mem_steps {client : Client} {network : Network} {banquetUrl : String}
    {step : Consumer} (member : step ∈ steps client network banquetUrl)
    (short : step.sent.length < (run client network banquetUrl .never).consumer.sent.length) :
    step.outcome = none := by
  have notLast : step ≠ (run client network banquetUrl .never).consumer := by
    rintro rfl
    exact absurd short (Nat.lt_irrefl _)
  cases answer : (network.send (client.queryRequest banquetUrl)).result with
  | error error =>
      rw [run_of_error rfl answer] at notLast
      simp only [steps, answer, List.mem_singleton] at member
      exact absurd member notLast
  | ok reply =>
      rw [run_of_reply rfl answer] at notLast
      simp only [steps, answer] at member
      rcases List.mem_cons.mp member with rfl | inBody
      · rfl
      · cases reached : step.outcome with
        | none => rfl
        | some outcome =>
            exact absurd (eq_readBody_of_ended inBody (by simp [reached])) notLast

theorem pairwise_steps (client : Client) (network : Network) (banquetUrl : String) :
    (steps client network banquetUrl).Pairwise fun earlier later =>
      earlier.sent <+: later.sent := by
  unfold steps
  cases (network.send (client.queryRequest banquetUrl)).result with
  | error error => exact List.pairwise_singleton _ _
  | ok reply => exact pairwise_bodySteps reply reply.chunks _

/-- A reader who cancels during an event, other than the one that ends the stream, hears nothing
more of the query if and only if the event is the last one that some of the chunks bring. -/
theorem run_silenced_iff (client : Client) (network : Network) (banquetUrl : String) {number : Nat}
    (positive : 0 < number)
    (notLast : number < (run client network banquetUrl .never).consumer.sent.length) :
    let whole := (run client network banquetUrl .never).consumer
    let cut := (run client network banquetUrl (.duringEvent number)).consumer
    (cut.sent = whole.sent.take number ∧ cut.outcome = some .cancelled) ↔
      ∃ reply fed, (network.send (client.queryRequest banquetUrl)).result = .ok reply ∧
        fed <+: reply.chunks ∧
        (fed.foldl Consumer.feed (.new client.lineLimit)).sent.length = number := by
  intro whole cut
  obtain ⟨step, reaches, result⟩ :=
    run_duringEvent client network banquetUrl positive (Nat.le_of_lt notLast)
  have sent_eq : cut.sent = step.sent := by
    change (run client network banquetUrl (.duringEvent number)).consumer.sent = _
    rw [result, Consumer.sent_cancel]
  have kept : step.sent <+: whole.sent := prefix_sent_of_mem_steps reaches.mem
  constructor
  · rintro ⟨taken, -⟩
    have length_eq : step.sent.length = number := by
      rw [← sent_eq, taken, List.length_take]
      exact Nat.min_eq_left (Nat.le_of_lt notLast)
    have isOpen := outcome_of_mem_steps reaches.mem (length_eq.symm ▸ notLast)
    obtain ⟨reply, fed, answered, isPrefix, step_eq⟩ := exists_fed_of_mem_steps reaches.mem isOpen
    refine ⟨reply, fed, answered, isPrefix, ?_⟩
    rw [Consumer.foldl_feed_new, ← step_eq, length_eq]
  · rintro ⟨reply, fed, answered, isPrefix, stops⟩
    have isStep : fed.foldl Consumer.feed (.new client.lineLimit) ∈
        steps client network banquetUrl := by
      have isNew : (Consumer.new client.lineLimit).outcome = none := rfl
      rcases foldl_feed_mem_or reply isPrefix isNew with member | last
      · simpa only [steps, answered] using member
      · rw [run_of_reply rfl answered, ← last, stops] at notLast
        exact absurd notLast (Nat.lt_irrefl _)
    have length_eq := reaches.length_eq (pairwise_steps client network banquetUrl) isStep stops
    have isOpen := outcome_of_mem_steps reaches.mem (length_eq.symm ▸ notLast)
    refine ⟨?_, ?_⟩
    · rw [sent_eq, ← length_eq]
      exact List.prefix_iff_eq_take.mp kept
    · change (run client network banquetUrl (.duringEvent number)).consumer.outcome = _
      rw [result, Consumer.outcome_cancel, isOpen]
      rfl

theorem run_silenced_iff_parted :
    let chunks := ["\x7b\"columns\":[]\x7d\n", "\x7b\"rows\":[[1]]\x7d\n"].map Bytes.ofText
    let network := Network.connected fun _ => some { status := .ok, chunks, ending := .clean }
    let whole := (run Sample.client network "a.sqlite/t" .never).consumer
    let cut := (run Sample.client network "a.sqlite/t" (.duringEvent 1)).consumer
    0 < 1 ∧ 1 < whole.sent.length ∧ cut.sent = whole.sent.take 1 ∧
      cut.outcome = some .cancelled := by
  intro chunks network whole cut
  have notLast : 1 < whole.sent.length := by decide +kernel
  have silenced := (run_silenced_iff Sample.client network "a.sqlite/t" (by decide) notLast).mpr
    ⟨{ status := .ok, chunks, ending := .clean }, chunks.take 1, rfl, List.take_prefix 1 chunks,
      by decide +kernel⟩
  exact ⟨by decide, notLast, silenced.1, silenced.2⟩

/-- Two records in one chunk: whoever cancels during the first one still receives the second one. -/
theorem not_silenced_in_chunk :
    let network := Sample.answering "\x7b\"columns\":[]\x7d\n\x7b\"rows\":[[1]]\x7d\n"
    let whole := (run Sample.client network "a.sqlite/t" .never).consumer
    let cut := (run Sample.client network "a.sqlite/t" (.duringEvent 1)).consumer
    0 < 1 ∧ 1 < whole.sent.length ∧
      ¬ (cut.sent = whole.sent.take 1 ∧ cut.outcome = some .cancelled) := by
  intro network whole cut
  have notLast : 1 < whole.sent.length := by decide +kernel
  have further : cut.sent.length = 2 := by decide +kernel
  refine ⟨by decide, notLast, fun silenced => ?_⟩
  rw [silenced.1, List.length_take] at further
  omega

end QueryRun

end RowStream
