import RowStream.Proofs.Headless

/-!
# Calls of the program

A call is looked at in three stages: its words, its settings, and what it is to do.  Only when
all three are in order does it send anything, and then it sends one request.  Which words stand
in a command line decides everything; their order decides only which error is reported.
-/

set_option autoImplicit false

namespace RowStream

namespace Arguments

def startsWithHyphens (word : String) : Bool := ['-', '-'].isPrefixOf word.toList

/-- A word that is acceptable by itself: it does not ask for help, and it is no option but one of
the two flags. -/
def Fine (word : String) : Prop :=
  word ≠ "-h" ∧ word ≠ "--help" ∧
    (startsWithHyphens word → word = "--headless" ∨ word = "--check")

instance (word : String) : Decidable (Fine word) :=
  inferInstanceAs (Decidable (_ ∧ _ ∧ _))

def remaining (words : List String) : List String := words.filter (!startsWithHyphens ·)

structure Acceptable (words : List String) : Prop where
  fine : ∀ word ∈ words, Fine word
  single : (remaining words).length ≤ 1

instance (words : List String) : Decidable (Acceptable words) :=
  decidable_of_iff ((∀ word ∈ words, Fine word) ∧ (remaining words).length ≤ 1)
    ⟨fun ⟨fine, single⟩ => ⟨fine, single⟩, fun ⟨fine, single⟩ => ⟨fine, single⟩⟩

/-- What the words of an acceptable command line ask for, in whatever order they stand. -/
def summary (words : List String) : Arguments :=
  { headless := "--headless" ∈ words, check := "--check" ∈ words
    banquetUrl := (remaining words).head? }

theorem remaining_append (first second : List String) :
    remaining (first ++ second) = remaining first ++ remaining second :=
  List.filter_append first second

theorem remaining_flag {word : String} (flag : startsWithHyphens word) : remaining [word] = [] := by
  simp [remaining, flag]

theorem remaining_plain {word : String} (plain : startsWithHyphens word = false) :
    remaining [word] = [word] := by
  simp [remaining, plain]

theorem Acceptable.of_append {first second : List String} (acceptable : Acceptable (first ++ second)) :
    Acceptable first := by
  have single := acceptable.single
  rw [remaining_append, List.length_append] at single
  exact ⟨fun word member => acceptable.fine word (List.mem_append_left _ member), by omega⟩

theorem Acceptable.append_iff {read : List String} (acceptable : Acceptable read) (word : String) :
    Acceptable (read ++ [word]) ↔
      Fine word ∧ (startsWithHyphens word = false → remaining read = []) := by
  constructor
  · intro longer
    refine ⟨longer.fine word (by simp), fun plain => ?_⟩
    have single := longer.single
    rw [remaining_append, remaining_plain plain, List.length_append] at single
    exact List.length_eq_zero_iff.mp (by simpa using single)
  · rintro ⟨fine, plain⟩
    refine ⟨fun other member => ?_, ?_⟩
    · rcases List.mem_append.mp member with old | new
      · exact acceptable.fine other old
      · exact List.mem_singleton.mp new ▸ fine
    · rw [remaining_append]
      by_cases flag : startsWithHyphens word
      · rw [remaining_flag flag, List.append_nil]
        exact acceptable.single
      · rw [plain (by simpa using flag)]
        rw [remaining_plain (by simpa using flag)]
        exact Nat.le_refl 1

theorem summary_headless (read : List String) :
    summary (read ++ ["--headless"]) = { summary read with headless := true } := by
  have flag : remaining ["--headless"] = [] := by decide
  simp [summary, remaining_append, flag]

theorem summary_check (read : List String) :
    summary (read ++ ["--check"]) = { summary read with check := true } := by
  have flag : remaining ["--check"] = [] := by decide
  simp [summary, remaining_append, flag]

theorem summary_plain {read : List String} (first : remaining read = []) {word : String}
    (plain : startsWithHyphens word = false) :
    summary (read ++ [word]) = { summary read with banquetUrl := some word } := by
  have headless : "--headless" ≠ word := fun same => absurd (same ▸ plain) (by decide)
  have check : "--check" ≠ word := fun same => absurd (same ▸ plain) (by decide)
  simp [summary, remaining_append, remaining_plain plain, first, headless, check]

/-! ## One word -/

theorem add_headless (arguments : Arguments) :
    add arguments "--headless" = .ok { arguments with headless := true } := rfl

theorem add_check (arguments : Arguments) :
    add arguments "--check" = .ok { arguments with check := true } := rfl

theorem add_plain (arguments : Arguments) {word : String} (fine : Fine word)
    (plain : startsWithHyphens word = false) :
    add arguments word =
      if arguments.banquetUrl.isSome then .error .severalUrls
      else .ok { arguments with banquetUrl := some word } := by
  have headless : word ≠ "--headless" := fun same => absurd (same ▸ plain) (by decide)
  have check : word ≠ "--check" := fun same => absurd (same ▸ plain) (by decide)
  have help : ¬ (word = "-h" ∨ word = "--help") := not_or.mpr ⟨fine.1, fine.2.1⟩
  unfold startsWithHyphens at plain
  rw [add, if_neg headless, if_neg check, if_neg help, plain, if_neg Bool.false_ne_true]

theorem add_of_not_fine (arguments : Arguments) {word : String} (refused : ¬ Fine word) :
    ∃ error, add arguments word = .error error := by
  have headless : word ≠ "--headless" := fun same => absurd (same ▸ refused) (by decide)
  have check : word ≠ "--check" := fun same => absurd (same ▸ refused) (by decide)
  rw [add, if_neg headless, if_neg check]
  by_cases help : word = "-h" ∨ word = "--help"
  · exact ⟨.helpRequested, if_pos help⟩
  · have flag : startsWithHyphens word := Decidable.byContradiction fun plain =>
      refused ⟨(not_or.mp help).1, (not_or.mp help).2, fun flag => absurd flag plain⟩
    rw [if_neg help]
    exact ⟨.unknownOption word, if_pos flag⟩

/-- What one more word does to the summary of the words before it. -/
theorem add_summary {read : List String} (acceptable : Acceptable read) (word : String)
    (next : Arguments) :
    add (summary read) word = .ok next ↔
      Acceptable (read ++ [word]) ∧ next = summary (read ++ [word]) := by
  rw [acceptable.append_iff]
  by_cases fine : Fine word
  · cases hyphens : startsWithHyphens word with
    | true =>
        rcases fine.2.2 hyphens with rfl | rfl
        · rw [add_headless, summary_headless, Except.ok.injEq]
          exact ⟨fun added => ⟨⟨fine, nofun⟩, added.symm⟩, fun added => added.2.symm⟩
        · rw [add_check, summary_check, Except.ok.injEq]
          exact ⟨fun added => ⟨⟨fine, nofun⟩, added.symm⟩, fun added => added.2.symm⟩
    | false =>
        rw [add_plain _ fine hyphens]
        cases before : remaining read with
        | nil =>
            have missing : (summary read).banquetUrl.isSome = false := by simp [summary, before]
            rw [missing, if_neg Bool.false_ne_true, summary_plain before hyphens, Except.ok.injEq]
            exact ⟨fun added => ⟨⟨fine, fun _ => rfl⟩, added.symm⟩, fun added => added.2.symm⟩
        | cons first rest =>
            simp [summary, before]
  · obtain ⟨error, add_eq⟩ := add_of_not_fine (summary read) fine
    simp [add_eq, fine]

/-! ## The whole command line -/

theorem foldlM_add_summary {read : List String} (acceptable : Acceptable read)
    (words : List String) (last : Arguments) :
    words.foldlM add (summary read) = .ok last ↔
      Acceptable (read ++ words) ∧ last = summary (read ++ words) := by
  induction words generalizing read with
  | nil =>
      rw [List.append_nil]
      simp [acceptable, pure, Except.pure, eq_comm]
  | cons word rest inductionHypothesis =>
      have together : read ++ word :: rest = read ++ [word] ++ rest := by simp
      rw [List.foldlM_cons, together]
      cases added : add (summary read) word with
      | error error =>
          constructor
          · intro stopped
            cases stopped
          · rintro ⟨whole, _⟩
            have next := (add_summary acceptable word _).mpr ⟨whole.of_append, rfl⟩
            cases added.symm.trans next
      | ok next =>
          obtain ⟨longer, rfl⟩ := (add_summary acceptable word next).mp added
          exact inductionHypothesis longer

theorem acceptable_nil : Acceptable [] := by decide

theorem parse_eq_ok_iff (words : List String) (arguments : Arguments) :
    parse words = .ok arguments ↔ Acceptable words ∧ arguments = summary words :=
  foldlM_add_summary acceptable_nil words arguments

variable {words reordered : List String}

theorem Acceptable.perm (perm : words.Perm reordered) (acceptable : Acceptable words) :
    Acceptable reordered :=
  ⟨fun word member => acceptable.fine word (perm.mem_iff.mpr member),
    (perm.filter _).length_eq ▸ acceptable.single⟩

theorem summary_perm (perm : words.Perm reordered) (acceptable : Acceptable words) :
    summary reordered = summary words := by
  have same : remaining reordered = remaining words := by
    have kept : (remaining words).Perm (remaining reordered) := perm.filter _
    rcases Nat.le_one_iff_eq_zero_or_eq_one.mp acceptable.single with empty | one
    · rw [List.length_eq_zero_iff.mp empty] at kept ⊢
      exact kept.nil_eq.symm
    · obtain ⟨url, single⟩ := List.length_eq_one_iff.mp one
      rw [single] at kept ⊢
      exact (List.perm_singleton.mp kept.symm)
  simp [summary, same, perm.mem_iff]

theorem parse_perm (perm : words.Perm reordered) (arguments : Arguments) :
    parse reordered = .ok arguments ↔ parse words = .ok arguments := by
  rw [parse_eq_ok_iff, parse_eq_ok_iff]
  constructor
  · rintro ⟨acceptable, rfl⟩
    exact ⟨acceptable.perm perm.symm, (summary_perm perm.symm acceptable).symm⟩
  · rintro ⟨acceptable, rfl⟩
    exact ⟨acceptable.perm perm, (summary_perm perm acceptable).symm⟩

end Arguments

/-! ## The client of a server with a host -/

theorem Url.isBase_of_hasHost {url : Url} (hosted : url.hasHost) : url.isBase := by
  unfold hasHost at hosted
  unfold isBase
  cases host_eq : url.host with
  | none => simp [host_eq] at hosted
  | some host => rfl

theorem Client.new_eq_of_hasHost {settings : Settings} (hosted : settings.serverUrl.hasHost) :
    new settings =
      .ok { base := settings.serverUrl.withTrailingSlash, lineLimit := settings.lineLimit } :=
  if_pos (Url.isBase_of_hasHost hosted)

theorem Client.new_of_hasHost {settings : Settings} (hosted : settings.serverUrl.hasHost) :
    ∃ client, new settings = .ok client ∧ client.base.hasHost ∧
      client.base.scheme = settings.serverUrl.scheme := by
  refine ⟨_, new_eq_of_hasHost hosted, ?_⟩
  unfold Url.withTrailingSlash
  split
  · exact ⟨hosted, rfl⟩
  · split <;> exact ⟨hosted, rfl⟩

namespace Invocation

open Arguments (Acceptable remaining summary)

/-! ## Three stages -/

section

variable {words : List String} {environment : Environment} {settings : Settings} {client : Client}

theorem plan_of_unacceptable (unacceptable : ¬ Acceptable words) (environment : Environment) :
    ∃ failure, plan words environment = .error failure := by
  cases parsed : Arguments.parse words with
  | error error =>
      refine ⟨.arguments error, ?_⟩
      rw [plan, parsed]
      rfl
  | ok arguments =>
      exact absurd ((Arguments.parse_eq_ok_iff words arguments).mp parsed).1 unacceptable

theorem plan_of_unsettled (acceptable : Acceptable words)
    (unsettled : ∀ settings, Settings.read environment ≠ .ok settings) :
    ∃ failure, plan words environment = .error failure := by
  have parsed := (Arguments.parse_eq_ok_iff words (summary words)).mpr ⟨acceptable, rfl⟩
  cases configured : Settings.read environment with
  | error error =>
      refine ⟨.settings error, ?_⟩
      rw [plan, parsed, configured]
      rfl
  | ok settings => exact absurd configured (unsettled settings)

theorem plan_of_settled (acceptable : Acceptable words)
    (configured : Settings.read environment = .ok settings)
    (made : Client.new settings = .ok client) :
    plan words environment =
      if "--check" ∈ words then .ok (check client)
      else if "--headless" ∈ words then
        match (remaining words).head? with
        | some banquetUrl => .ok (headless client banquetUrl)
        | none => .error .urlMissing
      else .ok (interactive client (remaining words).head?) := by
  have parsed := (Arguments.parse_eq_ok_iff words (summary words)).mpr ⟨acceptable, rfl⟩
  rw [plan, parsed, configured]
  change ((Client.new settings).mapError Failure.client >>= _) = _
  rw [made]
  change (if (summary words).check then _ else if (summary words).headless then _ else _) = _
  simp only [summary, decide_eq_true_eq]
  rfl

theorem runCheck_connected (hosted : client.base.hasHost)
    (web : client.base.scheme = "http" ∨ client.base.scheme = "https") (server : Http.Server) :
    let request : Http.Request := { method := .get, url := client.endpoint "health", body := [] }
    let transcript := runCheck client (.connected server)
    transcript.seen = [request] ∧
      (transcript.exitCode = 0 ↔
        ∃ reply, server request = some reply ∧ reply.status.isSuccess) := by
  intro request transcript
  have sending : (Http.Network.connected server).send client.healthRequest = _ :=
    Client.send_endpoint hosted web server .get "health" []
  change (runCheck client (.connected server)).seen = _ ∧
    ((runCheck client (.connected server)).exitCode = 0 ↔ _)
  simp only [runCheck, Client.health, sending]
  cases answer : server request with
  | none => exact ⟨rfl, nofun, nofun⟩
  | some reply =>
      cases success : reply.status.isSuccess with
      | true =>
          simp only [Client.readHealth, success, if_true]
          exact ⟨rfl, fun _ => ⟨reply, rfl, success⟩, fun _ => trivial⟩
      | false =>
          simp only [Client.readHealth, success, Bool.false_eq_true, if_false]
          refine ⟨rfl, nofun, ?_⟩
          rintro ⟨other, same, succeeds⟩
          cases same
          cases success.symm.trans succeeds

theorem seen_runHeadless (hosted : client.base.hasHost)
    (web : client.base.scheme = "http" ∨ client.base.scheme = "https") (server : Http.Server)
    (banquetUrl : String) (writer : LineWriter) :
    (runHeadless client banquetUrl (.connected server) writer).seen =
      [{ method := .post, url := client.endpoint "query"
         body := Bytes.ofText (QueryRequest.toJson ⟨banquetUrl⟩) }] := by
  have sending := Client.send_endpoint hosted web server .post "query"
    (Bytes.ofText (QueryRequest.toJson ⟨banquetUrl⟩))
  rw [(runHeadless_eq client banquetUrl (.connected server) writer).2.2, QueryRun.seen_run_never,
    Client.queryRequest, sending]
  split <;> rfl

end

/-- Nothing is sent unless all three stages were passed, and then it is the one request that the
words ask for, in whatever order they stand. -/
theorem transcript_of_words (words : List String) (environment : Environment)
    (server : Http.Server) (writer : LineWriter)
    (overHttp : ∀ settings, Settings.read environment = .ok settings →
      settings.serverUrl.hasHost ∧
        (settings.serverUrl.scheme = "http" ∨ settings.serverUrl.scheme = "https")) :
    let call := RowStream.transcript? words environment (.connected server) writer
    ((¬ Acceptable words ∨ (∀ settings, Settings.read environment ≠ .ok settings) ∨
        ("--headless" ∈ words ∧ "--check" ∉ words ∧ remaining words = [])) →
      ∃ transcript, call = some transcript ∧ transcript.exitCode ≠ 0 ∧ transcript.seen = []) ∧
    (∀ settings, Acceptable words → Settings.read environment = .ok settings →
      ∃ client, Client.new settings = .ok client ∧
        ("--check" ∈ words →
          let request : Http.Request :=
            { method := .get, url := client.endpoint "health", body := [] }
          ∃ transcript, call = some transcript ∧ transcript.seen = [request] ∧
            (transcript.exitCode = 0 ↔
              ∃ reply, server request = some reply ∧ reply.status.isSuccess)) ∧
        (∀ banquetUrl, "--check" ∉ words → "--headless" ∈ words → remaining words = [banquetUrl] →
          ∃ transcript, call = some transcript ∧
            transcript.seen =
              [{ method := .post, url := client.endpoint "query"
                 body := Bytes.ofText (QueryRequest.toJson ⟨banquetUrl⟩) }]) ∧
        ("--check" ∉ words → "--headless" ∉ words → call = none)) ∧
    ∀ reordered, words.Perm reordered →
      (∀ arguments, Arguments.parse reordered = .ok arguments ↔
        Arguments.parse words = .ok arguments) ∧
      (Acceptable words → plan reordered environment = plan words environment ∧
        RowStream.transcript? reordered environment (.connected server) writer = call) := by
  intro call
  have refused : (∃ failure, plan words environment = .error failure) →
      ∃ transcript, call = some transcript ∧ transcript.exitCode ≠ 0 ∧ transcript.seen = [] := by
    rintro ⟨failure, planned⟩
    refine ⟨.ofFailure failure, ?_, Nat.one_ne_zero, rfl⟩
    change RowStream.transcript? words environment (.connected server) writer = _
    rw [RowStream.transcript?, planned]
  have carriedOut : ∀ invocation, plan words environment = .ok invocation →
      call = invocation.transcript? (.connected server) writer := by
    intro invocation planned
    change RowStream.transcript? words environment (.connected server) writer = _
    rw [RowStream.transcript?, planned]
  refine ⟨fun reason => refused ?_, fun settings acceptable configured => ?_,
    fun reordered perm => ⟨Arguments.parse_perm perm, fun acceptable => ?_⟩⟩
  · by_cases acceptable : Acceptable words
    · rcases reason with unacceptable | unsettled | ⟨headless, unchecked, none_left⟩
      · exact absurd acceptable unacceptable
      · exact plan_of_unsettled acceptable unsettled
      · cases configured : Settings.read environment with
        | error error => exact plan_of_unsettled acceptable (by simp [configured])
        | ok settings =>
            obtain ⟨client, made, _⟩ := Client.new_of_hasHost (overHttp settings configured).1
            refine ⟨.urlMissing, ?_⟩
            rw [plan_of_settled acceptable configured made, if_neg unchecked, if_pos headless,
              none_left]
            rfl
    · exact plan_of_unacceptable acceptable environment
  · obtain ⟨hosted, web⟩ := overHttp settings configured
    obtain ⟨client, made, baseHosted, scheme_eq⟩ := Client.new_of_hasHost hosted
    rw [← scheme_eq] at web
    have planned := plan_of_settled acceptable configured made
    refine ⟨client, made, fun checks => ?_, fun banquetUrl unchecked headless one => ?_,
      fun unchecked interactive => ?_⟩
    · rw [if_pos checks] at planned
      exact ⟨_, carriedOut _ planned, runCheck_connected baseHosted web server⟩
    · rw [if_neg unchecked, if_pos headless, one] at planned
      exact ⟨_, carriedOut _ planned, seen_runHeadless baseHosted web server banquetUrl writer⟩
    · rw [if_neg unchecked, if_neg interactive] at planned
      exact carriedOut _ planned
  · have same : plan reordered environment = plan words environment := by
      have parsed := (Arguments.parse_eq_ok_iff words (summary words)).mpr ⟨acceptable, rfl⟩
      rw [plan, plan, parsed, (Arguments.parse_perm perm _).mpr parsed]
    refine ⟨same, ?_⟩
    change _ = RowStream.transcript? words environment (.connected server) writer
    rw [RowStream.transcript?, RowStream.transcript?, same]

/-- Both flags and a URL are given, and the answer has a body that is no answer to a query. -/
theorem transcript_of_words_both :
    let words := ["--headless", "a.sqlite/t", "--check", "--check"]
    let server : Http.Server := fun _ =>
      some { status := ⟨204⟩, chunks := [Bytes.ofText "?"], ending := .cut }
    let writer : LineWriter := { capacity := some 0, flushes := false, lines := #[] }
    (∀ settings, Settings.read Sample.environment = .ok settings →
      settings.serverUrl.hasHost ∧
        (settings.serverUrl.scheme = "http" ∨ settings.serverUrl.scheme = "https")) ∧
    ∃ transcript, RowStream.transcript? words Sample.environment (.connected server) writer =
        some transcript ∧
      transcript.exitCode = 0 ∧
      transcript.seen =
        [{ method := .get, url := Sample.loopback.endpoint "health", body := [] }] := by
  intro words server writer
  have overHttp : ∀ settings, Settings.read Sample.environment = .ok settings →
      settings.serverUrl.hasHost ∧
        (settings.serverUrl.scheme = "http" ∨ settings.serverUrl.scheme = "https") := by
    intro settings configured
    cases configured
    exact ⟨rfl, Or.inl rfl⟩
  obtain ⟨_, sends, _⟩ := transcript_of_words words Sample.environment server writer overHttp
  obtain ⟨client, made, checks, _⟩ := sends Settings.default (by decide) rfl
  cases made
  obtain ⟨transcript, call, seen_eq, exitCode_iff⟩ := checks (by decide)
  exact ⟨overHttp, transcript, call, exitCode_iff.mpr ⟨_, rfl, rfl⟩, seen_eq⟩

end Invocation

end RowStream
