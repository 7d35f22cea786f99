import RowStream.Proofs.Draining
import RowStream.Proofs.Operating

/-!
# The token of a query

The token of a query tells whether the session holds the query's handle still (`Tells`).  It does
so from the start of the query on (`tells_startQuery`), and whatever is done to the session, or
goes on behind it, keeps that: a handle is let go only with its token cancelled, and tokens are
cancelled only through handles that are let go.
-/

set_option autoImplicit false

namespace RowStream.Session

open Http (Network)

/-- The query with this number is not cancelled exactly when it is the active one. -/
def Tells (session : Session) (id : Nat) : Prop :=
  id ∈ session.liveTokens ↔ session.active.map ActiveQuery.id = some id

section

variable {session : Session} {id : Nat}

theorem Tells.of_core (tells : session.Tells id) {other : Session}
    (same : other.core = session.core) : other.Tells id := by
  have active_eq : other.active = session.active := congrArg (·.active) same
  have tokens_eq : other.liveTokens = session.liveTokens := congrArg (·.liveTokens) same
  rw [Tells, active_eq, tokens_eq]
  exact tells

theorem Tells.not_mem_dropHandle (tells : session.Tells id) :
    id ∉ session.dropHandle.liveTokens := by
  intro live
  obtain ⟨before, other⟩ := List.mem_filter.mp live
  exact of_decide_eq_true other (tells.mp before)

theorem Tells.dropHandle (tells : session.Tells id) : session.dropHandle.Tells id :=
  iff_of_false tells.not_mem_dropHandle nofun

/-! ## The start of a query -/

theorem tells_begun (session : Session) (banquetUrl : String) :
    (session.begun banquetUrl).Tells session.nextQueryId :=
  iff_of_true List.mem_cons_self rfl

theorem tells_startQuery (session : Session) (banquetUrl : String) :
    (session.startQuery banquetUrl).Tells session.nextQueryId :=
  (session.tells_begun banquetUrl).of_core (session.core_startQuery banquetUrl)

theorem Tells.begun (tells : session.Tells id) (earlier : id ≠ session.nextQueryId)
    (banquetUrl : String) : (session.begun banquetUrl).Tells id := by
  refine iff_of_false (fun live => ?_) fun same => earlier (Option.some.inj same).symm
  rcases List.mem_cons.mp live with new | before
  · exact earlier new
  · exact tells.not_mem_dropHandle before

theorem Tells.startQuery (tells : session.Tells id) (earlier : id ≠ session.nextQueryId)
    (banquetUrl : String) : (session.startQuery banquetUrl).Tells id :=
  (tells.begun earlier banquetUrl).of_core (session.core_startQuery banquetUrl)

/-! ## What is done to a session -/

theorem Tells.cancelQuery (tells : session.Tells id) : session.cancelQuery.Tells id := by
  unfold Session.cancelQuery
  split
  · exact tells
  · rw [dropHandle_cancelHandle]
    exact tells.dropHandle

theorem Tells.pollSchema (tells : session.Tells id) : session.pollSchema.Tells id := by
  unfold Session.pollSchema
  split <;> exact tells

/-! ## In the background -/

theorem activeId_finishQuery (active : Option ActiveQuery) (id : Nat) :
    (finishQuery active id).map ActiveQuery.id = active.map ActiveQuery.id := by
  rw [finishQuery, Option.map_map]
  congr 1
  funext query
  simp only [Function.comp]
  split <;> rfl

theorem Tells.finishQuery (tells : session.Tells id) (number : Nat) :
    { session with active := finishQuery session.active number }.Tells id := by
  rw [Tells, activeId_finishQuery]
  exact tells

theorem activeId_runJob (network : Network) (session : Session) (job : Job) :
    (runJob network session job).1.active.map ActiveQuery.id =
      session.active.map ActiveQuery.id := by
  cases job with
  | query id banquetUrl => exact activeId_finishQuery session.active id
  | schema ticket dataset table => rfl
  | health ticket => rfl

theorem Tells.runJob (tells : session.Tells id) (network : Network) (job : Job) :
    (runJob network session job).1.Tells id := by
  have tokens_eq : (Session.runJob network session job).1.liveTokens = session.liveTokens := by
    cases job <;> rfl
  rw [Tells, activeId_runJob, tokens_eq]
  exact tells

theorem Tells.drainUpdates (tells : session.Tells id) (finished : Bool) :
    (session.drainUpdates finished).Tells id := by
  obtain ⟨lastError, dirty, drained⟩ := session.drainUpdates_eq finished
  rw [drained, Tells]
  dsimp only
  split
  · exact tells
  · exact tells.dropHandle

end

end RowStream.Session
