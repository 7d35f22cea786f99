import RowStream.Session.Background

/-!
# Operating a session

Everything that can be done to a session from outside, as one type of operations.  Most of them
change only what the screen shows around the results.  `core` blanks that out, and up to it every
operation comes to one of a few effects, which depend on no more of the session than whether a
query is running and what stands in the query bar.
-/

set_option autoImplicit false

namespace RowStream.Session

inductive Operation where
  | start (banquetUrl : String)
  | cancel
  | handleKey (key : Key) (modifiers : Modifiers) (phase : KeyPhase)
  | act (action : Action)
  | setText (text : String)
  | setError (message : String)
  | clearError
  | expireError (shownFor : Nat)
  | tick
  | checkServer
  | takeDirty
  | resize (pageSize : Nat)
  | pollHealth
  | pollSchema

def operate (session : Session) : Operation → Session
  | .start banquetUrl => session.startQuery banquetUrl
  | .cancel => session.cancelQuery
  | .handleKey key modifiers phase => session.handleKey key modifiers phase
  | .act action => session.perform action
  | .setText text => session.setQueryText text
  | .setError message => session.setError message
  | .clearError => session.clearError
  | .expireError shownFor => session.expireError shownFor
  | .tick => session.tick
  | .checkServer => session.checkServer
  | .takeDirty => session.takeDirty.2
  | .resize pageSize => { session with pageSize }
  | .pollHealth => session.pollHealth
  | .pollSchema => session.pollSchema

/-! ## Effects -/

inductive Effect where
  | nothing
  | start (banquetUrl : String)
  | cancel
  | scroll (action : Action)
  | checkServer
  | resize (pageSize : Nat)
  | pollSchema

def actionEffect (text : String) : Action → Effect
  | .runQuery => if text = "" then .nothing else .start text
  | .cancelQuery => .cancel
  | .clearError | .quit => .nothing
  | action => .scroll action

/-- The effect of an operation, given whether a query is running and what stands in the query
bar. -/
def Operation.effect (running : Bool) (text : String) : Operation → Effect
  | .start banquetUrl => .start banquetUrl
  | .cancel => .cancel
  | .handleKey key modifiers .press =>
      match actionOf? running key modifiers with
      | some action => actionEffect text action
      | none => .nothing
  | .act action => actionEffect text action
  | .checkServer => .checkServer
  | .resize pageSize => .resize pageSize
  | .pollSchema => .pollSchema
  | _ => .nothing

def scrolled (results : Results) (pageSize : Nat) : Action → Results
  | .scrollUp => results.scrollUp 1
  | .scrollDown => results.scrollDown 1
  | .pageUp => results.scrollUp pageSize
  | .pageDown => results.scrollDown pageSize
  | .top => results.scrollTop
  | .bottom => results.scrollBottom
  | _ => results

def affect (session : Session) : Effect → Session
  | .nothing => session
  | .start banquetUrl => session.startQuery banquetUrl
  | .cancel => session.cancelQuery
  | .scroll action =>
      { session with results := scrolled session.results session.pageSize action }
  | .checkServer => session.checkServer
  | .resize pageSize => { session with pageSize }
  | .pollSchema => session.pollSchema

/-- A session without the query bar and all else around the results. -/
def core (session : Session) : Session :=
  { session with
    editor := .ofLine "", lastError := none, dirty := false, wantsQuit := false, online := none
    health := .none }

@[simp] theorem core_markDirty (session : Session) : session.markDirty.core = session.core := rfl

@[simp] theorem core_clearError (session : Session) : session.clearError.core = session.core := by
  unfold clearError
  split <;> rfl

theorem core_expireError (session : Session) (shownFor : Nat) :
    (session.expireError shownFor).core = session.core := by
  unfold expireError
  split
  · exact session.core_clearError
  · rfl

theorem core_tick (session : Session) : session.tick.core = session.core := by
  unfold tick
  split <;> rfl

theorem core_pollHealth (session : Session) : session.pollHealth.core = session.core := by
  unfold pollHealth
  split <;> rfl

theorem core_perform (session : Session) (action : Action) :
    (session.perform action).core =
      (session.affect (actionEffect session.queryText action)).core := by
  cases action with
  | runQuery =>
      rw [perform, core_markDirty, runQueryText, actionEffect]
      by_cases empty : session.queryText = ""
      · rw [if_pos empty, if_pos empty]
        rfl
      · rw [if_neg empty, if_neg empty]
        rfl
  | clearError => exact session.core_clearError
  | cancelQuery | scrollUp | scrollDown | pageUp | pageDown | top | bottom | quit => rfl

theorem core_handleKey (session : Session) (key : Key) (modifiers : Modifiers)
    (phase : KeyPhase) :
    (session.handleKey key modifiers phase).core =
      (session.affect ((Operation.handleKey key modifiers phase).effect session.isQueryRunning
        session.queryText)).core := by
  cases phase with
  | release | repeated => rfl
  | press =>
      rw [handleKey, if_pos rfl, Operation.effect]
      cases actionOf? session.isQueryRunning key modifiers with
      | some action => exact session.core_perform action
      | none =>
          simp only [affect]
          split <;> rfl

/-- Up to what is around the results, an operation does what its effect says. -/
theorem core_operate (session : Session) (operation : Operation) :
    (session.operate operation).core =
      (session.affect (operation.effect session.isQueryRunning session.queryText)).core := by
  cases operation with
  | handleKey key modifiers phase => exact session.core_handleKey key modifiers phase
  | act action => exact session.core_perform action
  | clearError => exact session.core_clearError
  | expireError shownFor => exact session.core_expireError shownFor
  | tick => exact session.core_tick
  | pollHealth => exact session.core_pollHealth
  | start | cancel | setText | setError | checkServer | takeDirty | resize | pollSchema => rfl

/-! ## Starting a query -/

def Effect.started? : Effect → Option String
  | .start banquetUrl => some banquetUrl
  | _ => none

def startedBy? (session : Session) (operation : Operation) : Option String :=
  (operation.effect session.isQueryRunning session.queryText).started?

/-- A session in which a query has just begun, in the place of the one before it. -/
def begun (session : Session) (banquetUrl : String) : Session :=
  let info := QueryInfo.parse banquetUrl
  { session with
    results := .start banquetUrl
    schema := .waiting session.nextTicket
    active := some { id := session.nextQueryId, finished := false }
    liveTokens := session.nextQueryId :: session.dropHandle.liveTokens
    nextQueryId := session.nextQueryId + 1
    nextTicket := session.nextTicket + 1
    jobs := session.jobs ++ [.schema session.nextTicket info.dataset info.table,
      .query session.nextQueryId banquetUrl] }

/-- Who drops a handle need not cancel its query before. -/
theorem dropHandle_cancelHandle (session : Session) :
    session.cancelHandle.dropHandle = session.dropHandle := by
  simp [dropHandle, cancelHandle]

theorem core_startQuery (session : Session) (banquetUrl : String) :
    (session.startQuery banquetUrl).core = (session.begun banquetUrl).core := by
  simp only [startQuery, dropHandle_cancelHandle, clearError]
  split <;> simp [requestSchema, spawnQuery, begun, core, markDirty, dropHandle, cancelHandle]

theorem Effect.eq_start {effect : Effect} {banquetUrl : String}
    (starts : effect.started? = some banquetUrl) : effect = .start banquetUrl := by
  cases effect with
  | start other =>
      obtain rfl : other = banquetUrl := by simpa [started?] using starts
      rfl
  | nothing | cancel | scroll | checkServer | resize | pollSchema => cases starts

theorem core_operate_of_started {session : Session} {operation : Operation} {banquetUrl : String}
    (starts : session.startedBy? operation = some banquetUrl) :
    (session.operate operation).core = (session.begun banquetUrl).core := by
  rw [core_operate, Effect.eq_start starts]
  exact session.core_startQuery banquetUrl

theorem actionEffect_of_quiet {text : String} {action : Action}
    (quiet : (actionEffect text action).started? = none) :
    actionEffect text action = actionEffect "" action := by
  cases action with
  | runQuery =>
      by_cases empty : text = ""
      · rw [empty]
      · rw [actionEffect, if_neg empty] at quiet
        cases quiet
  | cancelQuery | scrollUp | scrollDown | pageUp | pageDown | top | bottom | clearError | quit =>
      rfl

theorem effect_of_quiet {running : Bool} {text : String} {operation : Operation}
    (quiet : (operation.effect running text).started? = none) :
    operation.effect running text = operation.effect running "" := by
  cases operation with
  | handleKey key modifiers phase =>
      cases phase with
      | release | repeated => rfl
      | press =>
          simp only [Operation.effect] at quiet ⊢
          cases bound : actionOf? running key modifiers with
          | none => rfl
          | some action =>
              rw [bound] at quiet
              exact actionEffect_of_quiet quiet
  | act action => exact actionEffect_of_quiet quiet
  | start | cancel | setText | setError | clearError | expireError | tick | checkServer
  | takeDirty | resize | pollHealth | pollSchema => rfl

end RowStream.Session
