import RowStream.Client
import RowStream.Editor.Key
import RowStream.Results

/-!
# A session

Everything that one run of the program on a terminal remembers: the query bar, the results of
the last query, what is under way in the background, and whether the screen has to be drawn
again.  This module holds what the user does: typing, scrolling, starting and cancelling.

A query has a number, and the numbers grow.  The session holds the handle of the active query, and
only that query may still change the results.  Handle and job share a token: whoever cancels the
query or drops its handle cancels the token, and the job looks at it.
-/

set_option autoImplicit false

namespace RowStream

inductive Job where
  | query (id : Nat) (banquetUrl : String)
  | schema (ticket : Nat) (dataset table : String)
  | health (ticket : Nat)
  deriving DecidableEq, Repr

/-- A question to the server whose answer is picked up later.  Of several ones only the last is
waited for, and its ticket tells its answer from the others'. -/
inductive Lookup (α : Type) where
  | none
  | waiting (ticket : Nat)
  | answered (answer : Except ClientError α)

namespace Lookup

def deliver {α : Type} (lookup : Lookup α) (ticket : Nat) (answer : Except ClientError α) :
    Lookup α :=
  match lookup with
  | .waiting expected => if expected = ticket then .answered answer else lookup
  | _ => lookup

end Lookup

/-- The handle of the query that streams into the results. -/
structure ActiveQuery where
  id : Nat
  /-- Whether its job is done; its last events may still have to be picked up. -/
  finished : Bool
  deriving DecidableEq, Repr

structure Session where
  client : Client
  editor : Editor
  results : Results
  lastError : Option String
  dirty : Bool
  pageSize : Nat
  wantsQuit : Bool
  active : Option ActiveQuery
  /-- The queries whose tokens are not cancelled. -/
  liveTokens : List Nat
  nextQueryId : Nat
  nextTicket : Nat
  online : Option Bool
  health : Lookup Unit
  schema : Lookup (List Column)
  jobs : List Job
  /-- Events of queries that were not picked up yet, oldest first. -/
  updates : List Update

inductive Action where
  | runQuery
  | cancelQuery
  | scrollUp
  | scrollDown
  | pageUp
  | pageDown
  | top
  | bottom
  | clearError
  | quit
  deriving DecidableEq, Repr

inductive KeyPhase where
  | press
  | release
  | repeated
  deriving DecidableEq, Repr

namespace Session

def new (client : Client) : Session :=
  { client, editor := .ofLine "", results := .empty, lastError := none, dirty := true
    pageSize := 20, wantsQuit := false, active := none, liveTokens := [], nextQueryId := 1
    nextTicket := 1, online := none, health := .none, schema := .none, jobs := [], updates := [] }

def markDirty (session : Session) : Session := { session with dirty := true }

/-- Whether the screen has to be drawn again; asking takes the mark away. -/
def takeDirty (session : Session) : Bool × Session :=
  (session.dirty, { session with dirty := false })

/-! ## Errors on display -/

def setError (session : Session) (message : String) : Session :=
  { session with lastError := some message }.markDirty

def clearError (session : Session) : Session :=
  if session.lastError.isSome then { session with lastError := none }.markDirty else session

/-- So long an error is shown, in tenths of a second. -/
def errorDisplayTime : Nat := 50

def expireError (session : Session) (shownFor : Nat) : Session :=
  if errorDisplayTime < shownFor then session.clearError else session

/-! ## Queries -/

def queryText (session : Session) : String := Text.trim session.editor.text

def setQueryText (session : Session) (text : String) : Session :=
  { session with editor := .ofLine text }.markDirty

def isQueryRunning (session : Session) : Bool := session.active.isSome

def requestSchema (session : Session) (banquetUrl : String) : Session :=
  let info := QueryInfo.parse banquetUrl
  let ticket := session.nextTicket
  { session with
    schema := .waiting ticket
    nextTicket := ticket + 1
    jobs := session.jobs ++ [Job.schema ticket info.dataset info.table] }

/-- Cancels the token of the active query. -/
def cancelHandle (session : Session) : Session :=
  { session with
    liveTokens := session.liveTokens.filter (session.active.map ActiveQuery.id ≠ some ·) }

/-- Lets go of the active query.  Whose handle is dropped is cancelled. -/
def dropHandle (session : Session) : Session := { session.cancelHandle with active := none }

/-- Leaves a query to a job, with a token of its own, and holds the handle. -/
def spawnQuery (session : Session) (id : Nat) (banquetUrl : String) : Session :=
  { session with
    jobs := session.jobs ++ [Job.query id banquetUrl]
    liveTokens := id :: session.liveTokens
    active := some { id, finished := false } }

def startQuery (session : Session) (banquetUrl : String) : Session :=
  let id := session.nextQueryId
  let vacant := session.cancelHandle.dropHandle
  let prepared :=
    ({ vacant with results := .start banquetUrl }.clearError).requestSchema banquetUrl
  { prepared.spawnQuery id banquetUrl with nextQueryId := id + 1 }.markDirty

def cancelQuery (session : Session) : Session :=
  match session.active with
  | none => session
  | some _ =>
      { session.cancelHandle.dropHandle with results := session.results.markCancelled }.markDirty

def runQueryText (session : Session) : Session :=
  if session.queryText = "" then session.setError "Enter a Banquet URL"
  else session.startQuery session.queryText

def checkServer (session : Session) : Session :=
  let ticket := session.nextTicket
  { session with
    online := none
    health := .waiting ticket
    nextTicket := ticket + 1
    jobs := session.jobs ++ [Job.health ticket] }

def serverLabel (session : Session) : String :=
  let known :=
    match session.online with
    | some true => "online"
    | some false => "offline"
    | none => "checking"
  session.client.base.serialize ++ " (" ++ known ++ ")"

/-- A running query keeps the clock on the screen moving. -/
def tick (session : Session) : Session :=
  if session.results.status.isRunning then session.markDirty else session

/-! ## Actions and keys -/

def perform (session : Session) (action : Action) : Session :=
  let results := session.results
  let after :=
    match action with
    | .runQuery => session.runQueryText
    | .cancelQuery => session.cancelQuery
    | .scrollUp => { session with results := results.scrollUp 1 }
    | .scrollDown => { session with results := results.scrollDown 1 }
    | .pageUp => { session with results := results.scrollUp session.pageSize }
    | .pageDown => { session with results := results.scrollDown session.pageSize }
    | .top => { session with results := results.scrollTop }
    | .bottom => { session with results := results.scrollBottom }
    | .clearError => session.clearError
    | .quit => { session with wantsQuit := true }
  after.markDirty

/-- The action that a key is bound to.  Escape cancels while a query runs. -/
def actionOf? (running : Bool) (key : Key) (modifiers : Modifiers) : Option Action :=
  match key with
  | .char char =>
      if modifiers = .onlyControl then
        match char with
        | 'q' => some .quit
        | 'c' => some .quit
        | 'k' => some .scrollUp
        | 'j' => some .scrollDown
        | _ => none
      else none
  | .enter => some .runQuery
  | .escape => if running then some .cancelQuery else some .clearError
  | .up => some .scrollUp
  | .down => some .scrollDown
  | .pageUp => some .pageUp
  | .pageDown => some .pageDown
  | .home => if modifiers = .onlyControl then some .top else none
  | .lineEnd => if modifiers = .onlyControl then some .bottom else none
  | _ => none

def handleKey (session : Session) (key : Key) (modifiers : Modifiers) (phase : KeyPhase) :
    Session :=
  if phase = .press then
    match actionOf? session.isQueryRunning key modifiers with
    | some action => session.perform action
    | none =>
        let (changed, editor) := session.editor.press key modifiers
        if changed then { session with editor }.markDirty else { session with editor }
  else session

end Session

end RowStream
