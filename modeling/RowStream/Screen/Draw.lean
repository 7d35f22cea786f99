import RowStream.Screen.Box
import RowStream.Screen.QueryBar
import RowStream.Screen.Table
import RowStream.Screen.Wrap
import RowStream.Session.Basic

/-!
# Drawing a session

The screen is divided into the query bar, the results and the footer, each in a box.  Drawing
also tells the session how many rows fit, which is how far the page keys scroll, and where the
view of the query bar is.
-/

set_option autoImplicit false

namespace RowStream.Screen

def divide (width height : Nat) : Area × Area × Area :=
  let top := min 3 height
  let bottom := min 3 (height - top)
  let middle := height - top - bottom
  (⟨0, 0, width, top⟩, ⟨0, top, width, middle⟩, ⟨0, top + middle, width, bottom⟩)

/-! ## Query bar -/

def drawQueryBar (area : Area) (session : Session) (canvas : Canvas) : Canvas :=
  let box : Box :=
    { borderColor := some (if session.results.status.isRunning then .yellow else .cyan)
      titleColor := some .cyan
      title := some " Banquet URL "
      footnote := some (" " ++ session.serverLabel ++ " ") }
  (canvas |> box.draw area) |> QueryBar.draw area.inner session.editor

/-! ## Results -/

/-- The table and the position in it. -/
def resultsTitle (results : Results) : String :=
  let table := match results.info with
    | some info => " " ++ info.table ++ " "
    | none => ""
  let position :=
    if results.rows.isEmpty then ""
    else "[" ++ toString (results.scroll + 1) ++ "/" ++ toString results.rows.length ++ "] "
  " Results" ++ table ++ position

def emptyMessage : QueryStatus → String
  | .idle => "Type a Banquet URL and press Enter..."
  | .running => "Waiting for results..."
  | _ => "No rows."

def messageSpans (results : Results) : List Span :=
  ⟨emptyMessage results.status, some .darkGray⟩ ::
    results.errors.map fun message => ⟨"X " ++ message, some .red⟩

def drawResults (area : Area) (results : Results) (canvas : Canvas) : Canvas :=
  let box : Box :=
    { borderColor := none, titleColor := some .cyan, title := some (resultsTitle results)
      footnote := none }
  let boxed := canvas |> box.draw area
  if results.columnCount = 0 then
    let lines := (messageSpans results).flatMap fun span => wrapLine area.inner.width span.graphemes
    drawParagraph area.inner lines boxed
  else Table.draw area.inner results (Table.bodyHeight area) boxed

/-! ## Footer -/

def keyHints (running : Bool) : List (String × String) :=
  if running then [("Esc", "Cancel"), ("↑/↓ Ctrl+J/K", "Scroll"), ("Ctrl+Q", "Quit")]
  else
    [("Enter", "Run"), ("↑/↓ Ctrl+J/K", "Scroll"), ("PgUp/Dn", "Page"),
      ("Ctrl+Home/End", "Top/Bottom"), ("Ctrl+Q", "Quit")]

def statusColor (results : Results) : Color :=
  match results.status with
  | .idle => .darkGray
  | .running => .yellow
  | .completed _ => if results.errors.isEmpty then .green else .yellow
  | .failed _ => .red
  | .cancelled => .magenta

def QueryStatus.isCompleted : QueryStatus → Bool
  | .completed _ => true
  | _ => false

def statusSpan (session : Session) (clock : ClockReading) : Span :=
  match session.lastError with
  | some message => ⟨message, some .red⟩
  | none => ⟨session.results.statusLine clock, some (statusColor session.results)⟩

/-- The number of errors, unless the status line names them already. -/
def errorCountSpan? (session : Session) : Option Span :=
  let results := session.results
  if !results.errors.isEmpty && session.lastError.isNone &&
      !QueryStatus.isCompleted results.status then
    some ⟨"(" ++ toString results.errors.length ++ " errors) ", some .red⟩
  else none

def hintSpans (hint : String × String) : List Span :=
  [⟨" " ++ hint.1 ++ " ", some .white⟩, ⟨" " ++ hint.2 ++ " ", none⟩, ⟨" ", none⟩]

def footerSpans (session : Session) (clock : ClockReading) : List Span :=
  [statusSpan session clock, ⟨"  ", none⟩] ++ (errorCountSpan? session).toList ++
    (keyHints session.results.status.isRunning).flatMap hintSpans

def drawFooter (area : Area) (session : Session) (clock : ClockReading) (canvas : Canvas) :
    Canvas :=
  let box : Box :=
    { borderColor := none, titleColor := some .cyan
      title := (session.results.summaryLine? clock).map fun line => " " ++ line ++ " "
      footnote := none }
  let line := (footerSpans session clock).flatMap Span.graphemes
  (canvas |> box.draw area) |>
    drawParagraph area.inner [truncateLine area.inner.width 0 0 line]

end Screen

namespace Session

/-- What the session learns from being drawn at a size. -/
def noteSize (session : Session) (width height : Nat) : Session :=
  let (bar, results, _) := Screen.divide width height
  { session with
    pageSize := max 1 (Screen.Table.bodyHeight results)
    editor := { session.editor with
      viewport := Screen.QueryBar.viewport session.editor bar.inner } }

def screen (session : Session) (clock : ClockReading) (width height : Nat) : Screen.Canvas :=
  let (bar, results, footer) := Screen.divide width height
  ((Screen.Canvas.blank width height |> Screen.drawQueryBar bar session)
    |> Screen.drawResults results session.results)
    |> Screen.drawFooter footer session clock

end Session

end RowStream
