import Mathlib.Logic.Function.Iterate
import RowStream.Proofs.QueryStream
import RowStream.Screen.Draw

/-!
# Paging through the results

A page key scrolls by as many rows as the last drawing found room for, and not beyond the last row.
`pressed_pageDown` and `pressed_pageUp` say where the view is after so many presses.  A step is
never wider than the window, so no row is left out on the way (`pages_show_every_row`).
-/

set_option autoImplicit false

namespace RowStream

/-! ## Windows on the way -/

section Windows

variable (position : Nat → Nat) {size index : Nat}

theorem exists_window_down (above : position 0 ≤ index)
    (steps : ∀ count, position (count + 1) ≤ position count + size) (count : Nat)
    (reached : index < position count + size) :
    ∃ earlier ≤ count, position earlier ≤ index ∧ index < position earlier + size := by
  induction count with
  | zero => exact ⟨0, Nat.le_refl 0, above, reached⟩
  | succ count inductionHypothesis =>
      by_cases passed : position (count + 1) ≤ index
      · exact ⟨count + 1, Nat.le_refl _, passed, reached⟩
      · have step := steps count
        obtain ⟨earlier, le, window⟩ := inductionHypothesis (by omega)
        exact ⟨earlier, Nat.le_succ_of_le le, window⟩

theorem exists_window_up (below : index < position 0 + size)
    (steps : ∀ count, position count ≤ position (count + 1) + size) (count : Nat)
    (reached : position count ≤ index) :
    ∃ earlier ≤ count, position earlier ≤ index ∧ index < position earlier + size := by
  induction count with
  | zero => exact ⟨0, Nat.le_refl 0, reached, below⟩
  | succ count inductionHypothesis =>
      by_cases inside : index < position (count + 1) + size
      · exact ⟨count + 1, Nat.le_refl _, reached, inside⟩
      · have step := steps count
        obtain ⟨earlier, le, window⟩ := inductionHypothesis (by omega)
        exact ⟨earlier, Nat.le_succ_of_le le, window⟩

end Windows

namespace Screen.Table

/-- A row is in one of the lines of the table, which has a border around this area: it is the one
with this index. -/
def Shows (area : Area) (results : Results) (index : Nat) (row : Row) : Prop :=
  ∃ line, headerHeight + line < area.inner.height ∧
    (results.visibleRows (bodyHeight area))[line]? = some row ∧ results.scroll + line = index

theorem shows_of_window {area : Area} {results : Results} {index : Nat} {row : Row}
    (present : results.rows[index]? = some row) (above : results.scroll ≤ index)
    (below : index < results.scroll + bodyHeight area) : Shows area results index row := by
  have line_lt : index - results.scroll < bodyHeight area := by omega
  have index_eq : results.scroll + (index - results.scroll) = index := by omega
  refine ⟨index - results.scroll, ?_, ?_, index_eq⟩
  · rw [bodyHeight] at line_lt
    omega
  · rw [Results.visibleRows, List.getElem?_take_of_lt line_lt, List.getElem?_drop, index_eq,
      present]

end Screen.Table

namespace Session

def pressed (session : Session) (key : Key) (modifiers : Modifiers) (count : Nat) : Session :=
  (fun current => current.handleKey key modifiers .press)^[count] session

theorem pressed_succ (session : Session) (key : Key) (modifiers : Modifiers) (count : Nat) :
    session.pressed key modifiers (count + 1) =
      (session.pressed key modifiers count).handleKey key modifiers .press :=
  Function.iterate_succ_apply' _ count session

/-! ## Where the page keys lead -/

theorem pressed_pageDown {session : Session} (atTop : session.results.scroll = 0)
    (modifiers : Modifiers) (count : Nat) :
    (session.pressed .pageDown modifiers count).pageSize = session.pageSize ∧
      (session.pressed .pageDown modifiers count).results =
        { session.results with
          scroll := min (count * session.pageSize) session.results.maxScroll } := by
  induction count with
  | zero =>
      have start : min (0 * session.pageSize) session.results.maxScroll =
          session.results.scroll := by rw [Nat.zero_mul, Nat.zero_min, atTop]
      exact ⟨rfl, by rw [start]; rfl⟩
  | succ count inductionHypothesis =>
      obtain ⟨pageSize_eq, results_eq⟩ := inductionHypothesis
      have scrolled : (session.pressed .pageDown modifiers (count + 1)).results =
          (session.pressed .pageDown modifiers count).results.scrollDown
            (session.pressed .pageDown modifiers count).pageSize := by
        rw [pressed_succ]
        rfl
      refine ⟨?_, ?_⟩
      · rw [pressed_succ]
        exact pageSize_eq
      · rw [scrolled, results_eq, pageSize_eq, Nat.succ_mul]
        simp only [Results.scrollDown, Results.maxScroll]
        congr 1
        omega

theorem pressed_pageUp {session : Session}
    (atBottom : session.results.scroll = session.results.maxScroll) (modifiers : Modifiers)
    (count : Nat) :
    (session.pressed .pageUp modifiers count).pageSize = session.pageSize ∧
      (session.pressed .pageUp modifiers count).results =
        { session.results with
          scroll := session.results.maxScroll - count * session.pageSize } := by
  induction count with
  | zero =>
      have start : session.results.maxScroll - 0 * session.pageSize =
          session.results.scroll := by rw [Nat.zero_mul, Nat.sub_zero, atBottom]
      exact ⟨rfl, by rw [start]; rfl⟩
  | succ count inductionHypothesis =>
      obtain ⟨pageSize_eq, results_eq⟩ := inductionHypothesis
      have scrolled : (session.pressed .pageUp modifiers (count + 1)).results =
          (session.pressed .pageUp modifiers count).results.scrollUp
            (session.pressed .pageUp modifiers count).pageSize := by
        rw [pressed_succ]
        rfl
      refine ⟨?_, ?_⟩
      · rw [pressed_succ]
        exact pageSize_eq
      · rw [scrolled, results_eq, pageSize_eq, Nat.succ_mul]
        simp only [Results.scrollUp]
        congr 1
        omega

variable {session : Session} {area : Screen.Area} {index : Nat} {row : Row}

theorem pageDown_shows (atTop : session.results.scroll = 0) (modifiers : Modifiers)
    (pageSize_eq : session.pageSize = Screen.Table.bodyHeight area)
    (positive : 0 < session.pageSize) (present : session.results.rows[index]? = some row) :
    ∃ count ≤ session.results.rows.length,
      Screen.Table.Shows area (session.pressed .pageDown modifiers count).results index row := by
  obtain ⟨index_lt, _⟩ := List.getElem?_eq_some_iff.mp present
  have wide := Nat.le_mul_of_pos_right session.results.rows.length positive
  have steps : ∀ count, min ((count + 1) * session.pageSize) session.results.maxScroll ≤
      min (count * session.pageSize) session.results.maxScroll + session.pageSize := by
    intro count
    rw [Nat.succ_mul]
    omega
  have reached : index < min (session.results.rows.length * session.pageSize)
      session.results.maxScroll + session.pageSize := by
    rw [Results.maxScroll]
    omega
  obtain ⟨count, le, above, below⟩ := exists_window_down
    (fun count => min (count * session.pageSize) session.results.maxScroll) (by simp) steps _
    reached
  refine ⟨count, le, ?_⟩
  rw [(pressed_pageDown atTop modifiers count).2]
  exact Screen.Table.shows_of_window present above (pageSize_eq ▸ below)

theorem pageUp_shows (atBottom : session.results.scroll = session.results.maxScroll)
    (modifiers : Modifiers) (pageSize_eq : session.pageSize = Screen.Table.bodyHeight area)
    (positive : 0 < session.pageSize) (present : session.results.rows[index]? = some row) :
    ∃ count ≤ session.results.rows.length,
      Screen.Table.Shows area (session.pressed .pageUp modifiers count).results index row := by
  obtain ⟨index_lt, _⟩ := List.getElem?_eq_some_iff.mp present
  have wide := Nat.le_mul_of_pos_right session.results.rows.length positive
  have below : index < session.results.maxScroll - 0 * session.pageSize + session.pageSize := by
    rw [Results.maxScroll]
    omega
  have steps : ∀ count, session.results.maxScroll - count * session.pageSize ≤
      session.results.maxScroll - (count + 1) * session.pageSize + session.pageSize := by
    intro count
    rw [Nat.succ_mul]
    omega
  have reached : session.results.maxScroll - session.results.rows.length * session.pageSize ≤
      index := by
    rw [Results.maxScroll]
    omega
  obtain ⟨count, le, above, below⟩ := exists_window_up
    (fun count => session.results.maxScroll - count * session.pageSize) below steps _ reached
  refine ⟨count, le, ?_⟩
  rw [(pressed_pageUp atBottom modifiers count).2]
  exact Screen.Table.shows_of_window present above (pageSize_eq ▸ below)

/-- After the session was drawn, the page keys lead from the top to the last row and from the
bottom to the first one, and every row is on the screen on the way. -/
theorem pages_show_every_row (session : Session) (modifiers : Modifiers) {width height : Nat}
    (roomy : 0 < Screen.Table.bodyHeight (Screen.divide width height).2.1) :
    let area := (Screen.divide width height).2.1
    let rows := session.results.rows
    let drawn := session.noteSize width height
    let down := (drawn.handleKey .home .onlyControl .press).pressed .pageDown modifiers
    let up := (drawn.handleKey .lineEnd .onlyControl .press).pressed .pageUp modifiers
    drawn.pageSize = Screen.Table.bodyHeight area ∧
    ((∀ count, (down count).results.scroll = min (count * drawn.pageSize) (rows.length - 1)) ∧
      (∀ count, rows.length ≤ count → (down count).results.scroll = rows.length - 1) ∧
      ∀ index row, rows[index]? = some row →
        ∃ count ≤ rows.length, Screen.Table.Shows area (down count).results index row) ∧
    ((∀ count, (up count).results.scroll = rows.length - 1 - count * drawn.pageSize) ∧
      (∀ count, rows.length ≤ count → (up count).results.scroll = 0) ∧
      ∀ index row, rows[index]? = some row →
        ∃ count ≤ rows.length, Screen.Table.Shows area (up count).results index row) := by
  intro area rows drawn down up
  have pageSize_eq : drawn.pageSize = Screen.Table.bodyHeight area := Nat.max_eq_right roomy
  have positive : 0 < drawn.pageSize := pageSize_eq ▸ roomy
  have atTop : (drawn.handleKey .home .onlyControl .press).results.scroll = 0 := rfl
  have atBottom : (drawn.handleKey .lineEnd .onlyControl .press).results.scroll =
      (drawn.handleKey .lineEnd .onlyControl .press).results.maxScroll := rfl
  have downward : ∀ count,
      (down count).results.scroll = min (count * drawn.pageSize) (rows.length - 1) :=
    fun count => congrArg Results.scroll (pressed_pageDown atTop modifiers count).2
  have upward : ∀ count,
      (up count).results.scroll = rows.length - 1 - count * drawn.pageSize :=
    fun count => congrArg Results.scroll (pressed_pageUp atBottom modifiers count).2
  refine ⟨pageSize_eq, ⟨downward, fun count many => ?_, fun index row present => ?_⟩,
    ⟨upward, fun count many => ?_, fun index row present => ?_⟩⟩
  · have wide := Nat.le_mul_of_pos_right count positive
    rw [downward]
    omega
  · exact pageDown_shows atTop modifiers pageSize_eq positive present
  · have wide := Nat.le_mul_of_pos_right count positive
    rw [upward]
    omega
  · exact pageUp_shows atBottom modifiers pageSize_eq positive present

/-- Two of five rows fit, so that the last step down and the last step up are cut short. -/
theorem pages_show_every_row_five :
    let rows : List Row := [[.boolean true], [.null], [.null], [.null], [.boolean false]]
    let session := { new Sample.client with results := { Results.empty with rows } }
    let area := (Screen.divide 80 12).2.1
    let drawn := session.noteSize 80 12
    let down := (drawn.handleKey .home .onlyControl .press).pressed .pageDown .none
    let up := (drawn.handleKey .lineEnd .onlyControl .press).pressed .pageUp .none
    0 < Screen.Table.bodyHeight area ∧ rows[4]? = some [.boolean false] ∧ 5 ≤ 7 ∧
      drawn.pageSize = 2 ∧ (down 1).results.scroll = 2 ∧ (down 7).results.scroll = 4 ∧
      (∃ count ≤ 5, Screen.Table.Shows area (down count).results 4 [.boolean false]) ∧
      (up 1).results.scroll = 2 ∧ (up 7).results.scroll = 0 ∧
      ∃ count ≤ 5, Screen.Table.Shows area (up count).results 4 [.boolean false] := by
  intro rows session area drawn down up
  have roomy : 0 < Screen.Table.bodyHeight area := by decide
  obtain ⟨pageSize_eq, ⟨downward, downRests, downShows⟩, upward, upRests, upShows⟩ :=
    session.pages_show_every_row .none roomy
  exact ⟨roomy, rfl, by decide, pageSize_eq, downward 1, downRests 7 (by decide),
    downShows 4 _ rfl, upward 1, upRests 7 (by decide), upShows 4 _ rfl⟩

end Session

end RowStream
