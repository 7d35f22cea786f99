import Mathlib.Data.List.Sort
import RowStream.Proofs.QueryStream
import RowStream.Proofs.Schedule
import RowStream.Screen.Draw

/-!
# When the screen is drawn again

A session that was drawn is marked when it has to be drawn again.  Whatever happens to it, it is
marked or it still looks the same (`Stage.run_redraws`), with two exceptions: asking anew whether
the server is up, and keys that the editor of the query bar does not count as changes, because they
move its cursor only or paste nothing over a selection.
-/

set_option autoImplicit false

namespace RowStream

namespace Screen

theorem drawParagraph_of_isEmpty {area : Area} (empty : area.isEmpty)
    (lines : List (List Styled)) (canvas : Canvas) : drawParagraph area lines canvas = canvas :=
  if_pos empty

theorem Box.draw_of_isEmpty {area : Area} (empty : area.isEmpty) (box : Box) (canvas : Canvas) :
    box.draw area canvas = canvas := if_pos empty

namespace QueryBar

theorem follow_follow {length : Nat} (positive : 0 < length) (start cursor : Nat) :
    follow (follow start cursor length) cursor length = follow start cursor length := by
  unfold follow
  split
  · rw [if_neg (Nat.lt_irrefl cursor), if_neg (by omega)]
  · split
    · rw [if_neg (by omega), if_neg (by omega)]
    · rfl

theorem draw_viewport (area : Area) (editor : Editor) (canvas : Canvas) :
    draw area { editor with viewport := viewport editor area } canvas =
      draw area editor canvas := by
  cases empty : area.isEmpty with
  | true =>
      rw [draw, draw, drawParagraph_of_isEmpty empty, drawParagraph_of_isEmpty empty]
  | false =>
      -- Only a view with a size is settled: an empty one would go on jumping behind the cursor.
      have sizes : 0 < area.width ∧ 0 < area.height := by
        simp only [Area.isEmpty, Bool.or_eq_false_iff, decide_eq_false_iff_not] at empty
        omega
      have settled : viewport { editor with viewport := viewport editor area } area =
          viewport editor area := by
        simp only [viewport, follow_follow sizes.1, follow_follow sizes.2]
      simp only [draw, settled]
      rfl

end QueryBar

end Screen

namespace Session

/-! ## What the screen shows -/

def face (session : Session) : Session :=
  { session with
    dirty := false, pageSize := 0, wantsQuit := false, active := none, liveTokens := []
    nextQueryId := 0, nextTicket := 0, health := .none, schema := .none, jobs := [], updates := [] }

theorem screen_face (session : Session) : session.face.screen = session.screen := rfl

theorem screen_eq_of_face {first second : Session} (same : first.face = second.face) :
    first.screen = second.screen := by
  rw [← screen_face first, same, screen_face]

theorem screen_noteSize (session : Session) (clock : ClockReading) (width height : Nat) :
    (session.noteSize width height).screen clock width height =
      session.screen clock width height := by
  simp only [screen, noteSize, Screen.drawQueryBar, Screen.QueryBar.draw_viewport]
  rfl

/-! ## Marking -/

/-- What was done kept the mark, and it left the mark or the looks of the session behind. -/
structure Marks (before after : Session) : Prop where
  kept : before.dirty = true → after.dirty = true
  shown : after.dirty = true ∨ after.face = before.face

namespace Marks

variable {first second third : Session}

theorem of_dirty (marked : second.dirty = true) : Marks first second :=
  ⟨fun _ => marked, Or.inl marked⟩

theorem of_face (same : second.face = first.face) (dirty_eq : second.dirty = first.dirty) :
    Marks first second :=
  ⟨fun marked => dirty_eq.trans marked, Or.inr same⟩

theorem refl (session : Session) : Marks session session := of_face rfl rfl

theorem trans (earlier : Marks first second) (later : Marks second third) : Marks first third := by
  refine ⟨fun marked => later.kept (earlier.kept marked), ?_⟩
  rcases later.shown with marked | same
  · exact Or.inl marked
  · rcases earlier.shown with marked | before
    · exact Or.inl (later.kept marked)
    · exact Or.inr (same.trans before)

end Marks

theorem marks_clearError (session : Session) : Marks session session.clearError := by
  unfold clearError
  split
  · exact .of_dirty rfl
  · exact .refl session

theorem marks_cancelQuery (session : Session) : Marks session session.cancelQuery := by
  unfold cancelQuery
  split
  · exact .refl session
  · exact .of_dirty rfl

theorem marks_pollHealth (session : Session) : Marks session session.pollHealth := by
  unfold pollHealth
  split
  · exact .of_dirty rfl
  · exact .of_dirty rfl
  · exact .refl session

theorem marks_pollSchema (session : Session) : Marks session session.pollSchema := by
  unfold pollSchema
  split
  · exact .of_dirty rfl
  · exact .of_face rfl rfl
  · exact .refl session

theorem marks_handleKey {session : Session} {key : Key} {modifiers : Modifiers} {phase : KeyPhase}
    (heeded : phase = .press → actionOf? session.isQueryRunning key modifiers = none →
      (session.editor.press key modifiers).1 = true) :
    Marks session (session.handleKey key modifiers phase) := by
  unfold handleKey
  split
  next pressed =>
    split
    next action bound => exact .of_dirty rfl
    next unbound =>
      exact .of_dirty (congrArg dirty (if_pos (heeded pressed unbound)))
  next => exact .refl session

/-- The operations that change the looks of a session without a mark, or take the mark away. -/
def Operation.Forgets (session : Session) : Operation → Prop
  | .checkServer => session.online.isSome
  | .handleKey key modifiers .press =>
      actionOf? session.isQueryRunning key modifiers = none ∧
        (session.editor.press key modifiers).1 = false
  | .takeDirty => True
  | _ => False

theorem marks_operate {session : Session} {operation : Operation}
    (heeds : ¬ operation.Forgets session) : Marks session (session.operate operation) := by
  cases operation with
  | start | act | setText | setError => exact .of_dirty rfl
  | cancel => exact session.marks_cancelQuery
  | clearError => exact session.marks_clearError
  | pollHealth => exact session.marks_pollHealth
  | pollSchema => exact session.marks_pollSchema
  | resize => exact .of_face rfl rfl
  | takeDirty => exact absurd trivial heeds
  | handleKey key modifiers phase =>
      apply marks_handleKey
      intro pressed unbound
      subst pressed
      exact Bool.of_not_eq_false fun unchanged => heeds ⟨unbound, unchanged⟩
  | expireError shownFor =>
      simp only [operate, expireError]
      split
      · exact session.marks_clearError
      · exact .refl session
  | tick =>
      simp only [operate, tick]
      split
      · exact .of_dirty rfl
      · exact .refl session
  | checkServer =>
      have unknown : session.online = none := Option.not_isSome_iff_eq_none.mp heeds
      refine .of_face ?_ rfl
      simp only [operate, checkServer, face, unknown]

/-! ## In the background -/

theorem marks_runJob (network : Http.Network) (session : Session) (job : Job) :
    Marks session (runJob network session job).1 := by
  cases job <;> exact .of_face rfl rfl

theorem marks_settleQuery (session : Session) (finished : Bool) :
    Marks session (session.settleQuery finished) := by
  unfold settleQuery
  split
  · exact .of_face rfl rfl
  · split
    · exact .of_dirty rfl
    · exact .refl session

theorem marks_drainUpdates (session : Session) (finished : Bool) :
    Marks session (session.drainUpdates finished) := by
  have drained : Marks session
      (session.updates.foldl (applyUpdate (session.active.map ActiveQuery.id))
        { session with updates := [] }) := by
    rw [foldl_applyUpdate]
    cases heard : accepted (session.active.map ActiveQuery.id) session.updates with
    | nil => exact .of_face rfl (Bool.or_false _)
    | cons event rest => exact .of_dirty (Bool.or_true _)
  exact drained.trans (marks_settleQuery _ finished)

end Session

namespace Stage

open Session (Marks)

variable {stage : Stage}

theorem marks_takeJobs (stage : Stage) (chosen : Job → Bool) {act : Stage → Job → Stage}
    (marks : ∀ (stage : Stage) (job : Job), Marks stage.session (act stage job).session) :
    Marks stage.session (stage.takeJobs chosen act).session := by
  refine List.foldlRecOn (motive := fun reached => Marks stage.session reached.session) _ act ?_ ?_
  · exact .of_face rfl rfl
  · intro reached marked job _
    exact marked.trans (marks reached job)

theorem marks_move (stage : Stage) (move : Move) :
    Marks stage.session (stage.move move).session := by
  cases move with
  | launch age network =>
      apply marks_takeJobs
      intro reached job
      cases job <;> exact .refl _
  | lookUp age network =>
      apply marks_takeJobs
      intro reached job
      rw [session_runJob]
      exact Session.marks_runJob network reached.session job
  | send age =>
      simp only [move, sendNext]
      split
      · split <;> exact .of_face rfl rfl
      · exact .refl _
  | finish age =>
      simp only [move, finishTask]
      split
      · split <;> exact .of_face rfl rfl
      · exact .refl _

def Forgets (stage : Stage) : Step → Prop
  | .operate operation => operation.Forgets stage.session
  | _ => False

theorem marks_step {step : Step} (heeds : ¬ stage.Forgets step) :
    Marks stage.session (stage.step step).session := by
  cases step with
  | operate operation => exact Session.marks_operate heeds
  | background move => exact stage.marks_move move
  | runJobs network =>
      apply marks_takeJobs
      intro reached job
      rw [session_runJob]
      exact Session.marks_runJob network reached.session job
  | pollUpdates meanwhile =>
      have moved : Marks stage.session (meanwhile.foldl move stage).session :=
        List.foldlRecOn (motive := fun reached => Marks stage.session reached.session) meanwhile
          move (.refl _) fun reached marked step _ => marked.trans (reached.marks_move step)
      exact moved.trans (Session.marks_drainUpdates _ _)

theorem marks_run (stage : Stage) (steps : List Step) :
    Marks stage.session (stage.run steps).session ∨
      ∃ earlier step later, steps = earlier ++ step :: later ∧
        (stage.run earlier).Forgets step := by
  induction steps generalizing stage with
  | nil => exact Or.inl (.refl _)
  | cons step rest inductionHypothesis =>
      by_cases forgets : stage.Forgets step
      · exact Or.inr ⟨[], step, rest, rfl, forgets⟩
      · rcases inductionHypothesis (stage.step step) with marked | ⟨earlier, other, later, eq, lost⟩
        · exact Or.inl ((marks_step forgets).trans marked)
        · exact Or.inr ⟨step :: earlier, other, later, by rw [eq]; rfl, lost⟩

def drawn (stage : Stage) (width height : Nat) : Stage :=
  { stage with session := (stage.session.noteSize width height).takeDirty.2 }

/-- Whatever happens after the screen was drawn, it has to be drawn again or it would still look
the same, unless one of the steps was not marked. -/
theorem run_redraws (stage : Stage) (clock : ClockReading) (width height : Nat)
    (steps : List Step) :
    let after := ((stage.drawn width height).run steps).session
    after.dirty = true ∨
      after.screen clock width height = stage.session.screen clock width height ∨
      ∃ earlier step later, steps = earlier ++ step :: later ∧
        ((stage.drawn width height).run earlier).Forgets step := by
  intro after
  rcases marks_run (stage.drawn width height) steps with marked | forgotten
  · refine marked.shown.imp id fun same => Or.inl ?_
    rw [Session.screen_eq_of_face same]
    exact stage.session.screen_noteSize clock width height
  · exact Or.inr (Or.inr forgotten)

end Stage

/-! ## Two steps that are not marked -/

theorem Session.screen_of_low {height : Nat} (low : height ≤ 3) (session : Session)
    (clock : ClockReading) (width : Nat) :
    session.screen clock width height =
      Screen.drawQueryBar ⟨0, 0, width, height⟩ session (.blank width height) := by
  have areas : Screen.divide width height =
      (⟨0, 0, width, height⟩, ⟨0, height, width, 0⟩, ⟨0, height, width, 0⟩) := by
    simp [Screen.divide, Nat.min_eq_right low]
  have empty : (Screen.Area.mk 0 height width 0).isEmpty := by simp [Screen.Area.isEmpty]
  have inside : (Screen.Area.mk 0 height width 0).inner.isEmpty := by
    simp [Screen.Area.isEmpty, Screen.Area.inner]
  simp only [screen, areas, Screen.drawResults, Screen.drawFooter,
    Screen.Box.draw_of_isEmpty empty, Screen.drawParagraph_of_isEmpty inside, Screen.Table.draw,
    inside, if_true, ite_self]

namespace Stage

/-- The server is known to be up, and is asked once more: the label changes. -/
theorem not_redraws_checkServer :
    let stage := (new Sample.client).run
      [.operate .checkServer, .runJobs (Sample.answering ""), .operate .pollHealth]
    let after := ((stage.drawn 5 1).step (.operate .checkServer)).session
    after.dirty = false ∧ after.screen ⟨0, 0⟩ 5 1 ≠ stage.session.screen ⟨0, 0⟩ 5 1 := by
  intro stage after
  have before : (Screen.drawQueryBar ⟨0, 0, 5, 1⟩ stage.session (.blank 5 1)).glyph 1 0 =
      ⟨['e'], .cyan⟩ := by decide +kernel
  have later : (Screen.drawQueryBar ⟨0, 0, 5, 1⟩ after (.blank 5 1)).glyph 1 0 =
      ⟨['g'], .cyan⟩ := by decide +kernel
  refine ⟨rfl, fun same => ?_⟩
  rw [Session.screen_of_low (by decide), Session.screen_of_low (by decide)] at same
  rw [same, before] at later
  cases later

/-- The cursor goes to the start of a text that is longer than the query bar: the view follows. -/
theorem not_redraws_home :
    let stage := (new Sample.client).run [.operate (.setText "abcd")]
    let after := ((stage.drawn 5 3).step (.operate (.handleKey .home .none .press))).session
    after.dirty = false ∧ after.screen ⟨0, 0⟩ 5 3 ≠ stage.session.screen ⟨0, 0⟩ 5 3 := by
  intro stage after
  have before : (Screen.drawQueryBar ⟨0, 0, 5, 3⟩ stage.session (.blank 5 3)).glyph 1 1 =
      ⟨['c'], .reset⟩ := by
    -- Unlike merge sort, insertion sort can be evaluated.
    simp only [stage, Screen.drawQueryBar, Screen.QueryBar.draw, Screen.QueryBar.pieces,
      List.mergeSort_eq_insertionSort]
    decide +kernel
  have later : (Screen.drawQueryBar ⟨0, 0, 5, 3⟩ after (.blank 5 3)).glyph 1 1 =
      ⟨['a'], .reset⟩ := by
    simp only [stage, after, Screen.drawQueryBar, Screen.QueryBar.draw, Screen.QueryBar.pieces,
      List.mergeSort_eq_insertionSort]
    decide +kernel
  refine ⟨rfl, fun same => ?_⟩
  rw [Session.screen_of_low (by decide), Session.screen_of_low (by decide)] at same
  rw [same, before] at later
  cases later

end Stage

end RowStream
