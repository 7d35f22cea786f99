import RowStream.Screen.Draw

/-!
# Scrolling through results that grow

Rows arrive while the view stands somewhere among them.  Whatever happens to the results, the view
stays within them (`Placed.operate`), and only another query takes rows away or moves them
(`rows_prefix_run`).  So the title names the place of a row, and a window of any height shows the
rows from there on (`run_placed`).
-/

set_option autoImplicit false

namespace RowStream

namespace Results

inductive Operation where
  | start (banquetUrl : String)
  | apply (event : Event)
  | applySchema (schema : List Column)
  | markFailed
  | markCancelled
  | scrollUp (count : Nat)
  | scrollDown (count : Nat)
  | scrollTop
  | scrollBottom

namespace Operation

def IsStart : Operation → Prop
  | .start _ => True
  | _ => False

/-- News of the query that is on the screen. -/
def IsNews : Operation → Prop
  | .apply _ | .applySchema _ | .markFailed | .markCancelled => True
  | _ => False

theorem IsNews.not_isStart {operation : Operation} (news : operation.IsNews) :
    ¬ operation.IsStart := by
  cases operation with
  | start banquetUrl => exact news.elim
  | _ => exact id

end Operation

def operate (results : Results) : Operation → Results
  | .start banquetUrl => start banquetUrl
  | .apply event => results.apply event
  | .applySchema schema => results.applySchema schema
  | .markFailed => results.markFailed
  | .markCancelled => results.markCancelled
  | .scrollUp count => results.scrollUp count
  | .scrollDown count => results.scrollDown count
  | .scrollTop => results.scrollTop
  | .scrollBottom => results.scrollBottom

def run (results : Results) (operations : List Operation) : Results :=
  operations.foldl operate results

/-! ## Rows -/

theorem rows_prefix_apply (results : Results) (event : Event) :
    results.rows <+: (results.apply event).rows := by
  cases event with
  | rows batch => exact List.prefix_append _ _
  | header | error | complete => exact List.prefix_rfl

theorem rows_markFailed (results : Results) : results.markFailed.rows = results.rows := by
  unfold markFailed
  split <;> rfl

theorem rows_markCancelled (results : Results) : results.markCancelled.rows = results.rows := by
  unfold markCancelled
  split <;> rfl

theorem rows_prefix_operate {operation : Operation} (goesOn : ¬ operation.IsStart)
    (results : Results) : results.rows <+: (results.operate operation).rows := by
  cases operation with
  | start banquetUrl => exact absurd trivial goesOn
  | apply event => exact results.rows_prefix_apply event
  | markFailed => simp [operate, rows_markFailed]
  | markCancelled => simp [operate, rows_markCancelled]
  | applySchema | scrollUp | scrollDown | scrollTop | scrollBottom => exact List.prefix_rfl

theorem rows_prefix_run {operations : List Operation}
    (goesOn : ∀ operation ∈ operations, ¬ operation.IsStart) (results : Results) :
    results.rows <+: (results.run operations).rows := by
  induction operations generalizing results with
  | nil => exact List.prefix_rfl
  | cons operation rest inductionHypothesis =>
      have first := rows_prefix_operate (goesOn operation List.mem_cons_self) results
      have later := inductionHypothesis
        (fun other member => goesOn other (List.mem_cons_of_mem operation member))
        (results.operate operation)
      exact first.trans later

/-! ## The place of the view -/

theorem scroll_apply (results : Results) (event : Event) :
    (results.apply event).scroll = results.scroll := by
  cases event <;> rfl

theorem scroll_operate_of_isNews {operation : Operation} (news : operation.IsNews)
    (results : Results) : (results.operate operation).scroll = results.scroll := by
  cases operation with
  | apply event => exact results.scroll_apply event
  | applySchema schema => rfl
  | markFailed =>
      simp only [operate, markFailed]
      split <;> rfl
  | markCancelled =>
      simp only [operate, markCancelled]
      split <;> rfl
  | start | scrollUp | scrollDown | scrollTop | scrollBottom => exact news.elim

theorem scroll_run_of_isNews {operations : List Operation}
    (news : ∀ operation ∈ operations, operation.IsNews) (results : Results) :
    (results.run operations).scroll = results.scroll := by
  induction operations generalizing results with
  | nil => rfl
  | cons operation rest inductionHypothesis =>
      have later := inductionHypothesis
        (fun other member => news other (List.mem_cons_of_mem operation member))
        (results.operate operation)
      exact later.trans (scroll_operate_of_isNews (news operation List.mem_cons_self) results)

/-- The view begins no further down than at the last row. -/
def Placed (results : Results) : Prop := results.scroll ≤ results.maxScroll

theorem placed_iff (results : Results) :
    results.Placed ↔ (results.rows = [] → results.scroll = 0) ∧
      (results.rows ≠ [] → results.scroll < results.rows.length) := by
  simp only [Placed, maxScroll]
  cases results.rows with
  | nil => simp
  | cons row rest =>
      simp only [List.length_cons, Nat.add_sub_cancel]
      constructor
      · intro within
        exact ⟨fun empty => (List.cons_ne_nil row rest empty).elim,
          fun _ => Nat.lt_succ_of_le within⟩
      · intro both
        exact Nat.le_of_lt_succ (both.2 (List.cons_ne_nil row rest))

theorem Placed.of_prefix {before after : Results} (placed : before.Placed)
    (rows : before.rows <+: after.rows) (scroll_eq : after.scroll = before.scroll) :
    after.Placed := by
  have longer := rows.length_le
  unfold Placed maxScroll at placed ⊢
  omega

theorem Placed.operate_of_isNews {results : Results} (placed : results.Placed)
    {operation : Operation} (news : operation.IsNews) : (results.operate operation).Placed :=
  placed.of_prefix (rows_prefix_operate news.not_isStart results)
    (scroll_operate_of_isNews news results)

theorem Placed.operate {results : Results} (placed : results.Placed) (operation : Operation) :
    (results.operate operation).Placed := by
  cases operation with
  | start banquetUrl => exact Nat.zero_le _
  | apply | applySchema | markFailed | markCancelled => exact placed.operate_of_isNews trivial
  | scrollUp count => exact Nat.le_trans (Nat.sub_le _ count) placed
  | scrollDown count => exact Nat.min_le_right _ _
  | scrollTop => exact Nat.zero_le _
  | scrollBottom => exact Nat.le_refl _

theorem Placed.run {results : Results} (placed : results.Placed) (operations : List Operation) :
    (results.run operations).Placed := by
  induction operations generalizing results with
  | nil => exact placed
  | cons operation rest inductionHypothesis => exact inductionHypothesis (placed.operate operation)

theorem placed_empty : empty.Placed := Nat.le_refl 0

/-! ## What is shown of it -/

theorem visibleRows_eq (results : Results) (height : Nat) :
    results.visibleRows height =
      (results.rows.take (min (results.scroll + height) results.rows.length)).drop
        results.scroll := by
  rw [visibleRows, List.drop_take, List.take_eq_take_iff, List.length_drop]
  omega

theorem visibleRows_ne_nil {results : Results} (within : results.scroll < results.rows.length)
    {height : Nat} (positive : 0 < height) : results.visibleRows height ≠ [] := by
  intro none
  have lengths := congrArg List.length none
  rw [visibleRows, List.length_take, List.length_drop, List.length_nil] at lengths
  omega

theorem resultsTitle_of_rows {results : Results} (some : results.rows ≠ []) :
    Screen.resultsTitle results =
      " Results" ++ (results.info.map fun info => " " ++ info.table ++ " ").getD "" ++
        ("[" ++ toString (results.scroll + 1) ++ "/" ++ toString results.rows.length ++ "] ") := by
  have notEmpty : results.rows.isEmpty = false := List.isEmpty_eq_false_iff.mpr some
  simp only [Screen.resultsTitle, notEmpty, Bool.false_eq_true, if_false]
  cases results.info <;> rfl

/-- Whatever happened to the results, the view begins at one of their rows, which is named in the
title and is the first one in the window; and what comes later leaves rows and view in place,
unless another query starts or the view is scrolled. -/
theorem run_placed (operations : List Operation) :
    let results := empty.run operations
    (results.rows = [] → results.scroll = 0) ∧
    (results.rows ≠ [] →
      results.scroll < results.rows.length ∧
      (∃ position, position = results.scroll + 1 ∧
        1 ≤ position ∧ position ≤ results.rows.length ∧
        Screen.resultsTitle results =
          " Results" ++ (results.info.map fun info => " " ++ info.table ++ " ").getD "" ++
            ("[" ++ toString position ++ "/" ++ toString results.rows.length ++ "] ")) ∧
      ∀ height, 0 < height →
        results.visibleRows height ≠ [] ∧
        results.visibleRows height =
          (results.rows.take (min (results.scroll + height) results.rows.length)).drop
            results.scroll) ∧
    (∀ later, (∀ operation ∈ later, ¬ operation.IsStart) →
      results.rows <+: (results.run later).rows) ∧
    ∀ later, (∀ operation ∈ later, operation.IsNews) →
      (results.run later).scroll = results.scroll := by
  intro results
  obtain ⟨top, within⟩ := results.placed_iff.mp (placed_empty.run operations)
  refine ⟨top, fun some => ⟨within some, ?_, ?_⟩,
    fun later goesOn => rows_prefix_run goesOn results,
    fun later news => scroll_run_of_isNews news results⟩
  · exact ⟨results.scroll + 1, rfl, Nat.le_add_left 1 _, within some, resultsTitle_of_rows some⟩
  · intro height positive
    exact ⟨visibleRows_ne_nil (within some) positive, results.visibleRows_eq height⟩

/-- The view stands at the second of two rows when the third one comes, and another query starts
later on. -/
theorem run_placed_grown :
    let earlier : List Operation :=
      [.start "a.sqlite/t", .apply (.rows [[.null], [.null]]), .scrollBottom]
    let later : List Operation := [.apply (.rows [[.boolean true]]), .applySchema []]
    let results := empty.run earlier
    let restarted := empty.run (earlier ++ [.start "b.sqlite/t"])
    results.rows ≠ [] ∧ (∀ operation ∈ later, operation.IsNews) ∧ restarted.rows = [] ∧
      results.scroll = 1 ∧ results.scroll < results.rows.length ∧ results.visibleRows 5 ≠ [] ∧
      results.rows <+: (results.run later).rows ∧ (results.run later).scroll = 1 ∧
      restarted.scroll = 0 := by
  intro earlier later results restarted
  have some : results.rows ≠ [] := List.cons_ne_nil _ _
  have news : ∀ operation ∈ later, operation.IsNews := by
    intro operation member
    simp only [later, List.mem_cons, List.not_mem_nil, or_false] at member
    rcases member with rfl | rfl <;> trivial
  obtain ⟨_, shown, kept, still⟩ := run_placed earlier
  obtain ⟨within, _, windows⟩ := shown some
  refine ⟨some, news, rfl, rfl, within, (windows 5 (by decide)).1, ?_, still later news, ?_⟩
  · exact kept later fun operation member => (news operation member).not_isStart
  · exact (run_placed (earlier ++ [.start "b.sqlite/t"])).1 rfl

end Results

end RowStream
