import RowStream.Causes

/-!
# What an error is said to be caused by

`describeCauses` passes over a cause only where the line that it has so far holds the cause
already, be it in one message or across the joint between two.  So the line never loses what it
says (`prefix_describeCauses`), no message of the chain is missing from it (`occurs_of_mem`), and a
line that holds all causes is left alone (`describeCauses_eq_self_iff`).
-/

set_option autoImplicit false

namespace RowStream

theorem occursIn_iff (part text : List Char) : occursIn part text = true ↔ part <:+: text := by
  induction text with
  | nil => rw [occursIn, List.isEmpty_iff, List.infix_nil]
  | cons char rest inductionHypothesis =>
      rw [occursIn, Bool.or_eq_true, List.isPrefixOf_iff_prefix, inductionHypothesis,
        List.infix_cons_iff]

theorem addCause_of_occurs {message cause : String} (occurs : cause.toList <:+: message.toList) :
    addCause message cause = message :=
  if_pos ((occursIn_iff _ _).mpr occurs)

theorem addCause_of_missing {message cause : String}
    (missing : ¬ cause.toList <:+: message.toList) :
    addCause message cause = message ++ ": " ++ cause :=
  if_neg ((not_congr (occursIn_iff _ _)).mpr missing)

theorem prefix_addCause (message cause : String) :
    message.toList <+: (addCause message cause).toList := by
  by_cases occurs : cause.toList <:+: message.toList
  · simp [addCause_of_occurs occurs]
  · rw [addCause_of_missing occurs, String.toList_append, String.toList_append, List.append_assoc]
    exact List.prefix_append _ _

theorem occurs_addCause (message cause : String) :
    cause.toList <:+: (addCause message cause).toList := by
  by_cases occurs : cause.toList <:+: message.toList
  · rw [addCause_of_occurs occurs]
    exact occurs
  · rw [addCause_of_missing occurs, String.toList_append]
    exact (List.suffix_append _ _).isInfix

/-! ## Nothing is missing -/

theorem prefix_describeCauses (message : String) (causes : List String) :
    message.toList <+: (describeCauses message causes).toList := by
  induction causes generalizing message with
  | nil => exact List.prefix_refl _
  | cons cause rest inductionHypothesis =>
      exact (prefix_addCause message cause).trans (inductionHypothesis (addCause message cause))

theorem describeCauses_append (message : String) (before after : List String) :
    describeCauses message (before ++ after) =
      describeCauses (describeCauses message before) after :=
  List.foldl_append

theorem occurs_of_mem {message text : String} {causes : List String}
    (member : text ∈ message :: causes) :
    text.toList <:+: (describeCauses message causes).toList := by
  rcases List.mem_cons.mp member with rfl | later
  · exact (prefix_describeCauses text causes).isInfix
  · obtain ⟨before, after, rfl⟩ := List.append_of_mem later
    have added := occurs_addCause (describeCauses message before) text
    have kept := prefix_describeCauses (addCause (describeCauses message before) text) after
    rw [describeCauses_append]
    exact added.trans kept.isInfix

theorem describeCauses_eq_self_iff (message : String) (causes : List String) :
    describeCauses message causes = message ↔
      ∀ cause ∈ causes, cause.toList <:+: message.toList := by
  constructor
  · intro same cause member
    have occurs := occurs_of_mem (List.mem_cons_of_mem message member)
    rwa [same] at occurs
  · intro occur
    induction causes with
    | nil => rfl
    | cons cause rest inductionHypothesis =>
        obtain ⟨first, others⟩ := List.forall_mem_cons.mp occur
        have unchanged := addCause_of_occurs first
        rw [describeCauses, List.foldl_cons, unchanged]
        exact inductionHypothesis others

/-! ## Which causes are told -/

namespace Chain

/-- Each cause with whether it is told: it is, unless the line holds it when its turn comes. -/
def choices : String → List String → List (String × Bool)
  | _, [] => []
  | line, cause :: rest =>
      (cause, !occursIn cause.toList line.toList) :: choices (addCause line cause) rest

def told (choices : List (String × Bool)) : List String :=
  (choices.filter Prod.snd).map Prod.fst

theorem map_choices (message : String) (causes : List String) :
    (choices message causes).map Prod.fst = causes := by
  induction causes generalizing message with
  | nil => rfl
  | cons cause rest inductionHypothesis =>
      rw [choices, List.map_cons, inductionHypothesis]

theorem told_sublist (choices : List (String × Bool)) :
    (told choices).Sublist (choices.map Prod.fst) :=
  List.filter_sublist.map Prod.fst

theorem intercalate_join (separator first second : String) (rest : List String) :
    separator.intercalate (first :: second :: rest) =
      separator.intercalate ((first ++ separator ++ second) :: rest) := by
  cases rest with
  | nil =>
      rw [String.intercalate_cons_cons, String.intercalate_singleton,
        String.intercalate_singleton]
  | cons third others => simp only [String.intercalate_cons_cons, String.append_assoc]

theorem describeCauses_eq_intercalate (message : String) (causes : List String) :
    describeCauses message causes =
      ": ".intercalate (message :: told (choices message causes)) := by
  induction causes generalizing message with
  | nil => exact String.intercalate_singleton.symm
  | cons cause rest inductionHypothesis =>
      have next := inductionHypothesis (addCause message cause)
      rw [describeCauses, List.foldl_cons]
      refine next.trans ?_
      by_cases occurs : cause.toList <:+: message.toList
      · have untold := (occursIn_iff _ _).mpr occurs
        rw [choices, untold, addCause_of_occurs occurs]
        rfl
      · have isTold := (Bool.not_eq_true _).mp ((not_congr (occursIn_iff _ _)).mpr occurs)
        rw [choices, isTold, addCause_of_missing occurs, ← intercalate_join]
        rfl

theorem untold_iff {message cause : String} {causes : List String} {isTold : Bool}
    {before after : List (String × Bool)}
    (shape : choices message causes = before ++ (cause, isTold) :: after) :
    isTold = false ↔
      cause.toList <:+: (describeCauses message (before.map Prod.fst)).toList := by
  induction before generalizing message causes with
  | nil =>
      cases causes with
      | nil => cases shape
      | cons first rest =>
          obtain ⟨same, _⟩ := List.cons.inj shape
          obtain ⟨rfl, rfl⟩ := Prod.mk.inj same
          rw [Bool.not_eq_false', occursIn_iff]
          rfl
  | cons entry others inductionHypothesis =>
      cases causes with
      | nil => cases shape
      | cons first rest =>
          obtain ⟨same, later⟩ := List.cons.inj shape
          rw [← same]
          exact inductionHypothesis later

end Chain

/-- The line of an error begins with its own message and holds the messages of all causes.  It
consists of that message and those of some causes, in order, and a cause is left out exactly when it
occurs in the line as it was before.  Describing the line by the same causes changes nothing. -/
theorem describeCauses_tells (message : String) (causes : List String) :
    let line := describeCauses message causes
    message.toList <+: line.toList ∧
      (∀ text ∈ message :: causes, text.toList <:+: line.toList) ∧
      (∃ choice : List (String × Bool), choice.map Prod.fst = causes ∧
        (Chain.told choice).Sublist causes ∧ line = ": ".intercalate (message :: Chain.told choice) ∧
        ∀ before cause isTold after, choice = before ++ (cause, isTold) :: after →
          (isTold = false ↔
            cause.toList <:+: (describeCauses message (before.map Prod.fst)).toList)) ∧
      describeCauses line causes = line := by
  intro line
  have causes_eq := Chain.map_choices message causes
  have occur : ∀ text ∈ message :: causes, text.toList <:+: line.toList :=
    fun text member => occurs_of_mem member
  refine ⟨prefix_describeCauses message causes, occur, ?_, ?_⟩
  · refine ⟨Chain.choices message causes, causes_eq, ?_, ?_, ?_⟩
    · have subsequence := Chain.told_sublist (Chain.choices message causes)
      rwa [causes_eq] at subsequence
    · exact Chain.describeCauses_eq_intercalate message causes
    · intro before cause isTold after shape
      exact Chain.untold_iff shape
  · rw [describeCauses_eq_self_iff]
    exact (List.forall_mem_cons.mp occur).2

/-- A cause may be held by two messages and the joint between them. -/
example : describeCauses "read" ["reset", "reset", "ad: re", ""] = "read: reset" := by decide

end RowStream
