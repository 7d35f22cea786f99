import RowStream.Json.Value

/-!
# Reading back what was written

`Json.Renders` relates the bytes of a JSON text to the value that they spell, in any place where a
value may stand.  Two things make it compose.  A scanner that has read the bytes of a value stands
as if it were between two tokens, but for a number, which more digits would make longer; and what
follows a value is white space, a comma or a closing bracket.  A builder that is given the tokens of
a value hands the value to whatever is open around it.

`Json.Writes` says besides that the text holds no line end, as it is with everything that is written
here.
-/

set_option autoImplicit false

namespace RowStream.Json

/-! ## Bytes and tokens -/

namespace Scanner

/-- The scanner has found these tokens, last one first, and is between two tokens, or inside one
that only more bytes of a number can make longer. -/
structure Stands (scanner : Scanner) (found : List Token) : Prop where
  step_eq : ∀ byte, isNumeric byte = false → scanner.step byte = begin? found byte
  finish_eq : scanner.finish = some found.reverse

theorem stands_between (found : List Token) : Stands ⟨.between, found⟩ found where
  step_eq _ _ := rfl
  finish_eq := rfl

theorem stands_word (found : List Token) (token : Token) :
    Stands ⟨.word [] token, found⟩ (token :: found) where
  step_eq _ _ := rfl
  finish_eq := rfl

theorem stands_number (found : List Token) {bytes : Bytes} {literal : NumberLiteral}
    (read : NumberLiteral.read? bytes = some literal) :
    Stands ⟨.number bytes.reverse, found⟩ (.number literal :: found) where
  step_eq byte other := by
    simp only [step, other, Bool.false_eq_true, if_false, endNumber?, List.reverse_reverse, read]
    rfl
  finish_eq := by
    simp only [finish, endNumber?, List.reverse_reverse, read]
    rfl

def run (scanner : Scanner) (bytes : Bytes) : Option Scanner := bytes.foldlM step scanner

theorem run_append (scanner : Scanner) (first second : Bytes) :
    scanner.run (first ++ second) = (scanner.run first).bind (·.run second) :=
  List.foldlM_append

theorem Stands.run_cons {scanner : Scanner} {found : List Token} (stands : scanner.Stands found)
    {byte : UInt8} (other : isNumeric byte = false) (rest : Bytes) :
    scanner.run (byte :: rest) = run ⟨.between, found⟩ (byte :: rest) := by
  rw [run, run, List.foldlM_cons, List.foldlM_cons, stands.step_eq byte other]
  rfl

end Scanner

open Scanner (Stands isNumeric)

/-- Between two tokens these bytes are read as those tokens. -/
def Spells (bytes : Bytes) (tokens : List Token) : Prop :=
  ∀ found, ∃ scanner, Scanner.run ⟨.between, found⟩ bytes = some scanner ∧
    scanner.Stands (tokens.reverse ++ found)

def Closes (bytes : Bytes) (tokens : List Token) : Prop :=
  ∀ found, Scanner.run ⟨.between, found⟩ bytes = some ⟨.between, tokens.reverse ++ found⟩

/-- No number can run on into these bytes. -/
def Parted (bytes : Bytes) : Prop := ∃ byte rest, bytes = byte :: rest ∧ isNumeric byte = false

theorem parted_cons {byte : UInt8} (other : isNumeric byte = false) (rest : Bytes) :
    Parted (byte :: rest) := ⟨byte, rest, rfl, other⟩

theorem Closes.spells {bytes : Bytes} {tokens : List Token} (closes : Closes bytes tokens) :
    Spells bytes tokens := fun found => ⟨_, closes found, Scanner.stands_between _⟩

theorem Closes.append {first second : Bytes} {earlier later : List Token}
    (closes : Closes first earlier) (others : Closes second later) :
    Closes (first ++ second) (earlier ++ later) := by
  intro found
  rw [Scanner.run_append, closes found, Option.bind_some, others, List.reverse_append,
    List.append_assoc]

theorem Closes.append_spells {first second : Bytes} {earlier later : List Token}
    (closes : Closes first earlier) (spells : Spells second later) :
    Spells (first ++ second) (earlier ++ later) := by
  intro found
  obtain ⟨scanner, runs, stands⟩ := spells (earlier.reverse ++ found)
  refine ⟨scanner, ?_, ?_⟩
  · rw [Scanner.run_append, closes found, Option.bind_some, runs]
  · rw [List.reverse_append, List.append_assoc]
    exact stands

theorem Spells.append_closes {first second : Bytes} {earlier later : List Token}
    (spells : Spells first earlier) (closes : Closes second later) (parted : Parted second) :
    Closes (first ++ second) (earlier ++ later) := by
  intro found
  obtain ⟨byte, rest, rfl, other⟩ := parted
  obtain ⟨scanner, runs, stands⟩ := spells found
  rw [Scanner.run_append, runs, Option.bind_some, stands.run_cons other, closes,
    List.reverse_append, List.append_assoc]

/-! ## Values -/

def Builder.run (builder : Builder) (tokens : List Token) : Option Builder :=
  tokens.foldlM Builder.push builder

theorem Builder.run_append (builder : Builder) (first second : List Token) :
    builder.run (first ++ second) = (builder.run first).bind (·.run second) :=
  List.foldlM_append

/-- Wherever a value is due, these bytes are read as this one. -/
def Renders (bytes : Bytes) (json : Json) : Prop :=
  ∃ tokens, Spells bytes tokens ∧
    ∀ path, (Builder.awaitValue path).run tokens = some (Builder.give json path)

theorem Renders.parse_eq {bytes : Bytes} {json : Json} (renders : Renders bytes json) :
    parse? bytes = some json := by
  obtain ⟨tokens, spells, builds⟩ := renders
  obtain ⟨scanner, runs, stands⟩ := spells []
  have scanned : Token.scan? bytes = some tokens := by
    change (Scanner.run ⟨.between, []⟩ bytes).bind Scanner.finish = _
    rw [runs, Option.bind_some, stands.finish_eq, List.append_nil, List.reverse_reverse]
  have built : ofTokens? tokens = some json := by
    change ((Builder.awaitValue []).run tokens).bind Builder.result? = _
    rw [builds []]
    rfl
  rw [parse?, scanned, Option.bind_some, built]

theorem renders_token {bytes : Bytes} {token : Token} {json : Json} (spells : Spells bytes [token])
    (begins : ∀ path, Builder.begin? path token = some (Builder.give json path)) :
    Renders bytes json := by
  refine ⟨[token], spells, fun path => ?_⟩
  change (Builder.begin? path token).bind some = _
  rw [begins path]
  rfl

theorem renders_null : Renders (Bytes.ofText "null") .null :=
  renders_token (fun found => ⟨_, rfl, Scanner.stands_word found .null⟩) fun _ => rfl

theorem renders_boolean (value : Bool) :
    Renders (Bytes.ofText (if value then "true" else "false")) (.boolean value) := by
  cases value with
  | false =>
      exact renders_token (fun found => ⟨_, rfl, Scanner.stands_word found (.boolean false)⟩)
        fun _ => rfl
  | true =>
      exact renders_token (fun found => ⟨_, rfl, Scanner.stands_word found (.boolean true)⟩)
        fun _ => rfl

/-! ## Written values -/

def Printable (bytes : Bytes) : Prop := ∀ byte ∈ bytes, 0x20 ≤ byte

theorem printable_of_all {bytes : Bytes} (checked : bytes.all (0x20 ≤ ·)) : Printable bytes := by
  intro byte member
  exact of_decide_eq_true (List.all_eq_true.mp checked byte member)

theorem Printable.append {first second : Bytes} (printable : Printable first)
    (others : Printable second) : Printable (first ++ second) := by
  intro byte member
  rcases List.mem_append.mp member with inFirst | inSecond
  · exact printable byte inFirst
  · exact others byte inSecond

structure Writes (bytes : Bytes) (json : Json) : Prop where
  printable : Printable bytes
  spelled : ∃ tokens, Spells bytes tokens ∧
    ∀ path, (Builder.awaitValue path).run tokens = some (Builder.give json path)

theorem Writes.parse_eq {bytes : Bytes} {json : Json} (writes : Writes bytes json) :
    parse? bytes = some json :=
  Renders.parse_eq writes.spelled

theorem writes_token {bytes : Bytes} {token : Token} {json : Json} (printable : Printable bytes)
    (spells : Spells bytes [token])
    (begins : ∀ path, Builder.begin? path token = some (Builder.give json path)) :
    Writes bytes json :=
  ⟨printable, renders_token spells begins⟩

theorem writes_null : Writes (Bytes.ofText "null") .null :=
  ⟨printable_of_all rfl, renders_null⟩

theorem writes_boolean (value : Bool) :
    Writes (Bytes.ofText (if value then "true" else "false")) (.boolean value) := by
  refine ⟨?_, renders_boolean value⟩
  cases value <;> exact printable_of_all rfl

/-! ## Arrays and objects -/

/-- A pair of brackets around items of one kind, as bytes, as tokens and as states of a builder. -/
structure Brackets (α : Type) where
  openByte : UInt8
  closeByte : UInt8
  openToken : Token
  closeToken : Token
  first : List Context → Builder
  /-- Behind a comma; the items that were read stand last one first. -/
  ready : List α → List Context → Builder
  after : List α → List Context → Builder
  wrap : List α → Json
  printable : 0x20 ≤ openByte ∧ 0x20 ≤ closeByte
  parted : isNumeric closeByte = false
  scanOpen : Closes [openByte] [openToken]
  scanClose : Closes [closeByte] [closeToken]
  pushOpen : ∀ path, (Builder.awaitValue path).push openToken = some (first path)
  pushEmpty : ∀ path, (first path).push closeToken = some (Builder.give (wrap []) path)
  pushFirst : ∀ path token, token ≠ closeToken →
    (first path).push token = (ready [] path).push token
  pushReady : ∀ read path, (ready read path).push closeToken = none
  pushComma : ∀ read path, (after read path).push .comma = some (ready read path)
  pushClose : ∀ read path,
    (after read path).push closeToken = some (Builder.give (wrap read.reverse) path)

def Brackets.array : Brackets Json where
  openByte := 0x5b
  closeByte := 0x5d
  openToken := .openBracket
  closeToken := .closeBracket
  first := .awaitFirstElement
  ready read path := .awaitValue (.element read :: path)
  after := .afterElement
  wrap := .array
  printable := by decide
  parted := by decide
  scanOpen _ := rfl
  scanClose _ := rfl
  pushOpen _ := rfl
  pushEmpty _ := rfl
  pushFirst path token other := by
    cases token with
    | closeBracket => exact absurd rfl other
    | openBracket | openBrace | closeBrace | comma | colon | null | boolean | number | string => rfl
  pushReady _ _ := rfl
  pushComma _ _ := rfl
  pushClose _ _ := rfl

def Brackets.object : Brackets (RawText × Json) where
  openByte := 0x7b
  closeByte := 0x7d
  openToken := .openBrace
  closeToken := .closeBrace
  first := .awaitFirstName
  ready := .awaitName
  after := .afterMember
  wrap := .object
  printable := by decide
  parted := by decide
  scanOpen _ := rfl
  scanClose _ := rfl
  pushOpen _ := rfl
  pushEmpty _ := rfl
  pushFirst path token other := by
    cases token with
    | closeBrace => exact absurd rfl other
    | openBracket | closeBracket | openBrace | comma | colon | null | boolean | number | string =>
        rfl
  pushReady _ _ := rfl
  pushComma _ _ := rfl
  pushClose _ _ := rfl

namespace Brackets

variable {α : Type}

theorem run_first (brackets : Brackets α) {tokens : List Token} {item : α}
    (builds : ∀ read path,
      (brackets.ready read path).run tokens = some (brackets.after (item :: read) path))
    (path : List Context) :
    (brackets.first path).run tokens = some (brackets.after [item] path) := by
  have begins := builds [] path
  cases tokens with
  | nil =>
      have same : brackets.ready [] path = brackets.after [item] path := by
        simpa [Builder.run] using begins
      have closes := brackets.pushClose [item] path
      rw [← same, brackets.pushReady] at closes
      cases closes
  | cons token later =>
      rw [Builder.run, List.foldlM_cons] at begins ⊢
      have other : token ≠ brackets.closeToken := by
        intro same
        rw [same, brackets.pushReady] at begins
        cases begins
      rw [brackets.pushFirst path token other]
      exact begins

def tail (brackets : Brackets α) (items : List Bytes) : Bytes :=
  items.flatMap (0x2c :: ·) ++ [brackets.closeByte]

def sequence (brackets : Brackets α) : List Bytes → Bytes
  | [] => [brackets.openByte, brackets.closeByte]
  | first :: rest => brackets.openByte :: (first ++ brackets.tail rest)

def Renders (brackets : Brackets α) (bytes : Bytes) (item : α) : Prop :=
  ∃ tokens, Spells bytes tokens ∧
    ∀ read path, (brackets.ready read path).run tokens = some (brackets.after (item :: read) path)

theorem parted_tail (brackets : Brackets α) (items : List Bytes) :
    Parted (brackets.tail items) := by
  cases items with
  | nil => exact parted_cons brackets.parted []
  | cons first rest => exact parted_cons (by decide) _

theorem tail_spelled (brackets : Brackets α) {items : List (Bytes × α)}
    (rendered : ∀ item ∈ items, brackets.Renders item.1 item.2) :
    ∃ tokens, Closes (brackets.tail (items.map Prod.fst)) tokens ∧ ∀ read path,
      (brackets.after read path).run tokens =
        some (Builder.give (brackets.wrap (read.reverse ++ items.map Prod.snd)) path) := by
  induction items with
  | nil =>
      refine ⟨[brackets.closeToken], brackets.scanClose, fun read path => ?_⟩
      change ((brackets.after read path).push brackets.closeToken).bind some = _
      rw [brackets.pushClose, List.map_nil, List.append_nil]
      rfl
  | cons item rest inductionHypothesis =>
      obtain ⟨later, closes, builds⟩ :=
        inductionHypothesis fun other member => rendered other (List.mem_cons_of_mem item member)
      obtain ⟨tokens, spells, buildsItem⟩ := rendered item List.mem_cons_self
      have comma : Closes [0x2c] [.comma] := fun _ => rfl
      have parted := brackets.parted_tail (rest.map Prod.fst)
      have tail_eq : brackets.tail ((item :: rest).map Prod.fst) =
          [0x2c] ++ (item.1 ++ brackets.tail (rest.map Prod.fst)) := by
        simp [tail]
      refine ⟨[.comma] ++ (tokens ++ later), ?_, fun read path => ?_⟩
      · rw [tail_eq]
        exact comma.append (spells.append_closes closes parted)
      · have commaRead : (brackets.after read path).run [.comma] =
            some (brackets.ready read path) := by
          change ((brackets.after read path).push .comma).bind some = _
          rw [brackets.pushComma]
          rfl
        rw [Builder.run_append, commaRead, Option.bind_some, Builder.run_append, buildsItem,
          Option.bind_some, builds, List.reverse_cons, List.append_assoc]
        rfl

theorem renders_empty (brackets : Brackets α) {inside : Bytes} (blank : Closes inside []) :
    Json.Renders ([brackets.openByte] ++ (inside ++ [brackets.closeByte])) (brackets.wrap []) := by
  refine ⟨[brackets.openToken] ++ ([] ++ [brackets.closeToken]),
    (brackets.scanOpen.append (blank.append brackets.scanClose)).spells, fun path => ?_⟩
  change ((Builder.awaitValue path).push brackets.openToken).bind (fun builder =>
    (builder.push brackets.closeToken).bind some) = _
  rw [brackets.pushOpen, Option.bind_some, brackets.pushEmpty]
  rfl

theorem renders_sequence (brackets : Brackets α) {items : List (Bytes × α)}
    (rendered : ∀ item ∈ items, brackets.Renders item.1 item.2) :
    Json.Renders (brackets.sequence (items.map Prod.fst))
      (brackets.wrap (items.map Prod.snd)) := by
  cases items with
  | nil =>
      have blank : Closes [] [] := fun _ => rfl
      exact brackets.renders_empty blank
  | cons item rest =>
      obtain ⟨later, closes, builds⟩ :=
        brackets.tail_spelled fun other member => rendered other (List.mem_cons_of_mem item member)
      obtain ⟨tokens, spells, buildsItem⟩ := rendered item List.mem_cons_self
      have parted := brackets.parted_tail (rest.map Prod.fst)
      refine ⟨[brackets.openToken] ++ (tokens ++ later),
        (brackets.scanOpen.append (spells.append_closes closes parted)).spells, fun path => ?_⟩
      have opened : (Builder.awaitValue path).run [brackets.openToken] =
          some (brackets.first path) := by
        change ((Builder.awaitValue path).push brackets.openToken).bind some = _
        rw [brackets.pushOpen]
        rfl
      rw [Builder.run_append, opened, Option.bind_some, Builder.run_append,
        brackets.run_first buildsItem, Option.bind_some, builds]
      rfl

structure Writes (brackets : Brackets α) (bytes : Bytes) (item : α) : Prop where
  printable : Printable bytes
  spelled : ∃ tokens, Spells bytes tokens ∧
    ∀ read path, (brackets.ready read path).run tokens = some (brackets.after (item :: read) path)

theorem printable_tail (brackets : Brackets α) {items : List (Bytes × α)}
    (written : ∀ item ∈ items, brackets.Writes item.1 item.2) :
    Printable (brackets.tail (items.map Prod.fst)) := by
  refine Printable.append ?_ fun byte member => ?_
  · intro byte member
    obtain ⟨bytes, isItem, inItem⟩ := List.mem_flatMap.mp member
    obtain ⟨item, isWritten, rfl⟩ := List.mem_map.mp isItem
    rcases List.mem_cons.mp inItem with rfl | inBytes
    · decide
    · exact (written item isWritten).printable byte inBytes
  · obtain rfl := List.mem_singleton.mp member
    exact brackets.printable.2

theorem printable_sequence (brackets : Brackets α) {items : List (Bytes × α)}
    (written : ∀ item ∈ items, brackets.Writes item.1 item.2) :
    Printable (brackets.sequence (items.map Prod.fst)) := by
  have opening : Printable [brackets.openByte] := by
    intro byte member
    obtain rfl := List.mem_singleton.mp member
    exact brackets.printable.1
  cases items with
  | nil =>
      have nothing : ∀ item ∈ ([] : List (Bytes × α)), brackets.Writes item.1 item.2 :=
        fun _ member => absurd member List.not_mem_nil
      exact opening.append (brackets.printable_tail nothing)
  | cons item rest =>
      have restPrintable := brackets.printable_tail fun other member =>
        written other (List.mem_cons_of_mem item member)
      exact opening.append ((written item List.mem_cons_self).printable.append restPrintable)

theorem writes_sequence (brackets : Brackets α) {items : List (Bytes × α)}
    (written : ∀ item ∈ items, brackets.Writes item.1 item.2) :
    Json.Writes (brackets.sequence (items.map Prod.fst))
      (brackets.wrap (items.map Prod.snd)) :=
  ⟨brackets.printable_sequence written,
    brackets.renders_sequence fun item member => (written item member).spelled⟩

end Brackets

theorem Renders.element {bytes : Bytes} {json : Json} (renders : Renders bytes json) :
    Brackets.array.Renders bytes json := by
  obtain ⟨tokens, spells, builds⟩ := renders
  exact ⟨tokens, spells, fun read path => builds (.element read :: path)⟩

theorem Renders.member {bytes : Bytes} {json : Json} (renders : Renders bytes json) {name : Bytes}
    {raw : RawText} (closes : Closes name [.string raw]) :
    Brackets.object.Renders (name ++ ([0x3a] ++ bytes)) (raw, json) := by
  obtain ⟨tokens, spells, builds⟩ := renders
  have colon : Closes [0x3a] [.colon] := fun _ => rfl
  refine ⟨[.string raw] ++ ([.colon] ++ tokens),
    closes.append_spells (colon.append_spells spells), fun read path => ?_⟩
  exact builds (.member read raw :: path)

theorem Writes.element {bytes : Bytes} {json : Json} (writes : Writes bytes json) :
    Brackets.array.Writes bytes json :=
  ⟨writes.printable, Renders.element writes.spelled⟩

theorem Writes.member {bytes : Bytes} {json : Json} (writes : Writes bytes json) {name : Bytes}
    {raw : RawText} (printable : Printable name) (closes : Closes name [.string raw]) :
    Brackets.object.Writes (name ++ ([0x3a] ++ bytes)) (raw, json) :=
  ⟨printable.append (Printable.append (printable_of_all rfl) writes.printable),
    Renders.member writes.spelled closes⟩

end RowStream.Json
