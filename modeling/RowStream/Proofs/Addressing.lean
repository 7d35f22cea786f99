import RowStream.Proofs.Calling
import RowStream.Proofs.Escaping
import RowStream.Proofs.Serving

/-!
# The address of a schema lookup

A schema lookup names its table in the path and its dataset in the query.  `Asks` says that a
server can read both back from the target.  It can exactly when the table is `Nameable`
(`fetchSchema_asks_iff`): the names of the directory itself and of the one above it are no names of
a component, and tabs and line breaks are dropped on the way.
-/

set_option autoImplicit false

namespace RowStream

namespace Url

/-- A name that can be written as one component of a path. -/
def Nameable (name : String) : Prop :=
  name ≠ "." ∧ name ≠ ".." ∧ ∀ char ∈ name.toList, char ≠ '\t' ∧ char ≠ '\n' ∧ char ≠ '\r'

/-- The target lies below `schema/` in the directory.  One component of the path spells the table,
and the only field of the query is the dataset. -/
def Asks (directory target dataset table : String) : Prop :=
  ∃ component query, target = directory ++ "schema/" ++ component ++ "?" ++ query ∧
    (∀ char ∈ component.toList, char ≠ '/' ∧ char ≠ '\\' ∧ char ≠ '?' ∧ char ≠ '#') ∧
    decode (Bytes.ofText component) = Bytes.ofText table ∧
    formFields (Bytes.ofText query) = [(Bytes.ofText "db", Bytes.ofText dataset)]

theorem ofText_injective {text other : String} (same : Bytes.ofText text = Bytes.ofText other) :
    text = other := by
  have read := Bytes.toText?_ofText text
  rw [same, Bytes.toText?_ofText] at read
  exact (Option.some.inj read).symm

theorem split_at_mark {front other behind rest : List Char} (plain : ∀ char ∈ front, char ≠ '?')
    (otherPlain : ∀ char ∈ other, char ≠ '?')
    (same : front ++ '?' :: behind = other ++ '?' :: rest) :
    front = other ∧ behind = rest := by
  have taken := congrArg (List.takeWhile (· ≠ '?')) same
  rw [List.takeWhile_append_of_pos fun char member => decide_eq_true (plain char member),
    List.takeWhile_append_of_pos fun char member => decide_eq_true (otherPlain char member),
    List.takeWhile_cons_of_neg (by decide), List.takeWhile_cons_of_neg (by decide),
    List.append_nil, List.append_nil] at taken
  rw [taken] at same
  exact ⟨taken, (List.cons.inj (List.append_cancel_left same)).2⟩

theorem Asks.unique {directory target dataset other table another : String}
    (asks : Asks directory target dataset table) (asksToo : Asks directory target other another) :
    dataset = other ∧ table = another := by
  obtain ⟨component, query, shape, plain, table_eq, dataset_eq⟩ := asks
  obtain ⟨component', query', shape', plain', another_eq, other_eq⟩ := asksToo
  have same := congrArg String.toList (shape.symm.trans shape')
  simp only [String.toList_append, List.append_assoc] at same
  have parts := split_at_mark (fun char member => (plain char member).2.2.1)
    (fun char member => (plain' char member).2.2.1)
    (List.append_cancel_left (List.append_cancel_left same))
  obtain rfl := String.toList_inj.mp parts.1
  obtain rfl := String.toList_inj.mp parts.2
  rw [dataset_eq] at other_eq
  refine ⟨ofText_injective ?_, ofText_injective (table_eq.symm.trans another_eq)⟩
  simpa using other_eq

/-! ## The component for a name -/

def writable (name : String) : List Char :=
  name.toList.filter fun char => !(char = '\t' || char = '\n' || char = '\r')

theorem writable_eq_iff (name : String) :
    writable name = name.toList ↔
      ∀ char ∈ name.toList, char ≠ '\t' ∧ char ≠ '\n' ∧ char ≠ '\r' := by
  simp [writable, List.filter_eq_self, and_assoc]

section

variable {scheme : String}

theorem decode_nameComponent (special : isSpecial scheme) (name : String) :
    decode (Bytes.ofText (nameComponent scheme name)) =
      Bytes.ofText (String.ofList (writable name)) := by
  rw [nameComponent, if_pos special]
  exact decode_encoded (by decide) (writable name)

theorem plain_nameComponent (special : isSpecial scheme) (name : String) :
    ∀ char ∈ (nameComponent scheme name).toList,
      char ≠ '/' ∧ char ≠ '\\' ∧ char ≠ '?' ∧ char ≠ '#' := by
  intro char member
  rw [nameComponent, if_pos special, Parse.encoded, String.toList_ofList] at member
  refine ⟨?_, ?_, ?_, ?_⟩ <;>
    · rintro rfl
      exact absurd (not_set_of_mem_encode member) (by decide)

theorem pushName_of_nameable (special : isSpecial scheme) {name : String}
    (nameable : Nameable name) (components : List String) :
    pushName scheme components name = components ++ [nameComponent scheme name] := by
  obtain ⟨notDot, notDots, plain⟩ := nameable
  have decoded := decode_nameComponent special name
  rw [(writable_eq_iff name).mpr plain, String.ofList_toList] at decoded
  rw [pushName, if_neg (by simp [notDot, notDots])]
  split
  · rename_i component_eq
    rw [component_eq] at decoded
    have isDot : "." = name := ofText_injective decoded
    exact absurd isDot.symm notDot
  · rename_i component_eq
    rw [component_eq] at decoded
    have isDots : ".." = name := ofText_injective decoded
    exact absurd isDots.symm notDots
  · rfl

/-- Whatever becomes of a name, it adds one component that spells what is left of the name, or
none. -/
theorem pushName_cases (special : isSpecial scheme) (name : String)
    (directory : List String) (last : String) :
    pushName scheme (directory ++ [last]) name = directory ++ [last] ∨
      pushName scheme (directory ++ [last]) name = directory ++ [""] ∨
      ∃ component, pushName scheme (directory ++ [last]) name = directory ++ [last, component] ∧
        (∀ char ∈ component.toList, char ≠ '?') ∧
        (decode (Bytes.ofText component) = Bytes.ofText name → writable name = name.toList) := by
  rw [pushName]
  split
  · exact Or.inl rfl
  · right
    split
    · right
      refine ⟨"", by simp, by simp, fun spelled => ?_⟩
      have isEmpty : "" = name := ofText_injective spelled
      rw [← isEmpty]
      rfl
    · left
      rw [List.dropLast_concat]
    · right
      refine ⟨nameComponent scheme name, by simp,
        fun char member => (plain_nameComponent special name char member).2.2.1, fun spelled => ?_⟩
      rw [decode_nameComponent special] at spelled
      exact String.toList_ofList.symm.trans (congrArg String.toList (ofText_injective spelled))

end

/-! ## Targets -/

theorem serialize_append (components others : List String) :
    (Path.segments (components ++ others)).serialize =
      (Path.segments components).serialize ++ (Path.segments others).serialize := by
  simp only [Path.serialize, List.map_append, String.join_append]

theorem serialize_directory (components : List String) :
    (Path.segments (components ++ [""])).serialize =
      (Path.segments components).serialize ++ "/" := by
  rw [serialize_append]
  rfl

theorem withTrailingSlash_eq {url : Url} {components : List String}
    (pathed : url.path = .segments components) :
    ∃ front, url.withTrailingSlash = { url with path := .segments (front ++ [""]) } ∧
      (components = front ++ [""] ∨ components = front ∧ components.getLast? ≠ some "") := by
  rw [withTrailingSlash, pathed]
  by_cases slashed : components.getLast? = some ""
  · obtain ⟨front, shape⟩ := List.getLast?_eq_some_iff.mp slashed
    refine ⟨front, ?_, Or.inl shape⟩
    simp only [if_pos slashed, ← shape, ← pathed]
  · exact ⟨components, by simp only [if_neg slashed], Or.inr ⟨rfl, slashed⟩⟩

theorem child_directory {directory : Url} {front : List String}
    (pathed : directory.path = .segments (front ++ [""])) (name : String) :
    directory.child name =
      { directory with path := .segments (front ++ [name]), query := none, fragment := none } := by
  simp only [child, pathed, List.dropLast_concat]

def lookupTarget (scheme : String) (components : List String) (dataset table : String) : String :=
  (Path.segments (pushName scheme (components ++ ["schema"]) table)).serialize ++
    ("?" ++ ("db=" ++ formEncode dataset))

theorem formFields_lookup (dataset : String) :
    formFields (Bytes.ofText ("db=" ++ formEncode dataset)) =
      [(Bytes.ofText "db", Bytes.ofText dataset)] := by
  rw [Bytes.ofText_append]
  have plain : ∀ byte ∈ Bytes.ofText "db", byte ≠ 0x26 ∧ byte ≠ 0x3d := by
    have bytes_eq : Bytes.ofText "db" = [0x64, 0x62] := rfl
    simp [bytes_eq]
  exact formFields_single plain dataset

theorem asks_iff_nameable {scheme : String} (special : isSpecial scheme)
    (components : List String) (dataset table : String) :
    Asks (Path.segments (components ++ [""])).serialize
      (lookupTarget scheme components dataset table) dataset table ↔ Nameable table := by
  rw [serialize_directory]
  constructor
  · rintro ⟨component, query, shape, plain, spelled, _⟩
    have chars := congrArg String.toList shape
    have notKept : pushName scheme (components ++ ["schema"]) table ≠ components ++ ["schema"] := by
      intro kept
      rw [lookupTarget, kept, serialize_append] at chars
      simp [Path.serialize] at chars
    have notDots : ¬ (table = "." ∨ table = "..") := fun dots => notKept (if_pos dots)
    obtain ⟨notDot, notDoubleDot⟩ := not_or.mp notDots
    rcases pushName_cases special table components "schema" with kept | upward | below
    · exact absurd kept notKept
    · rw [lookupTarget, upward, serialize_append] at chars
      simp [Path.serialize] at chars
    · obtain ⟨other, pushed, otherPlain, other_spelled⟩ := below
      rw [lookupTarget, pushed, serialize_append] at chars
      simp [Path.serialize] at chars
      have same := split_at_mark otherPlain (fun char member => (plain char member).2.2.1) chars
      obtain rfl := String.toList_inj.mp same.1
      exact ⟨notDot, notDoubleDot, (writable_eq_iff table).mp (other_spelled spelled)⟩
  · intro nameable
    refine ⟨nameComponent scheme table, "db=" ++ formEncode dataset, ?_,
      plain_nameComponent special table, ?_, formFields_lookup dataset⟩
    · rw [lookupTarget, pushName_of_nameable special nameable, serialize_append, serialize_append]
      refine String.toList_inj.mp ?_
      simp [Path.serialize]
    · rw [decode_nameComponent special, (writable_eq_iff table).mpr nameable.2.2,
        String.ofList_toList]

end Url

theorem Http.Network.seen_send {request : Http.Request} (hosted : request.url.hasHost)
    (web : request.url.scheme = "http" ∨ request.url.scheme = "https") (server : Http.Server) :
    ((Http.Network.connected server).send request).seen =
      [{ request with url := { request.url.withoutCredentials with fragment := none } }] := by
  rw [Http.Network.send, if_pos ⟨hosted, web⟩]
  dsimp only
  split <;> rfl

namespace Client

open Url (Asks Nameable Served lookupTarget)

theorem new_of_served {settings : Settings} (served : settings.serverUrl.Served) :
    ∃ client components, new settings = .ok client ∧ client.base.hasHost ∧
      client.base.scheme = settings.serverUrl.scheme ∧
      client.base.path = .segments (components ++ [""]) := by
  obtain ⟨components, pathed⟩ := served.pathed
  obtain ⟨front, base_eq, _⟩ := Url.withTrailingSlash_eq pathed
  refine ⟨_, front, new_eq_of_hasHost served.hosted, ?_⟩
  dsimp only
  rw [base_eq]
  exact ⟨served.hosted, rfl, rfl⟩

section

variable {client : Client} {components : List String}

theorem schemaRequest_url (pathed : client.base.path = .segments (components ++ [""]))
    (dataset table : String) :
    (client.schemaRequest dataset table).url =
      { client.base with
        path := .segments (Url.pushName client.base.scheme (components ++ ["schema"]) table)
        query := some ("db=" ++ Url.formEncode dataset)
        fragment := none } := by
  simp only [schemaRequest, Url.tableSchema, Url.child_directory pathed]

theorem seen_fetchSchema (pathed : client.base.path = .segments (components ++ [""]))
    (hosted : client.base.hasHost)
    (web : client.base.scheme = "http" ∨ client.base.scheme = "https") (server : Http.Server)
    (dataset table : String) :
    ∃ request, (client.fetchSchema (.connected server) dataset table).2 = [request] ∧
      request.method = .get ∧
      request.url.target = lookupTarget client.base.scheme components dataset table := by
  have url_eq := schemaRequest_url pathed dataset table
  have allowed : (client.schemaRequest dataset table).url.hasHost ∧
      ((client.schemaRequest dataset table).url.scheme = "http" ∨
        (client.schemaRequest dataset table).url.scheme = "https") := by
    rw [url_eq]
    exact ⟨hosted, web⟩
  have sent_eq :=
    congrArg (fun url : Url => { url.withoutCredentials with fragment := none }) url_eq
  exact ⟨_, Http.Network.seen_send allowed.1 allowed.2 server, rfl, congrArg Url.target sent_eq⟩

end

/-- A server of a schema lookup reads the table and the dataset from the target that it sees, if
and only if the table has a name that a component of a path can have.  So the target of two lookups
of such tables is the same only if they ask for the same. -/
theorem fetchSchema_asks_iff {environment : Environment} {settings : Settings}
    (configured : Settings.read environment = .ok settings)
    (web : settings.serverUrl.scheme = "http" ∨ settings.serverUrl.scheme = "https") :
    ∃ client, new settings = .ok client ∧ ∀ server : Http.Server,
      let seen dataset table := (client.fetchSchema (.connected server) dataset table).2
      (∀ dataset table, ∃ request, seen dataset table = [request] ∧ request.method = .get ∧
        (Asks client.base.path.serialize request.url.target dataset table ↔ Nameable table)) ∧
      ∀ dataset table other another, Nameable table → Nameable another →
        (seen dataset table).map (·.url.target) = (seen other another).map (·.url.target) →
        dataset = other ∧ table = another := by
  obtain ⟨client, components, made, hosted, scheme_eq, pathed⟩ :=
    new_of_served (Settings.served_of_read configured web)
  rw [← scheme_eq] at web
  have special := Url.isSpecial_of_web web
  refine ⟨client, made, fun server => ⟨fun dataset table => ?_, ?_⟩⟩
  · obtain ⟨request, seen_eq, method_eq, target_eq⟩ :=
      seen_fetchSchema pathed hosted web server dataset table
    refine ⟨request, seen_eq, method_eq, ?_⟩
    rw [target_eq, pathed]
    exact Url.asks_iff_nameable special components dataset table
  · intro dataset table other another nameable nameableToo same
    obtain ⟨request, seen_eq, _, target_eq⟩ :=
      seen_fetchSchema pathed hosted web server dataset table
    obtain ⟨request', seen_eq', _, target_eq'⟩ :=
      seen_fetchSchema pathed hosted web server other another
    simp only [seen_eq, seen_eq', List.map_singleton, target_eq, target_eq', List.cons.injEq,
      and_true] at same
    have asks := (Url.asks_iff_nameable special components dataset table).mpr nameable
    have asksToo := (Url.asks_iff_nameable special components other another).mpr nameableToo
    rw [← same] at asksToo
    exact asks.unique asksToo

/-- The table has characters that mean something in a URL, and the server has a query of its own. -/
theorem fetchSchema_asks_iff_escaped :
    let environment : Environment :=
      { value? := fun name => if name = .serverUrl then some "http://localhost:9000/api?x" else none
        file? := fun _ => none }
    let server : Url :=
      { scheme := "http", username := "", password := "", host := some (.domain "localhost")
        port := some 9000, path := .segments ["api"], query := some "x", fragment := none }
    let settings : Settings := { Settings.default with serverUrl := server }
    Settings.read environment = .ok settings ∧
      (settings.serverUrl.scheme = "http" ∨ settings.serverUrl.scheme = "https") ∧
      Nameable "../50%?" ∧
      ∃ client request, new settings = .ok client ∧
        (client.fetchSchema (.connected fun _ => none) "a b.sqlite" "../50%?").2 = [request] ∧
        Asks client.base.path.serialize request.url.target "a b.sqlite" "../50%?" := by
  intro environment server settings
  have configured : Settings.read environment = .ok settings := rfl
  have web : settings.serverUrl.scheme = "http" ∨ settings.serverUrl.scheme = "https" := Or.inl rfl
  have nameable : Nameable "../50%?" := ⟨by decide, by decide, (Url.writable_eq_iff _).mp rfl⟩
  obtain ⟨client, made, served⟩ := fetchSchema_asks_iff configured web
  obtain ⟨request, seen, _, asks_iff⟩ := (served fun _ => none).1 "a b.sqlite" "../50%?"
  exact ⟨configured, web, nameable, client, request, made, seen, asks_iff.mpr nameable⟩

theorem not_asks_unnameable :
    let targets table :=
      (Sample.client.fetchSchema (.connected fun _ => none) "d.sqlite" table).2.map (·.url.target)
    targets "a\tb" = ["/schema/ab?db=d.sqlite"] ∧ targets "ab" = ["/schema/ab?db=d.sqlite"] ∧
      targets "." = ["/schema?db=d.sqlite"] ∧ targets ".." = ["/schema?db=d.sqlite"] := by
  decide +kernel

end Client

end RowStream
