import RowStream.Proofs.Addressing
import RowStream.Proofs.Messages
import RowStream.Proofs.Splitting

/-!
# Endpoints below the configured URL

A client takes the path of its server for a directory (`asDirectory`), and its requests go to what
stands in there: `requests_below_base` says which URL each of them has, part by part.  A slash at
the end of the path is one at the end of its components, as no component of a URL that was read has
a slash in it.  The name of a table is the one thing that can lead out of `schema`: it does when it
comes to be the name of the directory above (`NamesParent`).
-/

set_option autoImplicit false

namespace RowStream

namespace Url

/-! ## Components without slashes -/

/-- The components of a path are what its slashes separate. -/
def Apart (components : List String) : Prop := ∀ component ∈ components, '/' ∉ component.toList

theorem Apart.append {front behind : List String} (apart : Apart front) (others : Apart behind) :
    Apart (front ++ behind) :=
  List.forall_mem_append.mpr ⟨apart, others⟩

theorem Apart.of_subset {components others : List String} (apart : Apart components)
    (among : others ⊆ components) : Apart others :=
  fun component member => apart component (among member)

theorem apart_singleton {chars : List Char} (without : '/' ∉ chars) :
    Apart [String.ofList chars] := by
  intro component member
  rw [List.mem_singleton.mp member, String.toList_ofList]
  exact without

namespace Parse

theorem slash_notMem_encode (set : EncodeSet) {chars : List Char} (without : '/' ∉ chars) :
    '/' ∉ encode set chars := by
  intro member
  rcases of_mem_encode member with isPercent | isAlphanum | ⟨inChars, _⟩
  · cases isPercent
  · exact absurd isAlphanum (by decide)
  · exact without inChars

theorem shorten_subset (scheme : String) (components : List String) :
    shorten scheme components ⊆ components := by
  unfold shorten
  split
  · split
    · exact List.Subset.refl _
    · exact List.nil_subset _
  · exact List.dropLast_subset components

theorem apart_resolve (scheme : String) {path : List String} (pathApart : Apart path)
    {parts : List (List Char)} (without : ∀ part ∈ parts, '/' ∉ part) :
    Apart (resolve scheme path parts) := by
  induction parts generalizing path with
  | nil => exact pathApart
  | cons part rest inductionHypothesis =>
      obtain ⟨partWithout, restWithout⟩ := List.forall_mem_cons.mp without
      have ending : Apart (if rest.isEmpty then [""] else []) := by
        split
        · exact apart_singleton List.not_mem_nil
        · exact fun _ member => absurd member List.not_mem_nil
      rw [resolve]
      refine inductionHypothesis ?_ restWithout
      split
      · exact (pathApart.of_subset (shorten_subset scheme path)).append ending
      · split
        · exact pathApart.append ending
        · split
          · refine apart_singleton fun member => ?_
            rcases List.mem_append.mp member with inPart | isColon
            · exact partWithout (List.mem_of_mem_take inPart)
            · exact absurd isColon (by decide)
          · exact pathApart.append (apart_singleton (slash_notMem_encode _ partWithout))

theorem apart_segments (scheme : String) (chars : List Char) : Apart (segments scheme chars) := by
  have none : Apart [] := fun _ member => absurd member List.not_mem_nil
  unfold segments
  split
  · dsimp only
    split
    · exact apart_singleton List.not_mem_nil
    · exact none
  · exact apart_resolve scheme none fun part member => (of_mem_splitOn member).1

theorem path_afterSlashes {scheme : String} {chars : List Char} {url : Url}
    (read : afterSlashes scheme chars = .ok url) :
    ∃ components, url.path = .segments components ∧ Apart components := by
  obtain ⟨server, _, read⟩ := ok_of_bind read
  cases read
  exact ⟨_, rfl, apart_segments server.scheme _⟩

end Parse

/-! ## The path as a directory -/

def asDirectory (path : String) : String :=
  if path.toList.getLast? = some '/' then path else path ++ "/"

theorem endsWithSlash_iff {components : List String} (apart : Apart components) :
    (Path.segments components).serialize.toList.getLast? = some '/' ↔
      components.getLast? = some "" := by
  rcases List.eq_nil_or_concat components with rfl | ⟨front, last, rfl⟩
  · exact ⟨nofun, nofun⟩
  · have lastWithout : '/' ∉ last.toList := apart last (by simp)
    have chars_eq : (Path.segments (front ++ [last])).serialize.toList =
        (Path.segments front).serialize.toList ++ '/' :: last.toList := by
      rw [serialize_append]
      simp [Path.serialize]
    rw [List.concat_eq_append, chars_eq, List.getLast?_concat, List.getLast?_append]
    rcases List.eq_nil_or_concat last.toList with isEmpty | ⟨others, char, shape⟩
    · rw [isEmpty, String.toList_eq_nil_iff.mp isEmpty]
      simp
    · rw [shape, List.concat_eq_append] at lastWithout ⊢
      have notSlash : char ≠ '/' := by
        rintro rfl
        exact lastWithout (by simp)
      have notEmpty : last ≠ "" := by
        rintro rfl
        simp at shape
      simp [List.getLast?_cons, List.getLast?_append, notSlash, notEmpty]

theorem exists_directory {url : Url} {components : List String}
    (pathed : url.path = .segments components) (apart : Apart components) :
    ∃ front, url.withTrailingSlash = { url with path := .segments (front ++ [""]) } ∧
      (Path.segments (front ++ [""])).serialize = asDirectory url.path.serialize := by
  obtain ⟨front, base_eq, shape⟩ := withTrailingSlash_eq pathed
  refine ⟨front, base_eq, ?_⟩
  have slashed := endsWithSlash_iff apart
  rw [asDirectory, pathed]
  rcases shape with rfl | ⟨rfl, unslashed⟩
  · rw [if_pos (slashed.mpr List.getLast?_concat)]
  · rw [if_neg (slashed.not.mpr unslashed), serialize_directory]

theorem withTrailingSlash_directory {url : Url} {front : List String}
    (pathed : url.path = .segments (front ++ [""])) : url.withTrailingSlash = url := by
  simp only [withTrailingSlash, pathed, List.getLast?_concat, if_true]

theorem serialize_child (front : List String) (name : String) :
    (Path.segments (front ++ [name])).serialize =
      (Path.segments (front ++ [""])).serialize ++ name := by
  rw [serialize_directory, serialize_append, String.append_assoc]
  rfl

/-! ## The part of a table -/

/-- Without the characters that no URL holds, this is the name of the directory above. -/
def NamesParent (name : String) : Prop := name ≠ ".." ∧ writable name = ['.', '.']

instance (name : String) : Decidable (NamesParent name) := inferInstanceAs (Decidable (_ ∧ _))

def tablePart (scheme name : String) : String :=
  if name = "." ∨ name = ".." then ""
  else if writable name = ['.'] then "/"
  else "/" ++ nameComponent scheme name

section

variable {scheme : String}

theorem nameComponent_eq_iff (special : isSpecial scheme) (name : String) {component : String}
    (plain : Parse.encoded EncodeSet.specialSegment component.toList = component) :
    nameComponent scheme name = component ↔ writable name = component.toList := by
  constructor
  · rintro component_eq
    have spelled := decode_nameComponent special name
    have itself : decode (Bytes.ofText component) = Bytes.ofText component := by
      have decoded := decode_encoded (by decide : EncodeSet.specialSegment '%') component.toList
      rwa [plain, String.ofList_toList] at decoded
    rw [component_eq, itself] at spelled
    rw [ofText_injective spelled, String.toList_ofList]
  · intro written
    rw [nameComponent, if_pos special]
    change Parse.encoded _ (writable name) = component
    rw [written, plain]

theorem serialize_pushName (special : isSpecial scheme) (front : List String)
    (last name : String) :
    (Path.segments (pushName scheme (front ++ [last]) name)).serialize =
      if NamesParent name then (Path.segments (front ++ [""])).serialize
      else (Path.segments (front ++ [last])).serialize ++ tablePart scheme name := by
  have isDot : nameComponent scheme name = "." ↔ writable name = ['.'] :=
    nameComponent_eq_iff special name rfl
  have isDots : nameComponent scheme name = ".." ↔ writable name = ['.', '.'] :=
    nameComponent_eq_iff special name rfl
  rw [pushName, tablePart]
  by_cases dots : name = "." ∨ name = ".."
  · have parts : ¬ NamesParent name := by
      rcases dots with rfl | rfl <;> decide
    rw [if_pos dots, if_pos dots, if_neg parts, String.append_empty]
  · have notDots : name ≠ ".." := fun same => dots (Or.inr same)
    rw [if_neg dots, if_neg dots]
    split
    · rename_i component_eq
      have written : writable name = ['.'] := isDot.mp component_eq
      have parts : ¬ NamesParent name := fun parent => by simp [parent.2] at written
      rw [if_neg parts, if_pos written, serialize_directory]
    · rename_i component_eq
      have parent : NamesParent name := ⟨notDots, isDots.mp component_eq⟩
      rw [if_pos parent, List.dropLast_concat]
    · rename_i notDot notParent
      have parts : ¬ NamesParent name := fun parent => notParent (isDots.mpr parent.2)
      have unwritten : writable name ≠ ['.'] := fun written => notDot (isDot.mpr written)
      rw [if_neg parts, if_neg unwritten, serialize_append _ [_]]
      rfl

end

end Url

/-- The request goes to this path of the server, with this query and without a fragment. -/
structure Http.Request.GoesTo (request : Http.Request) (server : Url) (path : String)
    (query : Option String) : Prop where
  url_eq : request.url = { server with path := request.url.path, query, fragment := none }
  path_eq : request.url.path.serialize = path

namespace Client

open Url (NamesParent asDirectory tablePart formEncode)

theorem decode?_queryRequest (client : Client) (banquetUrl : String) :
    QueryRequest.decode? (client.queryRequest banquetUrl).body = some ⟨banquetUrl⟩ :=
  (QueryRequest.reads_toJson ⟨banquetUrl⟩).parse_bind

section

variable {client : Client} {server : Url} {front : List String}

theorem goesTo_child (based : client.base = { server with path := .segments (front ++ [""]) })
    {request : Http.Request} {name : String} (url_eq : request.url = client.base.child name) :
    request.GoesTo server (client.base.path.serialize ++ name) none := by
  have pathed : client.base.path = .segments (front ++ [""]) := by rw [based]
  rw [Url.child_directory pathed, based] at url_eq
  refine ⟨by rw [url_eq], ?_⟩
  rw [url_eq, pathed, ← Url.serialize_child]

theorem goesTo_schemaRequest
    (based : client.base = { server with path := .segments (front ++ [""]) })
    (special : Url.isSpecial server.scheme) (dataset table : String) :
    (client.schemaRequest dataset table).GoesTo server
      (if NamesParent table then client.base.path.serialize
        else client.base.path.serialize ++ "schema" ++ tablePart server.scheme table)
      (some ("db=" ++ formEncode dataset)) := by
  have pathed : client.base.path = .segments (front ++ [""]) := by rw [based]
  have url_eq := schemaRequest_url pathed dataset table
  rw [based] at url_eq
  refine ⟨by rw [url_eq], ?_⟩
  rw [url_eq, pathed, ← Url.serialize_child front "schema"]
  exact Url.serialize_pushName special front "schema" table

end

/-- A server that can be asked over HTTP has a client, and all that the client asks for stands
below the configured path, but for lookups of a table that names the directory above. -/
theorem requests_below_base {text : String} {settings : Settings}
    (named : Url.parse text = .ok settings.serverUrl)
    (web : settings.serverUrl.scheme = "http" ∨ settings.serverUrl.scheme = "https") :
    let server := settings.serverUrl
    let directory := asDirectory server.path.serialize
    ∃ client, new settings = .ok client ∧
      client.base = { server with path := client.base.path } ∧
      client.base.path.serialize = directory ∧
      new { settings with serverUrl := client.base } = .ok client ∧
      (client.healthRequest.method = .get ∧ client.healthRequest.body = [] ∧
        client.healthRequest.GoesTo server (directory ++ "health") none) ∧
      (∀ banquetUrl, let request := client.queryRequest banquetUrl
        request.method = .post ∧ request.GoesTo server (directory ++ "query") none ∧
        QueryRequest.decode? request.body = some ⟨banquetUrl⟩) ∧
      ∀ dataset table, let request := client.schemaRequest dataset table
        request.method = .get ∧ request.body = [] ∧
        request.GoesTo server
          (if NamesParent table then directory
            else directory ++ "schema" ++ tablePart server.scheme table)
          (some ("db=" ++ formEncode dataset)) := by
  intro server directory
  obtain ⟨chars, read⟩ := Url.afterSlashes_of_parse named web
  obtain ⟨components, pathed, apart⟩ := Url.Parse.path_afterSlashes read
  obtain ⟨front, slashed_eq, directory_eq⟩ := Url.exists_directory pathed apart
  have hosted : server.hasHost := (Url.served_of_parse named web).hosted
  let client : Client := { base := server.withTrailingSlash, lineLimit := settings.lineLimit }
  have based : client.base = { server with path := .segments (front ++ [""]) } := slashed_eq
  have basePathed : client.base.path = .segments (front ++ [""]) := by rw [based]
  have base_eq : client.base.path.serialize = directory := by rw [basePathed, directory_eq]
  have baseHosted : client.base.hasHost := by
    rw [based]
    exact hosted
  have again : new { settings with serverUrl := client.base } = .ok client := by
    rw [new_eq_of_hasHost baseHosted, Url.withTrailingSlash_directory basePathed]
  rw [← base_eq]
  refine ⟨client, new_eq_of_hasHost hosted, ?_, rfl, again, ⟨rfl, rfl, goesTo_child based rfl⟩,
    fun banquetUrl => ⟨rfl, goesTo_child based rfl, decode?_queryRequest client banquetUrl⟩,
    fun dataset table => ⟨rfl, rfl, ?_⟩⟩
  · rw [based]
  · exact goesTo_schemaRequest based (Url.isSpecial_of_web web) dataset table

/-- The URL that was read has a query and a fragment, and its path has no slash at the end. -/
theorem requests_below_base_api :
    let server : Url :=
      { scheme := "http", username := "", password := "", host := some (.domain "localhost")
        port := some 9000, path := .segments ["api"], query := some "x", fragment := some "y" }
    let settings : Settings := { Settings.default with serverUrl := server }
    Url.parse "http://localhost:9000/api?x#y" = .ok settings.serverUrl ∧
      (settings.serverUrl.scheme = "http" ∨ settings.serverUrl.scheme = "https") ∧
      ∃ client, new settings = .ok client ∧
        client.healthRequest.GoesTo server "/api/health" none ∧
        (client.queryRequest "a.sqlite/t").GoesTo server "/api/query" none ∧
        (client.schemaRequest "a b.sqlite" "c/d").GoesTo server "/api/schema/c%2Fd"
          (some "db=a+b.sqlite") := by
  intro server settings
  have named : Url.parse "http://localhost:9000/api?x#y" = .ok settings.serverUrl := by
    decide +kernel
  have web : settings.serverUrl.scheme = "http" ∨ settings.serverUrl.scheme = "https" := Or.inl rfl
  have health_eq : asDirectory settings.serverUrl.path.serialize ++ "health" = "/api/health" := by
    decide +kernel
  have query_eq : asDirectory settings.serverUrl.path.serialize ++ "query" = "/api/query" := by
    decide +kernel
  have schema_eq : asDirectory settings.serverUrl.path.serialize ++ "schema" ++
      tablePart settings.serverUrl.scheme "c/d" = "/api/schema/c%2Fd" := by
    decide +kernel
  have dataset_eq : "db=" ++ formEncode "a b.sqlite" = "db=a+b.sqlite" := by decide +kernel
  obtain ⟨client, made, _, _, _, ⟨_, _, health⟩, query, schema⟩ := requests_below_base named web
  have asked := (query "a.sqlite/t").2.1
  have lookup := (schema "a b.sqlite" "c/d").2.2
  rw [health_eq] at health
  rw [query_eq] at asked
  rw [if_neg (by decide), schema_eq, dataset_eq] at lookup
  exact ⟨named, web, client, made, health, asked, lookup⟩

/-- Without its tab, the name of a table leads to the directory above `schema`. -/
theorem schemaRequest_above :
    let server : Url :=
      { scheme := "http", username := "", password := "", host := some (.domain "localhost")
        port := some 9000, path := .segments ["api"], query := none, fragment := none }
    let settings : Settings := { Settings.default with serverUrl := server }
    Url.parse "http://localhost:9000/api" = .ok settings.serverUrl ∧
      ∃ client, new settings = .ok client ∧
        (client.schemaRequest "d.sqlite" ".\t.").url.target = "/api/?db=d.sqlite" ∧
        ∀ part, (client.schemaRequest "d.sqlite" ".\t.").url.path.serialize ≠
          asDirectory server.path.serialize ++ "schema" ++ part := by
  intro server settings
  refine ⟨by decide +kernel, _, rfl, by decide +kernel, fun part same => ?_⟩
  have path_eq : (server.withTrailingSlash.tableSchema "d.sqlite" ".\t.").path.serialize =
      "/api/" := by
    decide +kernel
  have directory_eq : asDirectory server.path.serialize = "/api/" := by decide +kernel
  rw [directory_eq] at same
  have lengths := congrArg String.length (path_eq.symm.trans same)
  rw [String.length_append, String.length_append] at lengths
  have counts : "/api/".length = 5 ∧ "schema".length = 6 := ⟨rfl, rfl⟩
  omega

end Client

end RowStream
