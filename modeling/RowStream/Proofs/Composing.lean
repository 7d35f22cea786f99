import Mathlib.Data.List.TakeDrop
import RowStream.BanquetUrl
import RowStream.Proofs.Splitting

/-!
# Banquet URLs, taken apart and put together

A path is read component by component, up to the first one that is a dataset file.
`splitPath_of_components` says what comes of it, and `exists_dataset` that a path with such a file
in it begins with a dataset.  So `parse` finds the parts that a URL was made of, and the parts that
it finds in any URL make one that is taken for the same (`parse_inverts_compose`).
-/

set_option autoImplicit false

namespace RowStream.QueryInfo

/-! ## Components -/

/-- The last component of a path is a dataset file, and none before it is one. -/
def EndsAtDataset (path : List Char) : Prop :=
  ∃ earlier last, path.splitOn '/' = earlier ++ [last] ∧ datasetEnding <:+ last ∧
    ∀ component ∈ earlier, ¬ datasetEnding <:+ component

theorem endsAtDataset_of_component {component : List Char} (undivided : '/' ∉ component)
    (isFile : datasetEnding <:+ component) : EndsAtDataset component :=
  ⟨[], component, List.splitOn_eq_singleton undivided, isFile, by simp⟩

theorem EndsAtDataset.cons {path component : List Char} (ends : EndsAtDataset path)
    (undivided : '/' ∉ component) (noFile : ¬ datasetEnding <:+ component) :
    EndsAtDataset (component ++ '/' :: path) := by
  obtain ⟨earlier, last, split, isFile, others⟩ := ends
  refine ⟨component :: earlier, last, ?_, isFile, List.forall_mem_cons.mpr ⟨noFile, others⟩⟩
  rw [List.splitOn_append_cons_self_of_not_mem undivided, split, List.cons_append]

theorem exists_dataset {path : List Char}
    (present : ∃ component ∈ path.splitOn '/', datasetEnding <:+ component) :
    ∃ dataset more, EndsAtDataset dataset ∧ dataset <+: path ∧
      path.splitOn '/' = dataset.splitOn '/' ++ more := by
  induction path using partInduction '/' with
  | last whole undivided =>
      obtain ⟨component, member, isFile⟩ := present
      rw [List.splitOn_eq_singleton undivided, List.mem_singleton] at member
      subst member
      exact ⟨component, [], endsAtDataset_of_component undivided isFile, List.prefix_rfl,
        (List.append_nil _).symm⟩
  | part first rest undivided inductionHypothesis =>
      have split := List.splitOn_append_cons_self_of_not_mem undivided rest
      by_cases firstIsFile : datasetEnding <:+ first
      · refine ⟨first, rest.splitOn '/', endsAtDataset_of_component undivided firstIsFile,
          List.prefix_append _ _, ?_⟩
        rw [split, List.splitOn_eq_singleton undivided, List.singleton_append]
      · obtain ⟨component, member, isFile⟩ := present
        rw [split, List.mem_cons] at member
        have later : component ∈ rest.splitOn '/' := by
          refine member.resolve_left fun same => firstIsFile ?_
          rw [← same]
          exact isFile
        obtain ⟨dataset, more, ends, front, restSplit⟩ :=
          inductionHypothesis ⟨component, later, isFile⟩
        refine ⟨first ++ '/' :: dataset, more, ends.cons undivided firstIsFile, ?_, ?_⟩
        · exact (List.prefix_append_right_inj first).mpr (List.cons_prefix_cons.mpr ⟨rfl, front⟩)
        · rw [split, restSplit, List.splitOn_append_cons_self_of_not_mem undivided,
            List.cons_append]

/-! ## Taking apart -/

theorem splitPath_of_components {path dataset : List Char} {more : List (List Char)}
    (ends : EndsAtDataset dataset)
    (split : path.splitOn '/' = dataset.splitOn '/' ++ more) :
    splitPath path = (dataset, more.head?.filter (· ≠ [])) := by
  obtain ⟨earlier, last, datasetSplit, isFile, others⟩ := ends
  have whole : path.splitOn '/' = earlier ++ last :: more := by
    rw [split, datasetSplit, List.append_assoc, List.singleton_append]
  have found : (path.splitOn '/').findIdx? datasetEnding.isSuffixOf = some earlier.length := by
    have none : earlier.findIdx? datasetEnding.isSuffixOf = none := by
      rw [List.findIdx?_eq_none_iff]
      intro component member
      rw [← Bool.not_eq_true, List.isSuffixOf_iff_suffix]
      exact others component member
    rw [whole, List.findIdx?_append, none, List.findIdx?_cons,
      if_pos (List.isSuffixOf_iff_suffix.mpr isFile)]
    simp
  have front : (path.splitOn '/').take (earlier.length + 1) = dataset.splitOn '/' := by
    rw [whole, datasetSplit, List.take_append, List.take_of_length_le (Nat.le_succ _)]
    simp
  have behind : (path.splitOn '/')[earlier.length + 1]? = more.head? := by
    rw [whole, List.getElem?_append_right (Nat.le_succ _), List.head?_eq_getElem?]
    simp
  simp only [splitPath, found, front, behind, List.intercalate_splitOn]

def asked : Option String → String
  | some query => "?" ++ query
  | none => ""

theorem compose_eq (info : QueryInfo) :
    info.compose = info.dataset ++ "/" ++ info.table ++ asked info.query := by
  cases query : info.query <;> simp [compose, query, asked]

theorem span_path {path : List Char} (plain : '?' ∉ path) (query : Option String) :
    (String.ofList path ++ asked query).toList.span (· ≠ '?') = (path, (asked query).toList) := by
  have kept : ∀ char ∈ path, decide (char ≠ '?') = true := fun char member =>
    decide_eq_true (ne_of_mem_of_not_mem member plain)
  rw [List.span_eq_takeWhile_dropWhile, String.toList_append, String.toList_ofList,
    List.takeWhile_append_of_pos kept, List.dropWhile_append_of_pos kept]
  cases query <;> simp [asked]

theorem parse_append_asked {path : List Char} (plain : '?' ∉ path) (query : Option String) :
    parse (String.ofList path ++ asked query) =
      { dataset := String.ofList (splitPath path).1
        table := ((splitPath path).2.map String.ofList).getD defaultTable
        query := query.filter (· ≠ "") } := by
  simp only [parse, span_path plain query]
  congr 1
  cases query with
  | none => rfl
  | some query =>
      by_cases empty : query = ""
      · simp [asked, empty, Option.filter]
      · have notNil : query.toList ≠ [] := fun none => empty (String.toList_eq_nil_iff.mp none)
        simp [asked, empty, notNil, Option.filter]

theorem exists_asked (url : String) :
    ∃ query, url = String.ofList (url.toList.takeWhile (· ≠ '?')) ++ asked query := by
  have whole : url.toList.takeWhile (· ≠ '?') ++ url.toList.dropWhile (· ≠ '?') = url.toList :=
    List.takeWhile_append_dropWhile
  have shape : ∀ query, (asked query).toList = url.toList.dropWhile (· ≠ '?') →
      url = String.ofList (url.toList.takeWhile (· ≠ '?')) ++ asked query := by
    intro query behind
    apply String.toList_inj.mp
    rw [String.toList_append, String.toList_ofList, behind, whole]
  cases behind : url.toList.dropWhile (· ≠ '?') with
  | nil => exact ⟨none, shape none behind.symm⟩
  | cons mark query =>
      have isMark : mark = '?' := by
        have head := List.head?_dropWhile_not (· ≠ '?') url.toList
        rw [behind] at head
        simpa using head
      refine ⟨some (String.ofList query), shape _ ?_⟩
      rw [behind, isMark]
      simp [asked]

/-! ## Both ways -/

theorem exists_splitOn_intercalate {table : List Char} (undivided : '/' ∉ table)
    (further : List (List Char)) :
    ∃ more, (['/'].intercalate (table :: further)).splitOn '/' = table :: more := by
  cases further with
  | nil => exact ⟨[], by rw [List.intercalate_singleton, List.splitOn_eq_singleton undivided]⟩
  | cons component rest =>
      refine ⟨(['/'].intercalate (component :: rest)).splitOn '/', ?_⟩
      rw [List.intercalate_cons_cons, List.append_assoc, List.singleton_append,
        List.splitOn_append_cons_self_of_not_mem undivided]

/-- The name of a table that can stand in a URL. -/
def IsTable (table : String) : Prop :=
  table ≠ "" ∧ '/' ∉ table.toList ∧ '?' ∉ table.toList

theorem parse_parts {dataset table : String} (datasetPlain : '?' ∉ dataset.toList)
    (ends : EndsAtDataset dataset.toList) (isTable : IsTable table) {further : List String}
    (furtherPlain : ∀ component ∈ further, '?' ∉ component.toList) (query : Option String) :
    parse ("/".intercalate (dataset :: table :: further) ++ asked query) =
      { dataset, table, query := query.filter (· ≠ "") } := by
  obtain ⟨named, undivided, tablePlain⟩ := isTable
  have shape : "/".intercalate (dataset :: table :: further) = String.ofList
      (['/'].intercalate (dataset.toList :: table.toList :: further.map String.toList)) := by
    apply String.toList_inj.mp
    simp [String.toList_intercalate]
  have plain : '?' ∉
      ['/'].intercalate (dataset.toList :: table.toList :: further.map String.toList) := by
    apply notMem_intercalate (by decide)
    intro part member
    simp only [List.mem_cons, List.mem_map] at member
    rcases member with rfl | rfl | ⟨component, inFurther, rfl⟩
    · exact datasetPlain
    · exact tablePlain
    · exact furtherPlain component inFurther
  obtain ⟨more, behind⟩ := exists_splitOn_intercalate undivided (further.map String.toList)
  have split : (['/'].intercalate (dataset.toList :: table.toList ::
      further.map String.toList)).splitOn '/' =
        dataset.toList.splitOn '/' ++ table.toList :: more := by
    rw [List.intercalate_cons_cons, List.append_assoc, List.singleton_append,
      List.splitOn_append_cons_self, behind]
  have notNil : table.toList ≠ [] := fun none => named (String.toList_eq_nil_iff.mp none)
  rw [shape, parse_append_asked plain, splitPath_of_components ends split]
  simp [Option.filter, notNil]

theorem isTable_defaultTable : IsTable defaultTable := ⟨by decide, by decide, by decide⟩

theorem isTable_of_component {path component : List Char} (plain : '?' ∉ path)
    (member : component ∈ path.splitOn '/') (named : component ≠ []) :
    IsTable (String.ofList component) := by
  obtain ⟨undivided, inPath⟩ := of_mem_splitOn member
  refine ⟨?_, ?_, ?_⟩
  · exact fun empty => named (by simpa using congrArg String.toList empty)
  · rw [String.toList_ofList]
    exact undivided
  · rw [String.toList_ofList]
    exact fun marked => plain (inPath marked)

theorem exists_parts {url : String}
    (present : ∃ component ∈ (url.toList.takeWhile (· ≠ '?')).splitOn '/',
      datasetEnding <:+ component) :
    '?' ∉ (parse url).dataset.toList ∧ EndsAtDataset (parse url).dataset.toList ∧
      (parse url).dataset.toList <+: url.toList ∧ IsTable (parse url).table ∧
      (parse url).query.filter (· ≠ "") = (parse url).query := by
  obtain ⟨query, shape⟩ := exists_asked url
  have plain : '?' ∉ url.toList.takeWhile (· ≠ '?') := fun marked => by
    simpa using List.all_eq_true.mp List.all_takeWhile '?' marked
  obtain ⟨dataset, more, ends, front, split⟩ := exists_dataset present
  have parts : parse url =
      { dataset := String.ofList dataset
        table := ((more.head?.filter (· ≠ [])).map String.ofList).getD defaultTable
        query := query.filter (· ≠ "") } := by
    conv => lhs; rw [shape]
    rw [parse_append_asked plain, splitPath_of_components ends split]
  rw [parts]
  simp only [String.toList_ofList]
  refine ⟨fun marked => plain (front.subset marked), ends,
    front.trans (List.takeWhile_prefix _), ?_, ?_⟩
  · cases found : more.head?.filter (· ≠ []) with
    | none => exact isTable_defaultTable
    | some component =>
        obtain ⟨isHead, named⟩ := Option.filter_eq_some_iff.mp found
        have member : component ∈ (url.toList.takeWhile (· ≠ '?')).splitOn '/' := by
          rw [split]
          exact List.mem_append_right _ (List.mem_of_head? isHead)
        exact isTable_of_component plain member (of_decide_eq_true named)
  · rw [Option.filter_filter]
    simp

/-- A URL of a dataset, a table and perhaps more components and a query is taken apart into just
these.  What is found in any URL that names a dataset makes a URL in which the same is found. -/
theorem parse_inverts_compose :
    (∀ (dataset table : String) (further : List String) (query : Option String),
      '?' ∉ dataset.toList → EndsAtDataset dataset.toList → IsTable table →
      (∀ component ∈ further, '?' ∉ component.toList) →
      parse ("/".intercalate (dataset :: table :: further) ++ asked query) =
        { dataset, table, query := query.filter (· ≠ "") }) ∧
    ∀ url : String,
      (∃ component ∈ (url.toList.takeWhile (· ≠ '?')).splitOn '/', datasetEnding <:+ component) →
      parse (parse url).compose = parse url ∧ (parse url).dataset.toList <+: url.toList ∧
        (parse url).table ≠ "" := by
  refine ⟨fun dataset table further query datasetPlain ends isTable furtherPlain =>
    parse_parts datasetPlain ends isTable furtherPlain query, fun url present => ?_⟩
  obtain ⟨plain, ends, front, isTable, asks⟩ := exists_parts present
  refine ⟨?_, front, isTable.1⟩
  have again := parse_parts plain ends isTable (List.forall_mem_nil _) (parse url).query
  have shape : (parse url).compose =
      "/".intercalate [(parse url).dataset, (parse url).table] ++ asked (parse url).query := by
    rw [compose_eq, String.intercalate_cons_cons, String.intercalate_singleton]
  rw [shape, again, asks]

/-- A table and a query that look like datasets, and a URL with doubled slashes and nothing behind
its question mark. -/
theorem parse_inverts_compose_misleading :
    let dataset := "/data/Index.sqlite"
    let table := "t.sqlite"
    let further := ["", "b.sqlite"]
    let query := "q?/c.sqlite/t"
    let doubled := "//a.sqlite//t?"
    '?' ∉ dataset.toList ∧ EndsAtDataset dataset.toList ∧ IsTable table ∧
      (∀ component ∈ further, '?' ∉ component.toList) ∧
      (∃ component ∈ (doubled.toList.takeWhile (· ≠ '?')).splitOn '/',
        datasetEnding <:+ component) ∧
      parse "/data/Index.sqlite/t.sqlite//b.sqlite?q?/c.sqlite/t" =
        { dataset, table, query := some query } ∧
      parse (parse doubled).compose = parse doubled ∧
      (parse doubled).dataset.toList <+: doubled.toList ∧ (parse doubled).table ≠ "" := by
  intro dataset table further query doubled
  have plain : '?' ∉ dataset.toList := by decide
  have ends : EndsAtDataset dataset.toList :=
    ⟨[[], "data".toList], "Index.sqlite".toList, by decide, by decide, by decide⟩
  have isTable : IsTable table := ⟨by decide, by decide, by decide⟩
  have furtherPlain : ∀ component ∈ further, '?' ∉ component.toList := by decide
  have present : ∃ component ∈ (doubled.toList.takeWhile (· ≠ '?')).splitOn '/',
      datasetEnding <:+ component := ⟨"a.sqlite".toList, by decide, by decide⟩
  have found := parse_inverts_compose.1 dataset table further (some query) plain ends isTable
    furtherPlain
  have shape : "/".intercalate (dataset :: table :: further) ++ asked (some query) =
      "/data/Index.sqlite/t.sqlite//b.sqlite?q?/c.sqlite/t" := by decide
  rw [shape] at found
  exact ⟨plain, ends, isTable, furtherPlain, present, found,
    parse_inverts_compose.2 doubled present⟩

end RowStream.QueryInfo
