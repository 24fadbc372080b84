/-
  Web/PageLoading.lean --- queries of the console, and lists that it loads whole.

  Source: `query` and `allPages` in `apps/web/src/api.ts`, and the guards of `request`.

  `new URL(path, origin)` is a parameter.  A plain pathname with a query is taken apart at
  the question mark; a pathname with dot segments or escapes may become another one.  Values
  are given as `String(value)` makes them.
-/
import LuxLedger.Foundation.CursorPages
import LuxLedger.Foundation.Urlencoded
import LuxLedger.Javascript.Text
import LuxLedger.Javascript.Utf16
import LuxLedger.Web.RequestJournal

set_option autoImplicit false

namespace LuxLedger.Web

open Foundation Javascript Urlencoded

/-! ## Queries -/

/-- The list of a `URLSearchParams`. -/
abbrev SearchParams : Type := List (List Char × List Char)

/-- `params.set(name, value)`. -/
def setParam (params : SearchParams) (name value : List Char) : SearchParams :=
  match params with
  | [] => [(name, value)]
  | p :: rest =>
    if p.1 = name then (name, value) :: rest.filter fun q => q.1 ≠ name
    else p :: setParam rest name value

/-- The body of the loop of `query`: `undefined` is `none`. -/
def addValue (params : SearchParams) (entry : String × Option String) : SearchParams :=
  match entry.2 with
  | none => params
  | some value => if value = "" then params else setParam params entry.1.toList value.toList

/-- A query behind its question mark, if there is one. -/
def searchText (text : List Char) : String := if text = [] then "" else "?" ++ String.ofList text

/-- `query`. -/
def query (path : String) (values : List (String × Option String)) : String :=
  let params := values.foldl addValue []
  path ++ (if params.length ≠ 0 then "?" ++ String.ofList (serialize params) else "")

/-- What a server takes for the pathname of a request. -/
def pathnameOf (path : String) : String := cutAt path '?'

/-- What a server takes for the query of a request. -/
def queryText (path : String) : List Char := (path.toList.dropWhile fun c => c ≠ '?').tail

/-! ## URLs -/

/-- A parsed URL; `text` is `url.search` without its question mark. -/
structure PageUrl where
  origin : String
  pathname : String
  text : List Char

/-- The URL as `request` sees it. -/
def PageUrl.toUrl (url : PageUrl) : Url :=
  ⟨units url.origin, units url.pathname, units (searchText url.text)⟩

/-- `url.pathname + url.search`. -/
def PageUrl.path (url : PageUrl) : String := url.pathname ++ searchText url.text

/-- `window.location.origin`, and `new URL(path, origin)`, which is `none` when it throws. -/
structure Location where
  origin : String
  parseUrl : String → Option PageUrl

/-- The characters of a pathname that a URL keeps, dots and escapes left out. -/
def isPlainPathChar (c : Char) : Bool := c.isAlphanum || c ∈ ['/', '-', '_']

/-- A pathname that every URL keeps: absolute, of plain characters, and not the start of an
authority. -/
def PlainPathname (pathname : String) : Prop :=
  units "/v1/" <+: units pathname ∧ ∀ c ∈ pathname.toList, isPlainPathChar c = true

/-- A plain pathname and a query that has been written by the browser are parsed as they
stand. -/
def Location.KeepsPlain (location : Location) : Prop :=
  ∀ pathname text, PlainPathname pathname → (∀ c ∈ text, isWritten c = true) →
    location.parseUrl (pathname ++ searchText text) = some ⟨location.origin, pathname, text⟩

/-! ## Loading all pages -/

section Loading

variable {ρ : Type}

/-- `if (cursor) url.searchParams.set('cursor', cursor)`, on the query of the URL.  An empty
cursor is falsy. -/
def cursorText (text : List Char) : Option String → List Char
  | none => text
  | some c => if c = "" then text else serialize (setParam (parse text) "cursor".toList c.toList)

/-- The `do` loop of `allPages` for at most so many rounds, from the n-th request on: the
query of the URL, the cursor and the rows so far. -/
def pagesFrom (request : Nat → String → Except RequestError (Page ρ String)) (pathname : String) :
    Nat → Nat → List Char → Option String → List ρ → Option (Except RequestError (List ρ))
  | 0, _, _, _, _ => none
  | rounds + 1, n, text, cursor, data =>
    let text := cursorText text cursor
    match request n (pathname ++ searchText text) with
    | .error e => some (.error e)
    | .ok page =>
      let data := data ++ page.data
      match page.next with
      | none => some (.ok data)
      | some c =>
        if c = "" then some (.ok data)
        else pagesFrom request pathname rounds (n + 1) text (some c) data

/-- `allPages`, with what `request` returns for the n-th request. -/
def allPages (location : Location)
    (request : Nat → String → Except RequestError (Page ρ String)) (path : String)
    (rounds : Nat) : Option (Except RequestError (List ρ)) :=
  match location.parseUrl path with
  | none => some (.error .invalidUrl)
  | some url => pagesFrom request url.pathname rounds 0 url.text none []

/-- `request` in front of what the server answers: both of its guards, and the path of the
parsed URL. -/
def checkedRequest (location : Location)
    (serve : Nat → String → Except RequestError (Page ρ String)) (n : Nat) (path : String) :
    Except RequestError (Page ρ String) :=
  if !isAccepted (units path) then .error (.refused "Use a local /v1/ or sandbox path")
  else
    match location.parseUrl path with
    | none => .error .invalidUrl
    | some url =>
      if !url.toUrl.isLocal (units location.origin) then
        .error (.refused "Use a local API endpoint")
      else serve n url.path

/-! ## What a server reads -/

/-- The values that make it into a query. -/
def shownValues (values : List (String × Option String)) : SearchParams :=
  values.filterMap fun entry => entry.2.bind fun value =>
    if value = "" then none else some (entry.1.toList, value.toList)

/-- The parameters with a cursor. -/
def withCursor (params : SearchParams) (cursor : Option String) : SearchParams :=
  params ++ cursor.toList.map fun c => ("cursor".toList, c.toList)

/-- The server answers the parameters of a listing by its pages, unless it fails. -/
def ServesListing (request : Nat → String → Except RequestError (Page ρ String)) (pathname : String)
    (params : SearchParams) (paging : Paging ρ String) : Prop :=
  ∀ n path page, request n path = .ok page → pathnameOf path = pathname →
    (parse (queryText path) = params → page = paging.pageAt 0) ∧
    ∀ m, 0 < m → m < paging.listing.length →
      parse (queryText path) = withCursor params (some (paging.cursorAt m)) → page = paging.pageAt m

end Loading

/-! ## The query -/

theorem setParam_of_not_mem {params : SearchParams} {name value : List Char}
    (h : ∀ p ∈ params, p.1 ≠ name) : setParam params name value = params ++ [(name, value)] := by
  induction params with
  | nil => rfl
  | cons p rest ih =>
      rw [setParam, if_neg (h p List.mem_cons_self),
        ih fun q hq => h q (List.mem_cons_of_mem p hq), List.cons_append]

/-- The last value of a name is replaced where it stands. -/
theorem setParam_append {params : SearchParams} {name value value' : List Char}
    (h : ∀ p ∈ params, p.1 ≠ name) :
    setParam (params ++ [(name, value)]) name value' = params ++ [(name, value')] := by
  induction params with
  | nil => rw [List.nil_append, setParam, if_pos rfl, List.filter_nil, List.nil_append]
  | cons p rest ih =>
      rw [List.cons_append, setParam, if_neg (h p List.mem_cons_self),
        ih fun q hq => h q (List.mem_cons_of_mem p hq), List.cons_append]

theorem mem_shownValues {values : List (String × Option String)} {p : List Char × List Char}
    (h : p ∈ shownValues values) : ∃ entry ∈ values, p.1 = entry.1.toList := by
  obtain ⟨entry, hentry, hp⟩ := List.mem_filterMap.mp h
  obtain ⟨value, -, hvalue⟩ := Option.bind_eq_some_iff.mp hp
  split_ifs at hvalue
  cases hvalue
  exact ⟨entry, hentry, rfl⟩

/-- Values of different names are set one after the other. -/
theorem foldl_addValue {values : List (String × Option String)} (hkeys : (values.map (·.1)).Nodup)
    {params : SearchParams} (hparams : ∀ p ∈ params, ∀ entry ∈ values, p.1 ≠ entry.1.toList) :
    values.foldl addValue params = params ++ shownValues values := by
  induction values generalizing params with
  | nil => rw [List.foldl_nil, shownValues, List.filterMap_nil, List.append_nil]
  | cons entry rest ih =>
      obtain ⟨hfirst, hrest⟩ := List.nodup_cons.mp hkeys
      have hlater : ∀ p ∈ params, ∀ e ∈ rest, p.1 ≠ e.1.toList :=
        fun p hp e he => hparams p hp e (List.mem_cons_of_mem entry he)
      obtain ⟨key, value⟩ := entry
      have hskipped : addValue params (key, value) = params →
          shownValues ((key, value) :: rest) = shownValues rest →
          ((key, value) :: rest).foldl addValue params =
            params ++ shownValues ((key, value) :: rest) := by
        intro hsame hshown
        rw [List.foldl_cons, hsame, hshown, ih hrest hlater]
      cases value with
      | none => exact hskipped rfl rfl
      | some value =>
          by_cases hempty : value = ""
          · subst hempty
            exact hskipped rfl rfl
          · have hset : addValue params (key, some value) =
                params ++ [(key.toList, value.toList)] := by
              simp only [addValue, hempty, if_false]
              exact setParam_of_not_mem fun p hp =>
                hparams p hp (key, some value) List.mem_cons_self
            have hshown : shownValues ((key, some value) :: rest) =
                (key.toList, value.toList) :: shownValues rest := by
              simp [shownValues, hempty]
            rw [List.foldl_cons, hset, hshown, ih hrest ?_, List.append_assoc,
              List.singleton_append]
            intro p hp e he
            rcases List.mem_append.mp hp with hp | hp
            · exact hlater p hp e he
            · rw [List.mem_singleton.mp hp]
              exact fun hsame =>
                hfirst (List.mem_map.mpr ⟨e, he, (String.toList_inj.mp hsame).symm⟩)

section Query

variable {pathname : String} {values : List (String × Option String)}

theorem serialize_ne_nil {params : SearchParams} (h : params ≠ []) : serialize params ≠ [] := by
  intro hempty
  have hread := parse_serialize params
  rw [hempty] at hread
  exact h hread.symm

/-- A query is a pathname with the values that it shows. -/
theorem query_eq (hkeys : (values.map (·.1)).Nodup) :
    query pathname values = pathname ++ searchText (serialize (shownValues values)) := by
  have hparams : values.foldl addValue [] = shownValues values := by
    rw [foldl_addValue hkeys fun p hp => absurd hp List.not_mem_nil, List.nil_append]
  unfold query searchText
  rw [hparams]
  by_cases hempty : shownValues values = []
  · rw [hempty]
    rfl
  · have hlength : (shownValues values).length ≠ 0 := by simpa using hempty
    rw [if_neg (serialize_ne_nil hempty)]
    simp only [hlength, ne_eq, not_false_eq_true, if_true]

theorem pathnameOf_search (hpathname : '?' ∉ pathname.toList) (text : List Char) :
    pathnameOf (pathname ++ searchText text) = pathname := by
  have hfree : ∀ c ∈ pathname.toList, (decide (c ≠ '?')) = true := fun c hc =>
    decide_eq_true fun heq => hpathname (heq ▸ hc)
  rw [pathnameOf, ← String.toList_inj, toList_cutAt, String.toList_append,
    List.takeWhile_append_of_pos hfree]
  unfold searchText
  split_ifs
  · rw [String.toList_empty, List.takeWhile_nil, List.append_nil]
  · rw [String.toList_append]
    simp

theorem queryText_search (hpathname : '?' ∉ pathname.toList) (text : List Char) :
    queryText (pathname ++ searchText text) = text := by
  have hfree : ∀ c ∈ pathname.toList, (decide (c ≠ '?')) = true := fun c hc =>
    decide_eq_true fun heq => hpathname (heq ▸ hc)
  rw [queryText, String.toList_append, List.dropWhile_append_of_pos hfree]
  unfold searchText
  split_ifs with hempty
  · rw [hempty]
    rfl
  · rw [String.toList_append]
    simp

end Query

/-! ## The check of the path -/

/-- Between the names and the values there is nothing but `&` and `=`. -/
theorem mem_serialize {params : SearchParams} {c : Char} (h : c ∈ serialize params) :
    isWritten c = true := by
  rcases mem_of_mem_intercalate h with hc | ⟨piece, hpiece, hc⟩
  · rw [List.mem_singleton.mp hc]
    decide
  · obtain ⟨pair, -, rfl⟩ := List.mem_map.mp hpiece
    rcases List.mem_append.mp hc with hc | hc
    · simp [isWritten, mem_encodeText hc]
    · rcases List.mem_cons.mp hc with rfl | hc
      · decide
      · simp [isWritten, mem_encodeText hc]

section PlainPathnames

variable {pathname : String} {params : SearchParams}

/-- A plain pathname with a query has no character that `request` refuses. -/
theorem contains_units_search (hplain : PlainPathname pathname) {d : Char}
    (hd : d = '\\' ∨ d = '#') :
    (units (pathname ++ searchText (serialize params))).contains (UInt16.ofNat d.toNat) =
      false := by
  have hfree : ∀ c ∈ (pathname ++ searchText (serialize params)).toList, c ≠ d := by
    intro c hc
    rw [String.toList_append] at hc
    rcases List.mem_append.mp hc with hc | hc
    · have hkept := hplain.2 c hc
      rintro rfl
      rcases hd with rfl | rfl <;> exact absurd hkept (by decide)
    · unfold searchText at hc
      split_ifs at hc
      · exact absurd hc List.not_mem_nil
      · rw [String.toList_append] at hc
        rcases List.mem_append.mp hc with hc | hc
        · rw [List.mem_singleton.mp hc]
          rcases hd with rfl | rfl <;> decide
        · rw [String.toList_ofList] at hc
          have hwritten := mem_serialize hc
          rintro rfl
          rcases hd with rfl | rfl <;> exact absurd hwritten (by decide)
  rw [← Bool.not_eq_true, List.contains_iff_mem, units, List.mem_flatMap]
  rintro ⟨c, hc, hmem⟩
  refine hfree c hc (eq_of_mem_encodeChar ?_ hmem)
  rcases hd with rfl | rfl <;> decide

theorem isLocalPath_of_prefix {path : JsString} (h : units "/v1/" <+: path) :
    isLocalPath path = true := by
  rw [isLocalPath, Bool.or_eq_true, List.isPrefixOf_iff_prefix]
  exact Or.inl h

/-- A query does not make a plain pathname refused. -/
theorem isAccepted_search (hplain : PlainPathname pathname) :
    isAccepted (units (pathname ++ searchText (serialize params))) = true := by
  have hlocal : isLocalPath (units (pathname ++ searchText (serialize params))) = true := by
    rw [units_append]
    exact isLocalPath_of_prefix (hplain.1.trans (List.prefix_append _ _))
  have hbackslash : (units (pathname ++ searchText (serialize params))).contains 92 = false :=
    contains_units_search hplain (Or.inl rfl)
  have hhash : (units (pathname ++ searchText (serialize params))).contains 35 = false :=
    contains_units_search hplain (Or.inr rfl)
  rw [isAccepted, hlocal, hbackslash, hhash]
  rfl

theorem PlainPathname.no_question (hplain : PlainPathname pathname) : '?' ∉ pathname.toList :=
  fun hmem => absurd (hplain.2 '?' hmem) (by decide)

/-- A request for a plain pathname with a query reaches the server as it is. -/
theorem checkedRequest_search {ρ : Type} {location : Location}
    (hlocation : location.KeepsPlain) (hplain : PlainPathname pathname)
    (serve : Nat → String → Except RequestError (Page ρ String)) (n : Nat) :
    checkedRequest location serve n (pathname ++ searchText (serialize params)) =
      serve n (pathname ++ searchText (serialize params)) := by
  have hurl : location.parseUrl (pathname ++ searchText (serialize params)) =
      some ⟨location.origin, pathname, serialize params⟩ :=
    hlocation _ _ hplain fun c hc => mem_serialize hc
  simp [checkedRequest, isAccepted_search hplain, hurl, PageUrl.toUrl, Url.isLocal,
    isLocalPath_of_prefix hplain.1, PageUrl.path]

end PlainPathnames

/-! ## All pages -/

section AllPages

variable {ρ : Type} {location : Location}
  {request : Nat → String → Except RequestError (Page ρ String)} {pathname : String}
  {params : SearchParams} {paging : Paging ρ String}

theorem setParam_withCursor (hparams : ∀ p ∈ params, p.1 ≠ "cursor".toList)
    (cursor : Option String) (c : String) :
    setParam (withCursor params cursor) "cursor".toList c.toList = withCursor params (some c) := by
  cases cursor with
  | none =>
      rw [withCursor, Option.toList_none, List.map_nil, List.append_nil,
        setParam_of_not_mem hparams]
      rfl
  | some c' => exact setParam_append hparams

/-- The whole listing, or an error that the server has answered. -/
def LoadsAll (request : Nat → String → Except RequestError (Page ρ String))
    (paging : Paging ρ String) (result : Except RequestError (List ρ)) : Prop :=
  result = .ok paging.listing ∨ ∃ n path e, request n path = .error e ∧ result = .error e

theorem cursorText_serialize (hparams : ∀ p ∈ params, p.1 ≠ "cursor".toList)
    (cursor : Option String) {c : String} (hc : c ≠ "") :
    cursorText (serialize (withCursor params cursor)) (some c) =
      serialize (withCursor params (some c)) := by
  rw [cursorText, if_neg hc, parse_serialize, setParam_withCursor hparams]

/-- From the first `m` rows on, when the cursor is theirs. -/
theorem pagesFrom_loads (hlocation : location.KeepsPlain) (hplain : PlainPathname pathname)
    (hparams : ∀ p ∈ params, p.1 ≠ "cursor".toList) (hlimit : 0 < paging.limit)
    (hcursors : ∀ m, paging.cursorAt m ≠ "")
    (hserves : ServesListing request pathname params paging)
    {rounds n m : Nat} {text : List Char} {cursor : Option String}
    (hrounds : paging.listing.length - m < rounds)
    (hcursor : cursor = none ∧ m = 0 ∨
      cursor = some (paging.cursorAt m) ∧ 0 < m ∧ m < paging.listing.length)
    (htext : cursorText text cursor = serialize (withCursor params cursor)) :
    ∃ result, pagesFrom (checkedRequest location request) pathname rounds n text cursor
      (paging.listing.take m) = some result ∧ LoadsAll request paging result := by
  induction rounds generalizing n m text cursor with
  | zero => exact absurd hrounds (Nat.not_lt_zero _)
  | succ rounds ih =>
      have hpathname := hplain.no_question
      rw [pagesFrom, htext]
      simp only [checkedRequest_search hlocation hplain]
      cases hanswer : request n (pathname ++ searchText (serialize (withCursor params cursor))) with
      | error e => exact ⟨_, rfl, Or.inr ⟨n, _, e, hanswer, rfl⟩⟩
      | ok page =>
          have hpage : page = paging.pageAt m := by
            obtain ⟨hfirst, hnext⟩ := hserves n _ page hanswer (pathnameOf_search hpathname _)
            rw [queryText_search hpathname, parse_serialize] at hfirst hnext
            rcases hcursor with ⟨rfl, rfl⟩ | ⟨rfl, hpos, hlt⟩
            · exact hfirst (List.append_nil _)
            · exact hnext m hpos hlt rfl
          subst hpage
          simp only [take_append_pageAt]
          rcases Nat.lt_or_ge (m + paging.limit) paging.listing.length with hlt | hge
          · have hnext : (paging.pageAt m).next = some (paging.cursorAt (m + paging.limit)) :=
              cursorAfter_of_lt hlt
            simp only [hnext, hcursors, if_false]
            exact ih (by omega) (Or.inr ⟨rfl, by omega, hlt⟩)
              (cursorText_serialize hparams cursor (hcursors _))
          · have hnext : (paging.pageAt m).next = none := cursorAfter_of_le hge
            simp only [hnext]
            exact ⟨_, rfl, Or.inl (by rw [List.take_of_length_le hge])⟩

end AllPages

/-- Whatever values a query is made of, the server reads those that are not empty and nothing
else, and `allPages` loads the whole listing that they select, or throws what a request has
thrown: no request is refused, and no page is skipped or loaded twice. -/
theorem allPages_loads {ρ : Type} {request : Nat → String → Except RequestError (Page ρ String)}
    {location : Location} {pathname : String} {values : List (String × Option String)}
    {paging : Paging ρ String} (hlocation : location.KeepsPlain)
    (hplain : PlainPathname pathname) (hkeys : (values.map (·.1)).Nodup)
    (hfree : "cursor" ∉ values.map (·.1)) (hlimit : 0 < paging.limit)
    (hcursors : ∀ m, paging.cursorAt m ≠ "")
    (hserves : ServesListing request pathname (shownValues values) paging) :
    parse (queryText (query pathname values)) = shownValues values ∧
      ∀ rounds, paging.listing.length < rounds →
        ∃ result, allPages location (checkedRequest location request) (query pathname values)
          rounds = some result ∧ LoadsAll request paging result := by
  have hparams : ∀ p ∈ shownValues values, p.1 ≠ "cursor".toList := by
    intro p hp hcursor
    obtain ⟨entry, hentry, hname⟩ := mem_shownValues hp
    exact hfree (List.mem_map.mpr ⟨entry, hentry, String.toList_inj.mp (hname.symm.trans hcursor)⟩)
  have hurl : location.parseUrl (pathname ++ searchText (serialize (shownValues values))) =
      some ⟨location.origin, pathname, serialize (shownValues values)⟩ :=
    hlocation _ _ hplain fun c hc => mem_serialize hc
  rw [query_eq hkeys]
  constructor
  · rw [queryText_search hplain.no_question, parse_serialize]
  · intro rounds hrounds
    simp only [allPages, hurl]
    exact pagesFrom_loads hlocation hplain hparams hlimit hcursors hserves
      (by omega) (Or.inl ⟨rfl, rfl⟩) (congrArg serialize (List.append_nil _).symm)

namespace Sample

/-- Three rows in pages of two. -/
def threeRows : Paging Nat String where
  listing := [1, 2, 3]
  limit := 2
  cursorAt := fun n => if n = 1 then "one" else "two"

/-- Values that need escapes. -/
def typedValues : List (String × Option String) :=
  [("ledger_id", some "a&b"), ("limit", some "2"), ("cursor_of", none), ("where", some "#1 = é+")]

theorem threeRows_cursors (m : Nat) : threeRows.cursorAt m ≠ "" := by
  unfold threeRows
  dsimp only
  split <;> simp

/-- A server that reads the query. -/
def threeRowsServer (_ : Nat) (path : String) : Except RequestError (Page Nat String) :=
  let read := parse (queryText path)
  if read = shownValues typedValues then .ok (threeRows.pageAt 0)
  else if read = withCursor (shownValues typedValues) (some "one") then .ok (threeRows.pageAt 1)
  else if read = withCursor (shownValues typedValues) (some "two") then .ok (threeRows.pageAt 2)
  else .error (.api 400 .null)

theorem servesListing_threeRows :
    ServesListing threeRowsServer "/v1/accounts" (shownValues typedValues) threeRows := by
  have hdifferent : withCursor (shownValues typedValues) (some "one") ≠ shownValues typedValues ∧
      withCursor (shownValues typedValues) (some "two") ≠ shownValues typedValues ∧
      withCursor (shownValues typedValues) (some "two") ≠
        withCursor (shownValues typedValues) (some "one") := by decide
  rintro n path page hpage -
  constructor
  · intro hread
    simp only [threeRowsServer, hread, if_true] at hpage
    exact (Except.ok.inj hpage).symm
  · intro m hpos hlt hread
    obtain rfl | rfl : m = 1 ∨ m = 2 := by
      simp only [threeRows, List.length_cons, List.length_nil] at hlt
      omega
    · simp only [threeRows, if_true] at hread
      simp only [threeRowsServer, hread, hdifferent, if_false, if_true] at hpage
      exact (Except.ok.inj hpage).symm
    · have hcursor : threeRows.cursorAt 2 = "two" := rfl
      rw [hcursor] at hread
      simp only [threeRowsServer, hread, hdifferent, if_false, if_true] at hpage
      exact (Except.ok.inj hpage).symm

/-- A browser that takes a path apart at the question mark, if its characters are ones that
every URL keeps. -/
def plainLocation : Location where
  origin := "https://console.example"
  parseUrl := fun path =>
    if (pathnameOf path).toList.all isPlainPathChar && (queryText path).all isWritten then
      some ⟨"https://console.example", pathnameOf path, queryText path⟩
    else none

theorem keepsPlain_plainLocation : plainLocation.KeepsPlain := by
  intro pathname text hplain htext
  have hpathname : pathname.toList.all isPlainPathChar = true := List.all_eq_true.mpr hplain.2
  have hquery : text.all isWritten = true := List.all_eq_true.mpr htext
  simp only [plainLocation, pathnameOf_search hplain.no_question,
    queryText_search hplain.no_question, hpathname, hquery, Bool.and_self, if_true]

end Sample

/-- A filter with separators in it is read as it was typed, and all rows are loaded. -/
theorem allPages_loads_typed :
    parse (queryText (query "/v1/accounts" Sample.typedValues)) = shownValues Sample.typedValues ∧
      ∃ result, allPages Sample.plainLocation
        (checkedRequest Sample.plainLocation Sample.threeRowsServer)
        (query "/v1/accounts" Sample.typedValues) 4 = some result ∧
          LoadsAll Sample.threeRowsServer Sample.threeRows result := by
  have hplain : PlainPathname "/v1/accounts" := ⟨by decide, List.all_eq_true.mp (by decide)⟩
  have hloads := allPages_loads Sample.keepsPlain_plainLocation hplain (by decide) (by decide)
    (by decide) Sample.threeRows_cursors Sample.servesListing_threeRows
  exact ⟨hloads.1, hloads.2 4 (by decide)⟩

end LuxLedger.Web
