/-
  Web/RequestJournal.lean --- what the client writes into its request journal.

  Source: `apps/web/src/api.ts`, `redact`, `recordExternal` and `request`.

  A value is compared with its redaction place by place: the trail of a place names the
  keys that lead to it, and a place is clear when none of them is a credential key.
-/
import LuxLedger.Javascript.JsonValue

set_option autoImplicit false

namespace LuxLedger.Web

open Javascript

/-! ## `redact` -/

/-- The keys that the regular expression of `redact` lists. -/
def credentialKeys : List JsString :=
  [units "access_token", units "api_key", units "authorization", units "x-api-key",
    units "token_hash"]

/-- The `i` flag without the `u` flag: only the ASCII letters have another case that an ASCII
pattern matches. -/
def lowerCase (u : CodeUnit) : CodeUnit := if 65 ≤ u ∧ u ≤ 90 then u + 32 else u

/-- `/^(access_token|api_key|authorization|x-api-key|token_hash)$/i.test(key)`. -/
def isCredentialKey (key : JsString) : Bool := key.map lowerCase ∈ credentialKeys

/-- What stands in the place of a credential. -/
def redacted : JsonValue := .string (units "[redacted]")

mutual

/-- `redact`. -/
def redact : JsonValue → JsonValue
  | .array elements => .array (redactElements elements)
  | .object entries => .object (fromEntries (redactEntries entries))
  | value => value

/-- `value.map(redact)`. -/
def redactElements : List JsonValue → List JsonValue
  | [] => []
  | child :: rest => redact child :: redactElements rest

/-- The entries that `redact` makes an object of. -/
def redactEntries : List (JsString × JsonValue) → List (JsString × JsonValue)
  | [] => []
  | (key, child) :: rest =>
      (key, if isCredentialKey key then redacted else redact child) :: redactEntries rest

end

/-- One entry of a redacted object. -/
def redactEntry (e : JsString × JsonValue) : JsString × JsonValue :=
  (e.1, if isCredentialKey e.1 then redacted else redact e.2)

theorem redactElements_eq_map (elements : List JsonValue) :
    redactElements elements = elements.map redact := by
  induction elements with
  | nil => rfl
  | cons child rest ih => rw [redactElements, ih, List.map_cons]

theorem redactEntries_eq_map (entries : Entries) :
    redactEntries entries = entries.map redactEntry := by
  induction entries with
  | nil => rfl
  | cons e rest ih => rw [redactEntries, ih, List.map_cons, redactEntry]

theorem redact_array (elements : List JsonValue) :
    redact (.array elements) = .array (elements.map redact) := by
  rw [redact, redactElements_eq_map]

/-- No key moves: the entries are put back in the order in which they were enumerated. -/
theorem redact_object {entries : Entries}
    (h : entries.Pairwise fun e f => KeyBefore e.1 f.1) :
    redact (.object entries) = .object (entries.map redactEntry) := by
  have hkept : (entries.map redactEntry).Pairwise fun e f => KeyBefore e.1 f.1 :=
    List.pairwise_map.mpr h
  rw [redact, redactEntries_eq_map, fromEntries_of_pairwise hkept]

/-! ## Places in a value -/

/-- A value without its parts. -/
inductive Head where
  | null
  | boolean (value : Bool)
  | number (value : JsonNumber)
  | string (value : JsString)
  | array (length : Nat)
  | object (keys : List JsString)
  deriving DecidableEq

/-- A value without its parts. -/
def head : JsonValue → Head
  | .null => .null
  | .boolean b => .boolean b
  | .number n => .number n
  | .string s => .string s
  | .array elements => .array elements.length
  | .object entries => .object (entries.map (·.1))

/-- The parts of a value, each with the key it stands under. -/
def parts : JsonValue → List (Option JsString × JsonValue)
  | .array elements => elements.map fun v => (none, v)
  | .object entries => entries.map fun e => (some e.1, e.2)
  | _ => []

/-- The value at a place, and the trail of keys that leads to it. -/
def valueAt : JsonValue → List Nat → Option (List (Option JsString) × JsonValue)
  | v, [] => some ([], v)
  | v, i :: rest =>
      (parts v)[i]?.bind fun part => (valueAt part.2 rest).map fun found =>
        (part.1 :: found.1, found.2)

/-- The step goes under a credential key. -/
def isCredential (step : Option JsString) : Bool := step.any isCredentialKey

/-- No credential key leads there. -/
def Clear (trail : List (Option JsString)) : Prop := ∀ step ∈ trail, isCredential step = false

instance (trail : List (Option JsString)) : Decidable (Clear trail) :=
  inferInstanceAs (Decidable (∀ step ∈ trail, isCredential step = false))

theorem clear_cons_iff {step : Option JsString} {trail : List (Option JsString)} :
    Clear (step :: trail) ↔ isCredential step = false ∧ Clear trail :=
  List.forall_mem_cons

/-- What is visible of a value at a place. -/
def visibleAt (v : JsonValue) (path : List Nat) : Option Head :=
  (valueAt v path).bind fun found => if Clear found.1 then some (head found.2) else none

/-- Two values differ only under credential keys. -/
def AgreeOutside (v w : JsonValue) : Prop := ∀ path, visibleAt v path = visibleAt w path

/-- A value as the journal shows it. -/
structure JournalView (v shown : JsonValue) : Prop where
  /-- every clear place is kept, with its scalar, its length or its keys in order -/
  kept : ∀ path trail x, valueAt v path = some (trail, x) → Clear trail →
    ∃ y, valueAt shown path = some (trail, y) ∧ head y = head x
  /-- whatever stands under a credential key is replaced -/
  replaced : ∀ path trail key x, valueAt v path = some (trail ++ [some key], x) → Clear trail →
    isCredentialKey key = true → valueAt shown path = some (trail ++ [some key], redacted)
  /-- nothing is below it, and no place is added -/
  nothingElse : ∀ path trail y, valueAt shown path = some (trail, y) →
    (∃ x, valueAt v path = some (trail, x)) ∧ Clear trail.dropLast

/-! ## Redaction, place by place -/

theorem Enumerated.part {v : JsonValue} (h : v.Enumerated) :
    ∀ part ∈ parts v, part.2.Enumerated := by
  intro part hpart
  cases h with
  | array hparts =>
      obtain ⟨x, hx, rfl⟩ := List.mem_map.mp hpart
      exact hparts x hx
  | object _ hparts =>
      obtain ⟨e, he, rfl⟩ := List.mem_map.mp hpart
      exact hparts e he
  | null | boolean _ | number _ | string _ => cases hpart

/-- The part that redaction leaves. -/
def redactPart (part : Option JsString × JsonValue) : Option JsString × JsonValue :=
  (part.1, if isCredential part.1 then redacted else redact part.2)

theorem parts_redact {v : JsonValue} (h : v.Enumerated) :
    parts (redact v) = (parts v).map redactPart := by
  cases h with
  | @array elements _ =>
      rw [redact_array, parts, parts, List.map_map, List.map_map]
      rfl
  | @object entries hordered _ =>
      rw [redact_object hordered, parts, parts, List.map_map, List.map_map]
      rfl
  | null | boolean _ | number _ | string _ => rfl

theorem head_redact {v : JsonValue} (h : v.Enumerated) : head (redact v) = head v := by
  cases h with
  | array _ => rw [redact_array, head, List.length_map, head]
  | object hordered _ =>
      rw [redact_object hordered, head, List.map_map, head]
      rfl
  | null | boolean _ | number _ | string _ => rfl

/-- A step into a value. -/
theorem valueAt_cons_eq_some_iff {v x : JsonValue} {i : Nat} {rest : List Nat}
    {trail : List (Option JsString)} :
    valueAt v (i :: rest) = some (trail, x) ↔ ∃ part, (parts v)[i]? = some part ∧
      ∃ inner, valueAt part.2 rest = some (inner, x) ∧ trail = part.1 :: inner := by
  simp only [valueAt, Option.bind_eq_some_iff, Option.map_eq_some_iff, Prod.mk.injEq, Prod.exists]
  constructor
  · rintro ⟨key, w, hpart, inner, y, hinner, rfl, rfl⟩
    exact ⟨key, w, hpart, inner, hinner, rfl⟩
  · rintro ⟨key, w, hpart, inner, hinner, rfl⟩
    exact ⟨key, w, hpart, inner, x, hinner, rfl, rfl⟩

theorem valueAt_nil_eq_some_iff {v x : JsonValue} {trail : List (Option JsString)} :
    valueAt v [] = some (trail, x) ↔ trail = [] ∧ x = v := by
  rw [valueAt, Option.some.injEq, Prod.mk.injEq]
  exact and_congr eq_comm eq_comm

/-- The redaction of a part that is there. -/
theorem parts_redact_getElem? {v : JsonValue} (h : v.Enumerated) (i : Nat) :
    (parts (redact v))[i]? = (parts v)[i]?.map redactPart := by
  rw [parts_redact h, List.getElem?_map]

/-- At a clear place the redaction has the redaction of what was there. -/
theorem valueAt_redact_clear {path : List Nat} {v x : JsonValue}
    {trail : List (Option JsString)} (h : v.Enumerated) (hat : valueAt v path = some (trail, x))
    (hclear : Clear trail) : valueAt (redact v) path = some (trail, redact x) ∧ x.Enumerated := by
  induction path generalizing v trail with
  | nil =>
      obtain ⟨rfl, rfl⟩ := valueAt_nil_eq_some_iff.mp hat
      exact ⟨rfl, h⟩
  | cons i rest ih =>
      obtain ⟨part, hpart, inner, hinner, rfl⟩ := valueAt_cons_eq_some_iff.mp hat
      obtain ⟨hstep, hclear⟩ := clear_cons_iff.mp hclear
      obtain ⟨hrest, hx⟩ :=
        ih (Enumerated.part h part (List.mem_of_getElem? hpart)) hinner hclear
      refine ⟨valueAt_cons_eq_some_iff.mpr ⟨redactPart part, ?_, inner, ?_, rfl⟩, hx⟩
      · rw [parts_redact_getElem? h, hpart, Option.map_some]
      · rw [redactPart, if_neg (by simp [hstep])]
        exact hrest

/-- At a credential key the redaction has the replacement. -/
theorem valueAt_redact_credential {path : List Nat} {v x : JsonValue}
    {trail : List (Option JsString)} {step : Option JsString} (h : v.Enumerated)
    (hat : valueAt v path = some (trail ++ [step], x)) (hclear : Clear trail)
    (hstep : isCredential step = true) :
    valueAt (redact v) path = some (trail ++ [step], redacted) := by
  induction path generalizing v trail with
  | nil => simp [valueAt] at hat
  | cons i rest ih =>
      obtain ⟨part, hpart, inner, hinner, htrail⟩ := valueAt_cons_eq_some_iff.mp hat
      refine valueAt_cons_eq_some_iff.mpr ⟨redactPart part, ?_, ?_⟩
      · rw [parts_redact_getElem? h, hpart, Option.map_some]
      cases trail with
      | nil =>
          -- the last step of the path
          obtain ⟨rfl, rfl⟩ := List.cons.inj htrail
          refine ⟨[], ?_, rfl⟩
          cases rest with
          | nil => rw [redactPart, if_pos hstep, valueAt]
          | cons j more =>
              obtain ⟨part', -, inner', -, hempty⟩ := valueAt_cons_eq_some_iff.mp hinner
              cases hempty
      | cons first trail =>
          obtain ⟨rfl, rfl⟩ := List.cons.inj htrail
          obtain ⟨hfirst, hclear⟩ := clear_cons_iff.mp hclear
          refine ⟨trail ++ [step], ?_, rfl⟩
          rw [redactPart, if_neg (by simp [hfirst])]
          exact ih (Enumerated.part h part (List.mem_of_getElem? hpart)) hinner hclear

/-- The redaction has no other places. -/
theorem valueAt_of_redact {path : List Nat} {v y : JsonValue} {trail : List (Option JsString)}
    (h : v.Enumerated) (hat : valueAt (redact v) path = some (trail, y)) :
    (∃ x, valueAt v path = some (trail, x)) ∧ Clear trail.dropLast := by
  induction path generalizing v trail with
  | nil =>
      obtain ⟨rfl, rfl⟩ := valueAt_nil_eq_some_iff.mp hat
      exact ⟨⟨v, rfl⟩, by simp [Clear]⟩
  | cons i rest ih =>
      obtain ⟨part', hpart', inner, hinner, rfl⟩ := valueAt_cons_eq_some_iff.mp hat
      rw [parts_redact_getElem? h, Option.map_eq_some_iff] at hpart'
      obtain ⟨part, hpart, rfl⟩ := hpart'
      by_cases hstep : isCredential part.1 = true
      · -- the replacement is a string, so the path ends here
        rw [redactPart, if_pos hstep] at hinner
        cases rest with
        | nil =>
            obtain ⟨rfl, -⟩ := valueAt_nil_eq_some_iff.mp hinner
            refine ⟨⟨part.2, valueAt_cons_eq_some_iff.mpr ⟨part, hpart, [], rfl, rfl⟩⟩, ?_⟩
            simp [Clear]
        | cons j more => simp [valueAt, redacted, parts] at hinner
      · rw [redactPart, if_neg hstep] at hinner
        obtain ⟨⟨x, hx⟩, hclear⟩ :=
          ih (Enumerated.part h part (List.mem_of_getElem? hpart)) hinner
        refine ⟨⟨x, valueAt_cons_eq_some_iff.mpr ⟨part, hpart, inner, hx, rfl⟩⟩, ?_⟩
        cases inner with
        | nil => simp [Clear]
        | cons step inner =>
            rw [redactPart, List.dropLast_cons_cons]
            exact clear_cons_iff.mpr ⟨Bool.eq_false_iff.mpr hstep, hclear⟩

/-- `redact` shows the journal exactly what it may show. -/
theorem journalView_redact {v : JsonValue} (h : v.Enumerated) : JournalView v (redact v) where
  kept := by
    intro path trail x hat hclear
    obtain ⟨hshown, hx⟩ := valueAt_redact_clear h hat hclear
    exact ⟨redact x, hshown, head_redact hx⟩
  replaced := fun _ _ _ _ hat hclear hkey => valueAt_redact_credential h hat hclear hkey
  nothingElse := fun _ _ _ hat => valueAt_of_redact h hat

/-! ## Two values -/

theorem visibleAt_nil (v : JsonValue) : visibleAt v [] = some (head v) := by
  simp [visibleAt, valueAt, Clear]

theorem visibleAt_cons (v : JsonValue) (i : Nat) (rest : List Nat) :
    visibleAt v (i :: rest) = (parts v)[i]?.bind fun part =>
      if isCredential part.1 then none else visibleAt part.2 rest := by
  unfold visibleAt
  rw [valueAt]
  cases (parts v)[i]? with
  | none => rfl
  | some part =>
      cases hrest : valueAt part.2 rest with
      | none => simp [hrest]
      | some found =>
          cases hstep : isCredential part.1 <;> by_cases hclear : Clear found.1 <;>
            simp [hrest, clear_cons_iff, hstep, hclear]

/-- What is visible of a value is visible of its redaction, and no more. -/
theorem visibleAt_redact {path : List Nat} {v : JsonValue} (h : v.Enumerated) :
    visibleAt (redact v) path = visibleAt v path := by
  induction path generalizing v with
  | nil => rw [visibleAt_nil, visibleAt_nil, head_redact h]
  | cons i rest ih =>
      rw [visibleAt_cons, visibleAt_cons, parts_redact_getElem? h]
      cases hpart : (parts v)[i]? with
      | none => rfl
      | some part =>
          rw [Option.map_some, Option.bind_some, Option.bind_some, redactPart]
          cases hstep : isCredential part.1 with
          | true => rfl
          | false =>
              simp only [Bool.false_eq_true, if_false]
              exact ih (Enumerated.part h part (List.mem_of_getElem? hpart))

/-- Parts in the same position agree, unless they stand under a credential key. -/
theorem AgreeOutside.part {v w : JsonValue} (h : AgreeOutside v w) {i : Nat}
    {part part' : Option JsString × JsonValue} (hpart : (parts v)[i]? = some part)
    (hpart' : (parts w)[i]? = some part') (hkey : part.1 = part'.1)
    (hstep : isCredential part.1 = false) : AgreeOutside part.2 part'.2 := by
  intro path
  have hpath := h (i :: path)
  rw [visibleAt_cons, visibleAt_cons, hpart, hpart', Option.bind_some, Option.bind_some, ← hkey,
    hstep] at hpath
  exact hpath

theorem AgreeOutside.head_eq {v w : JsonValue} (h : AgreeOutside v w) : head v = head w := by
  have hroot := h []
  rw [visibleAt_nil, visibleAt_nil, Option.some.injEq] at hroot
  exact hroot

/-- Values that differ only under credential keys have one redaction. -/
theorem redact_eq_of_agreeOutside {v : JsonValue} :
    ∀ {w : JsonValue}, v.Enumerated → w.Enumerated → AgreeOutside v w → redact v = redact w := by
  induction v using JsonValue.induction with
  | null | boolean _ | number _ | string _ =>
      intro w _ _ h
      have hhead := h.head_eq
      cases w <;> simp_all [head, redact]
  | array elements ih =>
      intro w hv hw h
      cases w with
      | array others =>
          have hlength : elements.length = others.length := Head.array.inj h.head_eq
          rw [redact_array, redact_array, JsonValue.array.injEq]
          refine List.ext_getElem (by simp [hlength]) fun i hi hi' => ?_
          rw [List.length_map] at hi hi'
          have hpart : (parts (.array elements))[i]? = some (none, elements[i]) := by
            simp [parts, hi]
          have hpart' : (parts (.array others))[i]? = some (none, others[i]) := by
            simp [parts, hi']
          rw [List.getElem_map, List.getElem_map]
          exact ih _ (List.getElem_mem hi) (Enumerated.part hv _ (List.mem_of_getElem? hpart))
            (Enumerated.part hw _ (List.mem_of_getElem? hpart')) (h.part hpart hpart' rfl rfl)
      | _ => cases h.head_eq
  | object entries ih =>
      intro w hv hw h
      cases w with
      | object others =>
          have hkeys : entries.map (·.1) = others.map (·.1) := Head.object.inj h.head_eq
          have hlength : entries.length = others.length := by
            simpa using congrArg List.length hkeys
          have hordered : entries.Pairwise fun e f => KeyBefore e.1 f.1 := by cases hv; assumption
          have hordered' : others.Pairwise fun e f => KeyBefore e.1 f.1 := by cases hw; assumption
          rw [redact_object hordered, redact_object hordered', JsonValue.object.injEq]
          refine List.ext_getElem (by simp [hlength]) fun i hi hi' => ?_
          rw [List.length_map] at hi hi'
          have hpart : (parts (.object entries))[i]? = some (some entries[i].1, entries[i].2) := by
            simp [parts, hi]
          have hpart' : (parts (.object others))[i]? = some (some others[i].1, others[i].2) := by
            simp [parts, hi']
          have hkey : entries[i].1 = others[i].1 := by
            have hget := congrArg (fun keys => keys[i]?) hkeys
            simpa [hi, hi'] using hget
          rw [List.getElem_map, List.getElem_map, redactEntry, redactEntry, ← hkey]
          by_cases hstep : isCredentialKey entries[i].1 = true
          · rw [if_pos hstep, if_pos hstep]
          · rw [if_neg hstep, if_neg hstep, ih _ (List.getElem_mem hi)
              (Enumerated.part hv _ (List.mem_of_getElem? hpart))
              (Enumerated.part hw _ (List.mem_of_getElem? hpart'))
              (h.part hpart hpart' (congrArg some hkey) (Bool.eq_false_iff.mpr hstep))]
      | _ => cases h.head_eq

/-- A redaction says of a value exactly what is visible of it. -/
theorem redact_eq_iff {v w : JsonValue} (hv : v.Enumerated) (hw : w.Enumerated) :
    redact v = redact w ↔ AgreeOutside v w := by
  refine ⟨fun heq path => ?_, redact_eq_of_agreeOutside hv hw⟩
  rw [← visibleAt_redact hv, heq, visibleAt_redact hw]

/-- A redaction has its entries in order, as the value has. -/
theorem enumerated_redact {v : JsonValue} (h : v.Enumerated) : (redact v).Enumerated := by
  induction v using JsonValue.induction with
  | null | boolean _ | number _ | string _ => exact h
  | array elements ih =>
      rw [redact_array]
      cases h with
      | array hparts =>
          refine .array fun x hx => ?_
          obtain ⟨v, hv, rfl⟩ := List.mem_map.mp hx
          exact ih v hv (hparts v hv)
  | object entries ih =>
      cases h with
      | object hordered hparts =>
          rw [redact_object hordered]
          refine .object (List.pairwise_map.mpr hordered) fun e he => ?_
          obtain ⟨f, hf, rfl⟩ := List.mem_map.mp he
          rw [redactEntry]
          split
          · exact .string _
          · exact ih f hf (hparts f hf)

theorem redact_redact {v : JsonValue} (h : v.Enumerated) : redact (redact v) = redact v :=
  (redact_eq_iff (enumerated_redact h) h).mpr fun _ => visibleAt_redact h

/-! ## The client -/

/-- The method of a request. -/
inductive Method where
  | get
  | post
  deriving DecidableEq, Repr

/-- `DemoRequest`. -/
structure DemoRequest where
  method : Method
  path : JsString
  body : Option JsonValue

/-- `RequestRecord`. -/
structure RequestRecord where
  id : Nat
  request : DemoRequest
  status : Nat
  response : JsonValue
  requestId : Option JsString
  foreground : Bool
  duration : Nat

/-- A record before its id is given: the argument of `recordExternal`. -/
structure ExternalRecord where
  request : DemoRequest
  status : Nat
  response : ParsedJson
  requestId : Option JsString
  foreground : Bool
  duration : Nat

/-- What the module holds, and the records the observer has been handed. -/
structure Client where
  token : JsString
  recordId : Nat
  journal : List RequestRecord

/-- Give a record the next id and hand it to the observer. -/
def Client.observe (client : Client) (record : Nat → RequestRecord) : Client :=
  { client with
    recordId := client.recordId + 1
    journal := client.journal ++ [record (client.recordId + 1)] }

/-- `recordExternal`. -/
def recordExternal (client : Client) (record : ExternalRecord) : Client :=
  client.observe fun id =>
    { id
      request := record.request
      status := record.status
      response := redact record.response
      requestId := record.requestId
      foreground := record.foreground
      duration := record.duration }

/-- A parsed URL. -/
structure Url where
  origin : JsString
  pathname : JsString
  search : JsString

/-- What `request` asks `fetch` for. -/
structure FetchCall where
  url : JsString
  method : Method
  headers : List (JsString × JsString)
  body : Option JsString

/-- What becomes of a call of `fetch`. -/
inductive Fetched where
  /-- the promise of `fetch` is rejected -/
  | unreachable
  /-- the response arrives and its text does not -/
  | unreadable (status : Nat) (requestId : Option JsString)
  | answered (status : Nat) (requestId : Option JsString) (raw : JsString)

/-- The part of the browser that the client calls. -/
structure Browser where
  origin : JsString
  /-- `new URL(path, origin)`; `none` when it throws -/
  parseUrl : JsString → JsString → Option Url
  /-- `JSON.parse`; `none` when it throws -/
  parseJson : JsString → Option ParsedJson

/-- What `request` throws. -/
inductive RequestError where
  | refused (message : String)
  | invalidUrl
  | network
  | api (status : Nat) (payload : JsonValue)

/-- `/^\/(?:v1\/|demo\/session(?:[/?]|$))/.test(path)`. -/
def isLocalPath (path : JsString) : Bool :=
  (units "/v1/").isPrefixOf path ||
    ((units "/demo/session").isPrefixOf path &&
      match path.drop (units "/demo/session").length with
      | [] => true
      | next :: _ => next ∈ units "/?")

/-- The check with which `request` starts. -/
def isAccepted (path : JsString) : Bool :=
  isLocalPath path && !path.contains (92 : CodeUnit) && !path.contains (35 : CodeUnit)

/-- Its check of the parsed URL. -/
def Url.isLocal (url : Url) (origin : JsString) : Bool :=
  url.origin = origin && isLocalPath url.pathname

/-- The call that `request` makes. -/
def fetchCall (token : JsString) (operation : DemoRequest) (url : Url) : FetchCall :=
  { url := url.pathname ++ url.search
    method := operation.method
    headers :=
      (if token ≠ [] ∧ (units "/v1/").isPrefixOf operation.path then
        [(units "authorization", units "Bearer " ++ token)] else []) ++
      (if operation.body.isSome then [(units "content-type", units "application/json")] else [])
    body := operation.body.map stringify }

/-- `raw ? JSON.parse(raw) : null`, and the text itself where that throws. -/
def responseBody (browser : Browser) (raw : JsString) : ParsedJson :=
  if raw = [] then ⟨.null, .null⟩
  else
    match browser.parseJson raw with
    | some value => value
    | none => ⟨.string raw, .string raw⟩

/-- The `try` block of `request`: what `status`, `responseBody` and `requestId` are when it is
left, and how it is left. -/
def exchange (browser : Browser) : Fetched →
    (Nat × ParsedJson × Option JsString) × Except RequestError JsonValue
  | .unreachable => ((0, ⟨.null, .null⟩, none), .error .network)
  | .unreadable status requestId => ((status, ⟨.null, .null⟩, requestId), .error .network)
  | .answered status requestId raw =>
      let body := responseBody browser raw
      ((status, body, requestId),
        if 200 ≤ status ∧ status < 300 then .ok body.val else .error (.api status body))

/-- `request`; `aborted` is `signal?.aborted` when the exchange is over. -/
def request (browser : Browser) (fetch : FetchCall → Fetched) (operation : DemoRequest)
    (aborted foreground : Bool) (duration : Nat) (client : Client) :
    Except RequestError JsonValue × Client :=
  if !isAccepted operation.path then
    (.error (.refused "Use a local /v1/ or sandbox path"), client)
  else
    match browser.parseUrl operation.path browser.origin with
    | none => (.error .invalidUrl, client)
    | some url =>
        if !url.isLocal browser.origin then
          (.error (.refused "Use a local API endpoint"), client)
        else
          let left := exchange browser (fetch (fetchCall client.token operation url))
          let safe := redact left.1.2.1
          (left.2,
            if aborted then client
            else client.observe fun id =>
              { id
                request := operation
                status := left.1.1
                response := safe
                requestId := left.1.2.2
                foreground
                duration })

/-! ## Runs of the client -/

/-- What the console has the client do. -/
inductive ClientStep where
  | setAccessToken (token : JsString)
  | request (fetch : FetchCall → Fetched) (operation : DemoRequest) (aborted foreground : Bool)
      (duration : Nat)
  | external (record : ExternalRecord)

/-- The client after a step. -/
def ClientStep.run (browser : Browser) (client : Client) : ClientStep → Client
  | .setAccessToken token => { client with token }
  | .request fetch operation aborted foreground duration =>
      (Web.request browser fetch operation aborted foreground duration client).2
  | .external record => recordExternal client record

/-- The client after a run of steps. -/
def runClient (browser : Browser) (client : Client) (steps : List ClientStep) : Client :=
  steps.foldl (ClientStep.run browser) client

/-- The URL that `request` sends an operation to, if it does. -/
def Browser.target (browser : Browser) (path : JsString) : Option Url :=
  if isAccepted path then
    (browser.parseUrl path browser.origin).filter fun url => url.isLocal browser.origin
  else none

/-- What arrives of an exchange: its status, the value of its body and its request id. -/
inductive Received (browser : Browser) : Fetched → Nat → ParsedJson → Option JsString → Prop
  | unreachable : Received browser .unreachable 0 ⟨.null, .null⟩ none
  | unreadable (status : Nat) (requestId : Option JsString) :
      Received browser (.unreadable status requestId) status ⟨.null, .null⟩ requestId
  | empty (status : Nat) (requestId : Option JsString) :
      Received browser (.answered status requestId []) status ⟨.null, .null⟩ requestId
  | json (status : Nat) (requestId : Option JsString) {raw : JsString} {value : ParsedJson}
      (nonempty : raw ≠ []) (parsed : browser.parseJson raw = some value) :
      Received browser (.answered status requestId raw) status value requestId
  | text (status : Nat) (requestId : Option JsString) {raw : JsString} (nonempty : raw ≠ [])
      (unparsed : browser.parseJson raw = none) :
      Received browser (.answered status requestId raw) status ⟨.string raw, .string raw⟩ requestId

/-- Two responses whose values differ only under credential keys. -/
inductive SameFetched (browser : Browser) : Fetched → Fetched → Prop
  | refl (fetched : Fetched) : SameFetched browser fetched fetched
  | answered (status : Nat) (requestId : Option JsString) {raw raw' : JsString}
      {value value' : ParsedJson} (nonempty : raw ≠ []) (nonempty' : raw' ≠ [])
      (parsed : browser.parseJson raw = some value)
      (parsed' : browser.parseJson raw' = some value')
      (agree : AgreeOutside value value') :
      SameFetched browser (.answered status requestId raw) (.answered status requestId raw')

/-- The same step in another run: credentials differ, and so do the responses under credential
keys. -/
inductive SameStep (browser : Browser) : ClientStep → ClientStep → Prop
  | setAccessToken (token token' : JsString) :
      SameStep browser (.setAccessToken token) (.setAccessToken token')
  | request {fetch fetch' : FetchCall → Fetched} (operation : DemoRequest)
      (aborted foreground : Bool) (duration : Nat)
      (same : ∀ call call' : FetchCall, call.url = call'.url → call.method = call'.method →
        call.body = call'.body → SameFetched browser (fetch call) (fetch' call')) :
      SameStep browser (.request fetch operation aborted foreground duration)
        (.request fetch' operation aborted foreground duration)
  | external {record record' : ExternalRecord}
      (agree : AgreeOutside record.response record'.response)
      (rest : record' = { record with response := record'.response }) :
      SameStep browser (.external record) (.external record')

/-- The clients of two runs, apart from their tokens. -/
def SameJournal (client client' : Client) : Prop :=
  client.recordId = client'.recordId ∧ client.journal = client'.journal

section Runs

variable {browser : Browser} {client client' : Client}

section Requests

variable {fetch : FetchCall → Fetched} {operation : DemoRequest} {aborted foreground : Bool}
  {duration : Nat}

/-- A request that is not sent leaves the client as it is. -/
theorem request_of_target_none (h : browser.target operation.path = none) :
    (request browser fetch operation aborted foreground duration client).2 = client := by
  unfold Browser.target at h
  unfold Web.request
  cases hpath : isAccepted operation.path with
  | false => rfl
  | true =>
      rw [if_pos hpath] at h
      cases hurl : browser.parseUrl operation.path browser.origin with
      | none => rfl
      | some url =>
          rw [hurl, Option.filter_some] at h
          cases hlocal : url.isLocal browser.origin with
          | false => simp [hlocal]
          | true => simp [hlocal] at h

/-- A request that is sent is recorded, unless it has been aborted. -/
theorem request_of_target {url : Url} (h : browser.target operation.path = some url) :
    (request browser fetch operation aborted foreground duration client).2 =
      if aborted then client
      else client.observe fun id =>
        let left := (exchange browser (fetch (fetchCall client.token operation url))).1
        ⟨id, operation, left.1, redact left.2.1, left.2.2, foreground, duration⟩ := by
  unfold Browser.target at h
  unfold Web.request
  cases hpath : isAccepted operation.path with
  | false => simp [hpath] at h
  | true =>
      rw [if_pos hpath] at h
      obtain ⟨hurl, hlocal⟩ := Option.filter_eq_some_iff.mp h
      simp [hurl, hlocal]

end Requests

theorem SameFetched.exchange {fetched fetched' : Fetched}
    (h : SameFetched browser fetched fetched') :
    (exchange browser fetched).1.1 = (exchange browser fetched').1.1 ∧
      redact (exchange browser fetched).1.2.1 = redact (exchange browser fetched').1.2.1 ∧
      (exchange browser fetched).1.2.2 = (exchange browser fetched').1.2.2 := by
  cases h with
  | refl => exact ⟨rfl, rfl, rfl⟩
  | @answered status requestId raw raw' value value' hraw hraw' hparsed hparsed' hagree =>
      refine ⟨rfl, ?_, rfl⟩
      have hbody : responseBody browser raw = value := by
        rw [responseBody, if_neg hraw, hparsed]
      have hbody' : responseBody browser raw' = value' := by
        rw [responseBody, if_neg hraw', hparsed']
      simp only [Web.exchange, hbody, hbody']
      exact redact_eq_of_agreeOutside value.2 value'.2 hagree

theorem SameJournal.observe (h : SameJournal client client') (record : Nat → RequestRecord) :
    SameJournal (client.observe record) (client'.observe record) := by
  obtain ⟨hid, hjournal⟩ := h
  simp only [SameJournal, Client.observe, hid, hjournal, and_self]

/-- One step: whichever way the request is left, the records are the same. -/
theorem SameStep.run {step step' : ClientStep} (h : SameStep browser step step')
    (hclient : SameJournal client client') :
    SameJournal (step.run browser client) (step'.run browser client') := by
  cases h with
  | setAccessToken token token' => exact hclient
  | @external record record' hagree hrest =>
      rw [hrest]
      simp only [ClientStep.run, recordExternal,
        redact_eq_of_agreeOutside record.response.2 record'.response.2 hagree]
      exact hclient.observe _
  | @request fetch fetch' operation aborted foreground duration hsame =>
      cases htarget : browser.target operation.path with
      | none =>
          rw [ClientStep.run, ClientStep.run, request_of_target_none htarget,
            request_of_target_none htarget]
          exact hclient
      | some url =>
          rw [ClientStep.run, ClientStep.run, request_of_target htarget, request_of_target htarget]
          obtain ⟨hstatus, hbody, hid⟩ := (hsame (fetchCall client.token operation url)
            (fetchCall client'.token operation url) rfl rfl rfl).exchange
          cases aborted with
          | true => exact hclient
          | false =>
              simp only [hstatus, hbody, hid, Bool.false_eq_true, if_false]
              exact hclient.observe _

/-- Two runs that differ only under credential keys leave the same journal. -/
theorem sameJournal_run {steps steps' : List ClientStep}
    (h : List.Forall₂ (SameStep browser) steps steps') (hclient : SameJournal client client') :
    SameJournal (runClient browser client steps) (runClient browser client' steps') := by
  induction h generalizing client client' with
  | nil => exact hclient
  | cons hstep _ ih => exact ih (hstep.run hclient)

/-- What the observer is handed by a step, whichever way it is left. -/
inductive Handed (browser : Browser) (client : Client) : ClientStep → List RequestRecord → Prop
  | setAccessToken (token : JsString) : Handed browser client (.setAccessToken token) []
  /-- a request that is not sent leaves no record -/
  | unsent {fetch : FetchCall → Fetched} {operation : DemoRequest} {aborted foreground : Bool}
      {duration : Nat} (refused : browser.target operation.path = none) :
      Handed browser client (.request fetch operation aborted foreground duration) []
  | aborted {fetch : FetchCall → Fetched} {operation : DemoRequest} {foreground : Bool}
      {duration : Nat} :
      Handed browser client (.request fetch operation true foreground duration) []
  /-- every other exchange leaves one record, of the redaction of the body that arrived -/
  | exchanged {fetch : FetchCall → Fetched} {operation : DemoRequest} {foreground : Bool}
      {duration status : Nat} {url : Url} {body : ParsedJson} {requestId : Option JsString}
      (sent : browser.target operation.path = some url)
      (received : Received browser (fetch (fetchCall client.token operation url)) status body
        requestId) :
      Handed browser client (.request fetch operation false foreground duration)
        [⟨client.recordId + 1, operation, status, redact body, requestId, foreground, duration⟩]
  | external (record : ExternalRecord) :
      Handed browser client (.external record)
        [⟨client.recordId + 1, record.request, record.status, redact record.response,
          record.requestId, record.foreground, record.duration⟩]

/-- Something arrives of every exchange, and `exchange` hands it on. -/
theorem received_exchange (browser : Browser) (fetched : Fetched) :
    Received browser fetched (exchange browser fetched).1.1 (exchange browser fetched).1.2.1
      (exchange browser fetched).1.2.2 := by
  cases fetched with
  | unreachable => exact .unreachable
  | unreadable status requestId => exact .unreadable status requestId
  | answered status requestId raw =>
      simp only [exchange, responseBody]
      by_cases hraw : raw = []
      · subst hraw
        exact .empty status requestId
      · rw [if_neg hraw]
        cases hparsed : browser.parseJson raw with
        | none => exact .text status requestId hraw hparsed
        | some value => exact .json status requestId hraw hparsed

/-- A step appends what it hands to the observer, and nothing else. -/
theorem handed_step (step : ClientStep) :
    ∃ records, Handed browser client step records ∧
      (step.run browser client).journal = client.journal ++ records ∧
      (step.run browser client).recordId = client.recordId + records.length := by
  cases step with
  | setAccessToken token => exact ⟨[], .setAccessToken token, (List.append_nil _).symm, rfl⟩
  | external record => exact ⟨_, .external record, rfl, rfl⟩
  | request fetch operation aborted foreground duration =>
      cases htarget : browser.target operation.path with
      | none =>
          refine ⟨[], .unsent htarget, ?_⟩
          rw [ClientStep.run, request_of_target_none htarget]
          exact ⟨(List.append_nil _).symm, rfl⟩
      | some url =>
          rw [ClientStep.run, request_of_target htarget]
          cases aborted with
          | true => exact ⟨[], .aborted, (List.append_nil _).symm, rfl⟩
          | false => exact ⟨_, .exchanged htarget (received_exchange browser _), rfl, rfl⟩

end Runs

/-! ## The journal is redacted -/

/-- Redaction is complete, keeps everything else, and is what the observer is handed. -/
structure JournalRedaction (browser : Browser) : Prop where
  shown : ∀ v : ParsedJson, JournalView v (redact v)
  idempotent : ∀ v : ParsedJson, redact (redact v) = redact v
  /-- two values have one redaction exactly if they differ only under credential keys -/
  visible : ∀ v w : ParsedJson, redact v = redact w ↔ AgreeOutside v w
  /-- each step appends what it hands to the observer -/
  records : ∀ client step, ∃ records, Handed browser client step records ∧
    (step.run browser client).journal = client.journal ++ records ∧
    (step.run browser client).recordId = client.recordId + records.length

theorem journalRedaction (browser : Browser) : JournalRedaction browser where
  shown := fun v => journalView_redact v.2
  idempotent := fun v => redact_redact v.2
  visible := fun v w => redact_eq_iff v.2 w.2
  records := fun _ step => handed_step step

/-- Keys in mixed case, a secret that is no string, and keys that only resemble credentials. -/
example : stringify (redact (.array [.object [(units "Api_Key", .array [.null]),
      (units "in", .object [(units "TOKEN_HASH", .null), (units "tokens", .boolean true)])]])) =
    units "[\x7b\"Api_Key\":\"[redacted]\",\"in\":\x7b\"TOKEN_HASH\":\"[redacted]\"," ++
      units "\"tokens\":true\x7d\x7d]" := by
  decide +kernel

/-- The journal holds redactions only; and two runs whose responses differ only under credential
keys leave the same journal, however their requests end. -/
theorem journal_redacted (browser : Browser) {client client' : Client}
    {steps steps' : List ClientStep} (hclient : SameJournal client client')
    (hsteps : List.Forall₂ (SameStep browser) steps steps') :
    JournalRedaction browser ∧
      SameJournal (runClient browser client steps) (runClient browser client' steps') :=
  ⟨journalRedaction browser, sameJournal_run hsteps hclient⟩

namespace Sample

/-- A reply of the sandbox with the key that it shows. -/
def credentials (key : JsonValue) : JsonValue :=
  .object [(units "tenant_id", .string (units "t1")), (units "api_key", key)]

theorem enumerated_credentials {key : JsonValue} (h : key.Enumerated) :
    (credentials key).Enumerated := by
  refine .object (List.pairwise_pair.mpr ?_) fun e he => ?_
  · have hnames :
        arrayIndex? (units "tenant_id") = none ∧ arrayIndex? (units "api_key") = none := by
      decide +kernel
    rw [KeyBefore, hnames.1, hnames.2]
    have hdistinct : units "tenant_id" ≠ units "api_key" := by decide
    exact hdistinct
  · rcases List.mem_pair.mp he with rfl | rfl
    · exact .string _
    · exact h

/-- A key as the server issues it, and a list of two. -/
def oneKey : ParsedJson := ⟨_, enumerated_credentials (.string (units "k1"))⟩

/-- A body with two credentials. -/
def twoKeys : ParsedJson :=
  ⟨_, enumerated_credentials (.array (List.forall_mem_cons.mpr
    ⟨.string (units "k2"), List.forall_mem_singleton.mpr .null⟩))⟩

/-- A browser that reads the two replies. -/
def consoleBrowser : Browser where
  origin := units "https://console.example"
  parseUrl := fun path origin => some ⟨origin, path, []⟩
  parseJson := fun raw =>
    if raw = stringify oneKey then some oneKey
    else if raw = stringify twoKeys then some twoKeys
    else none

/-- A sandbox is opened, a request fails with the reply as its body, and the import of a file
is recorded with it. -/
def opening (reply : ParsedJson) : List ClientStep :=
  [.request (fun _ => .answered 201 (some (units "r1")) (stringify reply))
      ⟨.post, units "/demo/session", some .null⟩ false true 12,
    .request (fun _ => .answered 500 (some (units "r2")) (stringify reply))
      ⟨.get, units "/demo/session", none⟩ false false 3,
    .external ⟨⟨.post, units "/v1/import", none⟩, 207, reply, none, true, 40⟩]

theorem agreeOutside_keys : AgreeOutside oneKey twoKeys :=
  (redact_eq_iff oneKey.2 twoKeys.2).mp rfl

theorem sameSteps_opening :
    List.Forall₂ (SameStep consoleBrowser) (opening oneKey) (opening twoKeys) := by
  have hread : consoleBrowser.parseJson (stringify oneKey) = some oneKey := by
    simp [consoleBrowser]
  have hread' : consoleBrowser.parseJson (stringify twoKeys) = some twoKeys := by
    have hother : stringify twoKeys ≠ stringify oneKey := by decide +kernel
    simp [consoleBrowser, hother]
  have hsame : ∀ status requestId, SameFetched consoleBrowser
      (.answered status requestId (stringify oneKey))
      (.answered status requestId (stringify twoKeys)) := fun status requestId =>
    .answered status requestId (by decide +kernel) (by decide +kernel) hread hread'
      agreeOutside_keys
  exact .cons (.request _ _ _ _ fun _ _ _ _ _ => hsame 201 _)
    (.cons (.request _ _ _ _ fun _ _ _ _ _ => hsame 500 _)
      (.cons (.external agreeOutside_keys rfl) .nil))

end Sample

/-- Two visitors with different keys leave the same journal of three records. -/
theorem journal_redacted_keys :
    JournalRedaction Sample.consoleBrowser ∧
      SameJournal (runClient Sample.consoleBrowser ⟨[], 0, []⟩ (Sample.opening Sample.oneKey))
        (runClient Sample.consoleBrowser ⟨units "token", 0, []⟩ (Sample.opening Sample.twoKeys)) ∧
      (runClient Sample.consoleBrowser ⟨[], 0, []⟩ (Sample.opening Sample.oneKey)).recordId = 3 := by
  have hstart : SameJournal ⟨[], 0, []⟩ ⟨units "token", 0, []⟩ := ⟨rfl, rfl⟩
  obtain ⟨hredacted, hsame⟩ :=
    journal_redacted Sample.consoleBrowser hstart Sample.sameSteps_opening
  exact ⟨hredacted, hsame, by decide +kernel⟩

end LuxLedger.Web
