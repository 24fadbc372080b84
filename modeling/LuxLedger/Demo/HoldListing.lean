/-
  Demo/HoldListing.lean --- `GET /demo/session/holds`, and the console's walk through
  its pages.

  Source: `apps/api/src/demo/sandbox.ts`, `apps/web/src/App.tsx`.
-/
import LuxLedger.Foundation.KeysetPages
import LuxLedger.Schema.Tables

set_option autoImplicit false

namespace LuxLedger.Demo

open Foundation Relational Schema

/-! ## The endpoint -/

/-- `limit: { type: 'integer', minimum: 1, maximum: 200 }`. -/
structure PageLimit where
  value : Nat
  one_le : 1 ≤ value
  le_max : value ≤ 200

/-- `default: 25`. -/
def PageLimit.default : PageLimit := ⟨25, by decide, by decide⟩

/-- The query of `GET /demo/session/holds`. -/
structure HoldsQuery where
  ledgerId : Uuid
  cursor : Option Uuid
  limit : PageLimit

/-- A selected row. -/
structure HoldView where
  id : Uuid
  ledgerId : Uuid
  reference : String
  description : Option String
  state : HoldState
  originalAmountMinor : String
  remainingAmountMinor : String
  createdAt : Timestamp
  deriving DecidableEq, Repr

/-- The fields of a hold that the page shows. -/
def HoldView.of (hold : Hold) : HoldView where
  id := hold.id
  ledgerId := hold.ledgerId
  reference := hold.reference
  description := hold.description
  state := hold.state
  originalAmountMinor := toString hold.originalAmountMinor
  remainingAmountMinor := toString hold.remainingAmountMinor
  createdAt := hold.createdAt

/-- The page that is answered. -/
structure HoldsPage where
  data : List HoldView
  nextCursor : Option Uuid
  deriving DecidableEq, Repr

/-- `where tenant_id = $1 and ledger_id = $2`. -/
def holdsOf (tenantId ledgerId : Uuid) (holds : List Hold) : List Hold :=
  holds.filter fun h => h.tenantId = tenantId ∧ h.ledgerId = ledgerId

/-- The handler, for the tenant of the session. -/
def listHolds (holds : List Hold) (tenantId : Uuid) (query : HoldsQuery) : HoldsPage :=
  let limit := query.limit.value
  let rows := (((holdsOf tenantId query.ledgerId holds).filter fun h =>
    query.cursor.all fun c => decide (c < h.id)).insertionSort fun a b => a.id ≤ b.id).take
      (limit + 1)
  { data := (rows.take limit).map HoldView.of
    nextCursor := if limit < rows.length then (rows[limit - 1]?).map (·.id) else none }

/-- The endpoint serves keyset pages of the scoped holds. -/
theorem listHolds_eq_page (holds : List Hold) (tenantId : Uuid) (query : HoldsQuery) :
    listHolds holds tenantId query =
      { data := (page Hold.id query.limit.value query.cursor
          (holdsOf tenantId query.ledgerId holds)).data.map HoldView.of
        nextCursor := (page Hold.id query.limit.value query.cursor
          (holdsOf tenantId query.ledgerId holds)).next } := rfl

/-! ## Loading more -/

/-- The pages of one walk: the first without a cursor, each further one at the
`next_cursor` of the page before, until there is none.  A request finds the holds as
they are by then. -/
def loadHolds (tenantId ledgerId : Uuid) : Option Uuid → List (List Hold × PageLimit) →
    List HoldsPage
  | _, [] => []
  | cursor, (holds, limit) :: requests =>
      let served := listHolds holds tenantId ⟨ledgerId, cursor, limit⟩
      served ::
        match served.nextCursor with
        | none => []
        | some next => loadHolds tenantId ledgerId (some next) requests

/-- All the holds of the pages. -/
def loadedHolds (pages : List HoldsPage) : List HoldView := pages.flatMap (·.data)

section Walk

variable {tenantId ledgerId : Uuid} {requests : List (List Hold × PageLimit)}

/-- What a request reads. -/
def readOf (tenantId ledgerId : Uuid) (request : List Hold × PageLimit) : List Hold × Nat :=
  (holdsOf tenantId ledgerId request.1, request.2.value)

/-- A page as the endpoint serves it. -/
def HoldsPage.of (p : Page Hold Uuid) : HoldsPage := ⟨p.data.map HoldView.of, p.next⟩

theorem loadHolds_eq_follow (cursor : Option Uuid) :
    loadHolds tenantId ledgerId cursor requests =
      (follow Hold.id cursor (requests.map (readOf tenantId ledgerId))).map HoldsPage.of := by
  induction requests generalizing cursor with
  | nil => rfl
  | cons request requests ih =>
      rw [loadHolds, listHolds_eq_page, List.map_cons, follow, List.map_cons]
      dsimp only [readOf, HoldsPage.of]
      cases (page Hold.id request.2.value cursor (holdsOf tenantId ledgerId request.1)).next with
      | none => rfl
      | some c => exact congrArg _ (ih (some c))

theorem loadedHolds_of (pages : List (Page Hold Uuid)) :
    loadedHolds (pages.map HoldsPage.of) = (returned pages).map HoldView.of := by
  rw [loadedHolds, returned, List.flatMap_map, List.map_flatMap]
  rfl

theorem mem_holdsOf {holds : List Hold} {h : Hold} :
    h ∈ holdsOf tenantId ledgerId holds ↔
      h ∈ holds ∧ h.tenantId = tenantId ∧ h.ledgerId = ledgerId := by
  rw [holdsOf, List.mem_filter, decide_eq_true_eq]

/-- A request and its page, as a read and its page. -/
theorem read_of_served {cursor : Option Uuid} {served : (List Hold × PageLimit) × HoldsPage}
    (h : served ∈ requests.zip (loadHolds tenantId ledgerId cursor requests)) :
    ∃ p, served.2 = HoldsPage.of p ∧ (readOf tenantId ledgerId served.1, p) ∈
      (requests.map (readOf tenantId ledgerId)).zip
        (follow Hold.id cursor (requests.map (readOf tenantId ledgerId))) := by
  rw [loadHolds_eq_follow, List.zip_map_right, List.mem_map] at h
  obtain ⟨⟨request, p⟩, hmem, rfl⟩ := h
  refine ⟨p, rfl, ?_⟩
  rw [List.zip_map_left, List.mem_map]
  exact ⟨(request, p), hmem, rfl⟩

/-- The holds of one table are still there, with their tenant and ledger, in the other. -/
def StillThere (earlier later : List Hold) : Prop :=
  ∀ h ∈ earlier, ∃ h' ∈ later, h'.id = h.id ∧ h'.tenantId = h.tenantId ∧ h'.ledgerId = h.ledgerId

theorem limit_pos : ∀ read ∈ requests.map (readOf tenantId ledgerId), 0 < read.2 := by
  intro read hread
  obtain ⟨request, _, rfl⟩ := List.mem_map.mp hread
  exact request.2.one_le

theorem uniqueKey_reads (hkeys : ∀ request ∈ requests, UniqueKey Hold.id request.1) :
    ∀ read ∈ requests.map (readOf tenantId ledgerId), UniqueKey Hold.id read.1 := by
  intro read hread
  obtain ⟨request, hrequest, rfl⟩ := List.mem_map.mp hread
  exact (hkeys request hrequest).sublist List.filter_sublist

theorem loadedIds_eq (cursor : Option Uuid) :
    (loadedHolds (loadHolds tenantId ledgerId cursor requests)).map (·.id) =
      (returned (follow Hold.id cursor (requests.map (readOf tenantId ledgerId)))).map Hold.id := by
  rw [loadHolds_eq_follow, loadedHolds_of, List.map_map]
  rfl

/-- The ids come in their order, so none comes twice. -/
theorem loadedIds_ascending (hkeys : ∀ request ∈ requests, UniqueKey Hold.id request.1) :
    ((loadedHolds (loadHolds tenantId ledgerId none requests)).map (·.id)).Pairwise (· < ·) := by
  rw [loadedIds_eq, List.pairwise_map]
  exact ascending_follow limit_pos (uniqueKey_reads hkeys)

/-- A hold of the first table is there at every request. -/
theorem present_of_growing (hgrowing : requests.Pairwise fun a b => StillThere a.1 b.1)
    {first : List Hold × PageLimit} (hfirst : first ∈ requests.head?) {h : Hold}
    (hmem : h ∈ holdsOf tenantId ledgerId first.1) :
    ∀ read ∈ requests.map (readOf tenantId ledgerId), h.id ∈ read.1.map Hold.id := by
  cases requests with
  | nil => cases hfirst
  | cons request requests =>
      rw [List.head?_cons, Option.mem_some_iff] at hfirst
      subst hfirst
      intro read hread
      obtain ⟨later, hlater, rfl⟩ := List.mem_map.mp hread
      obtain ⟨hhold, htenant, hledger⟩ := mem_holdsOf.mp hmem
      rcases List.mem_cons.mp hlater with rfl | hlater
      · exact List.mem_map_of_mem hmem
      · obtain ⟨h', hh', hid, htenant', hledger'⟩ :=
          (List.pairwise_cons.mp hgrowing).1 later hlater h hhold
        rw [← hid]
        exact List.mem_map_of_mem
          (mem_holdsOf.mpr ⟨hh', htenant'.trans htenant, hledger'.trans hledger⟩)

/-- A walk whose requests find growing tables: its ids ascend; it returns every hold of the
first table once when it ends, and none of another tenant or ledger; and it ends only
where nothing larger was to be seen. -/
theorem loadHolds_complete (tenantId ledgerId : Uuid) (requests : List (List Hold × PageLimit))
    (hkeys : ∀ request ∈ requests, UniqueKey Hold.id request.1)
    (hgrowing : requests.Pairwise fun a b => StillThere a.1 b.1)
    (hended : ∃ last ∈ loadHolds tenantId ledgerId none requests, last.nextCursor = none) :
    ((loadedHolds (loadHolds tenantId ledgerId none requests)).map (·.id)).Pairwise (· < ·) ∧
    (∀ first ∈ requests.head?, ∀ h ∈ first.1, h.tenantId = tenantId → h.ledgerId = ledgerId →
      ((loadedHolds (loadHolds tenantId ledgerId none requests)).map (·.id)).count h.id = 1) ∧
    (∀ served ∈ requests.zip (loadHolds tenantId ledgerId none requests),
      ∀ view ∈ served.2.data, ∃ h ∈ served.1.1, view = HoldView.of h ∧
        h.tenantId = tenantId ∧ h.ledgerId = ledgerId) ∧
    ∀ served ∈ requests.zip (loadHolds tenantId ledgerId none requests),
      served.2.nextCursor = none → ∀ h ∈ served.1.1, h.tenantId = tenantId →
        h.ledgerId = ledgerId →
        ∃ view ∈ loadedHolds (loadHolds tenantId ledgerId none requests), h.id ≤ view.id := by
  have hreads : ∀ read ∈ requests.map (readOf tenantId ledgerId), UniqueKey Hold.id read.1 :=
    uniqueKey_reads hkeys
  have hascending : ((loadedHolds (loadHolds tenantId ledgerId none requests)).map
    (·.id)).Pairwise (· < ·) := loadedIds_ascending hkeys
  refine ⟨hascending, ?_, ?_, ?_⟩
  · intro first hfirst h hmem htenant hledger
    apply List.count_eq_one_of_mem (hascending.imp fun hlt => ne_of_lt hlt)
    rw [loadedIds_eq]
    obtain ⟨last, hlast, hnone⟩ := hended
    rw [loadHolds_eq_follow, List.mem_map] at hlast
    obtain ⟨p, hp, rfl⟩ := hlast
    exact returned_of_ended limit_pos hreads ⟨p, hp, hnone⟩ (fun _ hc => (by cases hc))
      (present_of_growing hgrowing hfirst (mem_holdsOf.mpr ⟨hmem, htenant, hledger⟩))
  · intro served hserved view hview
    obtain ⟨p, hp, hread⟩ := read_of_served hserved
    rw [hp] at hview
    obtain ⟨h, hh, rfl⟩ := List.mem_map.mp hview
    obtain ⟨hmem, hscope⟩ := mem_holdsOf.mp (mem_of_returned limit_pos hreads hread h hh)
    exact ⟨h, hmem, rfl, hscope⟩
  · intro served hserved hnone h hmem htenant hledger
    obtain ⟨p, hp, hread⟩ := read_of_served hserved
    rw [hp] at hnone
    have hscoped : h ∈ holdsOf tenantId ledgerId served.1.1 :=
      mem_holdsOf.mpr ⟨hmem, htenant, hledger⟩
    rcases le_returned_of_last limit_pos hreads hread hnone hscoped with
      ⟨r, hr, hle⟩ | ⟨c, hc, _⟩
    · refine ⟨HoldView.of r, ?_, hle⟩
      rw [loadHolds_eq_follow, loadedHolds_of]
      exact List.mem_map_of_mem hr
    · cases hc

/-- Requests enough for all holds ever seen end a walk. -/
theorem loadHolds_ends (hkeys : ∀ request ∈ requests, UniqueKey Hold.id request.1)
    {ids : List Uuid} (hwithin : ∀ request ∈ requests, ∀ h ∈ request.1, h.id ∈ ids)
    (hmany : ids.length < requests.length) :
    ∃ last ∈ loadHolds tenantId ledgerId none requests, last.nextCursor = none := by
  have hseen : ∀ read ∈ requests.map (readOf tenantId ledgerId), ∀ r ∈ read.1, r.id ∈ ids := by
    intro read hread r hr
    obtain ⟨request, hrequest, rfl⟩ := List.mem_map.mp hread
    exact hwithin request hrequest r (mem_holdsOf.mp hr).1
  have hlength : ids.length < (requests.map (readOf tenantId ledgerId)).length := by
    rw [List.length_map]
    exact hmany
  obtain ⟨last, hlast, hnone⟩ : Ended (follow Hold.id none _) :=
    ended_of_lt limit_pos (uniqueKey_reads hkeys) hseen hlength
  refine ⟨HoldsPage.of last, ?_, hnone⟩
  rw [loadHolds_eq_follow]
  exact List.mem_map_of_mem hlast

end Walk

section Sample

/-- A hold of tenant 1 and ledger 7. -/
def heldHold (id : Uuid) : Hold where
  id := id
  tenantId := 1
  ledgerId := 7
  reference := "demo"
  currency := "USD"
  assetId := 3
  description := none
  state := .held
  originalAmountMinor := 100
  remainingAmountMinor := 100
  createdAt := 0
  appliedAt := none
  voidedAt := none

/-- Two holds, and two more before the second page, one on each side of the cursor. -/
theorem loadHolds_complete_sample :
    (loadedHolds (loadHolds 1 7 none
      [([heldHold 9, heldHold 4], ⟨1, by decide, by decide⟩),
        ([heldHold 9, heldHold 4, heldHold 2, heldHold 6], PageLimit.default)])).map (·.id) =
          [4, 6, 9] ∧
    ∀ h ∈ [heldHold 9, heldHold 4], ((loadedHolds (loadHolds 1 7 none
      [([heldHold 9, heldHold 4], ⟨1, by decide, by decide⟩),
        ([heldHold 9, heldHold 4, heldHold 2, heldHold 6], PageLimit.default)])).map
          (·.id)).count h.id = 1 := by
  have hcomplete := loadHolds_complete 1 7
    [([heldHold 9, heldHold 4], ⟨1, by decide, by decide⟩),
      ([heldHold 9, heldHold 4, heldHold 2, heldHold 6], PageLimit.default)]
    (by
      intro request hrequest
      rcases List.mem_cons.mp hrequest with rfl | hrequest
      · decide
      · rw [List.mem_singleton.mp hrequest]
        decide)
    (by
      rw [List.pairwise_pair]
      intro h hh
      exact ⟨h, List.mem_append_left [heldHold 2, heldHold 6] hh, rfl, rfl, rfl⟩)
    ⟨_, List.mem_cons_of_mem _ List.mem_cons_self, by decide +kernel⟩
  refine ⟨by decide +kernel, fun h hh => hcomplete.2.1 _ rfl h hh ?_ ?_⟩
  · rcases List.mem_cons.mp hh with rfl | hh
    · rfl
    · rw [List.mem_singleton.mp hh]
      rfl
  · rcases List.mem_cons.mp hh with rfl | hh
    · rfl
    · rw [List.mem_singleton.mp hh]
      rfl

end Sample

end LuxLedger.Demo
