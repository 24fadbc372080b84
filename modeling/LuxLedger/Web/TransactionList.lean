/-
  Web/TransactionList.lean --- the transactions list of the console while loads overlap.

  Source: `refresh`, `moreTransactions`, `execute`, the ledger effect, the ledger select and
  the reference filter in `apps/web/src/App.tsx`.

  The listing itself belongs to the API; it stands still here, and what is posted
  meanwhile adds no transaction to it.
-/
import LuxLedger.Foundation.CursorPages
import LuxLedger.Relational.Statement

set_option autoImplicit false

namespace LuxLedger.Web

open Foundation Relational

/-! ## The listing -/

/-- A transaction, as it is listed. -/
structure Transaction where
  id : String
  reference : String
  description : Option String
  relationType : Option String
  effectiveAt : String
  deriving DecidableEq, Repr

/-- `GET /v1/transactions?ledger_id=…&limit=…&cursor=…&where=…` -/
structure TransactionsQuery where
  ledgerId : String
  limit : Nat
  cursor : Option String
  /-- `where: { reference: { eq: … } }` -/
  reference : Option String
  deriving DecidableEq, Repr

/-- The transactions of a reference, if one is asked for. -/
def matching (reference : Option String) (transactions : List Transaction) : List Transaction :=
  transactions.filter fun t => reference.all fun text => decide (t.reference = text)

/-- The endpoint: a listing of the ledger's transactions, in pages that continue at opaque
cursors.  It may refuse a cursor that is not of the listing, or answer it somehow. -/
structure TransactionService where
  transactions : String → List Transaction
  nodup : ∀ ledger, ((transactions ledger).map (·.id)).Nodup
  cursorAt : String → Nat → Option String → Nat → String
  serve : TransactionsQuery → Option (Page Transaction String)
  serves : ∀ ledger limit reference, 0 < limit →
    Paging.Serves ⟨matching reference (transactions ledger), limit, cursorAt ledger limit reference⟩
      fun cursor => serve ⟨ledger, limit, cursor, reference⟩

/-- `ledger` and `txFilter` -/
structure Selection where
  ledger : String
  filter : String
  deriving DecidableEq, Repr

/-- The query of `refresh` and `moreTransactions`. -/
def Selection.query (selection : Selection) (cursor : Option String) : TransactionsQuery where
  ledgerId := selection.ledger
  limit := 10
  cursor := cursor
  reference := if selection.filter = "" then none else some selection.filter

namespace TransactionService

variable (service : TransactionService) (selection : Selection)

/-- The page that the service answers. -/
def served (cursor : Option String) : Option (Page Transaction String) :=
  service.serve (selection.query cursor)

/-- The listing of a selection. -/
def paging : Paging Transaction String where
  listing := matching (selection.query none).reference (service.transactions selection.ledger)
  limit := 10
  cursorAt := service.cursorAt selection.ledger 10 (selection.query none).reference

theorem serves_served : (service.paging selection).Serves (service.served selection) :=
  service.serves selection.ledger 10 (selection.query none).reference (by decide)

theorem limit_pos : 0 < (service.paging selection).limit := Nat.succ_pos 9

theorem nodup_paging : ((service.paging selection).listing.map (·.id)).Nodup :=
  (service.nodup selection.ledger).sublist (List.filter_sublist.map _)

end TransactionService

/-! ## The list -/

/-- A call of `refresh` whose requests are under way. -/
structure Refresh where
  version : Nat
  selection : Selection
  deriving DecidableEq, Repr

/-- What holds `busy`. -/
inductive Foreground where
  | idle
  /-- `moreTransactions`, with the selection and the cursor it was called with -/
  | loading (selection : Selection) (cursor : String)
  /-- a POST -/
  | posting
  /-- the `refresh` after it -/
  | refreshing (version : Nat)
  deriving DecidableEq, Repr

/-- The list of the console with its requests. -/
structure TransactionList where
  selection : Selection
  rows : List Transaction
  /-- `txCursor` -/
  cursor : Option String
  refreshVersion : Nat
  refreshes : List Refresh
  foreground : Foreground
  deriving DecidableEq, Repr

namespace TransactionList

/-- `refresh`, up to its requests. -/
def startRefresh (s : TransactionList) : TransactionList :=
  if s.selection.ledger = "" then s
  else
    { s with
      refreshVersion := s.refreshVersion + 1
      refreshes := s.refreshes ++ [⟨s.refreshVersion + 1, s.selection⟩] }

/-- A refresh is over, and so is the POST that waits for it. -/
def settle (s : TransactionList) (i : Nat) (version : Nat) : TransactionList :=
  { s with
    refreshes := s.refreshes.eraseIdx i
    foreground := if s.foreground = .refreshing version then .idle else s.foreground }

/-- The first ledger has been selected. -/
def opened (selection : Selection) : TransactionList :=
  startRefresh ⟨selection, [], none, 0, [], .idle⟩

end TransactionList

/-- What happens at the list. -/
inductive ListEvent where
  | editFilter (filter : String)
  | selectLedger (ledger : String)
  | refreshed (i : Nat)
  | refreshFailed (i : Nat)
  /-- the Load more button -/
  | loadMore
  | moreLoaded
  | moreFailed
  | post
  | posted
  | postFailed
  deriving DecidableEq, Repr

/-- One event; it fails when the page cannot have it. -/
def TransactionList.step (service : TransactionService) (s : TransactionList) :
    ListEvent → Except Unit TransactionList
  | .editFilter filter =>
      if filter = s.selection.filter then .error ()
      else .ok { s with selection := ⟨s.selection.ledger, filter⟩ }.startRefresh
  | .selectLedger ledger =>
      if s.foreground ≠ .idle ∨ ledger = s.selection.ledger ∨ ledger = "" then .error ()
      else .ok { s with selection := ⟨ledger, ""⟩, rows := [] }.startRefresh
  | .refreshed i =>
      match s.refreshes[i]? with
      | none => .error ()
      | some r =>
          match service.served r.selection none with
          | none => .error ()
          | some page =>
              -- an answer to an older call is dropped
              if r.version = s.refreshVersion then
                .ok { s.settle i r.version with rows := page.data, cursor := page.next }
              else .ok (s.settle i r.version)
  | .refreshFailed i =>
      match s.refreshes[i]? with
      | none => .error ()
      | some r => .ok (s.settle i r.version)
  | .loadMore =>
      match s.foreground, s.cursor with
      | .idle, some c =>
          if c = "" then .error () else .ok { s with foreground := .loading s.selection c }
      | _, _ => .error ()
  | .moreLoaded =>
      match s.foreground with
      | .loading selection c =>
          match service.served selection (some c) with
          | none => .error ()
          | some page =>
              .ok { s with
                rows := s.rows ++ page.data
                cursor := page.next
                foreground := .idle }
      | _ => .error ()
  | .moreFailed =>
      match s.foreground with
      | .loading _ _ => .ok { s with foreground := .idle }
      | _ => .error ()
  | .post =>
      match s.foreground with
      | .idle => .ok { s with foreground := .posting }
      | _ => .error ()
  | .posted =>
      match s.foreground with
      | .posting =>
          .ok { s.startRefresh with
            foreground :=
              if s.selection.ledger = "" then .idle else .refreshing (s.refreshVersion + 1) }
      | _ => .error ()
  | .postFailed =>
      match s.foreground with
      | .posting => .ok { s with foreground := .idle }
      | _ => .error ()

/-! ## What an event does -/

/-- The events that happen, each with the state it leads to. -/
inductive ListMove (service : TransactionService) (s : TransactionList) :
    ListEvent → TransactionList → Prop where
  | editFilter {filter : String} :
      ListMove service s (.editFilter filter)
        { s with selection := ⟨s.selection.ledger, filter⟩ }.startRefresh
  | selectLedger {ledger : String} (hledger : ledger ≠ "") :
      ListMove service s (.selectLedger ledger)
        { s with selection := ⟨ledger, ""⟩, rows := [] }.startRefresh
  | refreshed {i : Nat} {r : Refresh} {page : Page Transaction String} (hr : r ∈ s.refreshes)
      (hpage : service.served r.selection none = some page)
      (hversion : r.version = s.refreshVersion) :
      ListMove service s (.refreshed i)
        { s.settle i r.version with rows := page.data, cursor := page.next }
  | refreshDropped {i : Nat} {r : Refresh} :
      ListMove service s (.refreshed i) (s.settle i r.version)
  | refreshFailed {i : Nat} {r : Refresh} :
      ListMove service s (.refreshFailed i) (s.settle i r.version)
  | loadMore {c : String} (hcursor : s.cursor = some c) :
      ListMove service s .loadMore { s with foreground := .loading s.selection c }
  | moreLoaded {selection : Selection} {c : String} {page : Page Transaction String}
      (hloading : s.foreground = .loading selection c)
      (hpage : service.served selection (some c) = some page) :
      ListMove service s .moreLoaded
        { s with rows := s.rows ++ page.data, cursor := page.next, foreground := .idle }
  | moreFailed : ListMove service s .moreFailed { s with foreground := .idle }
  | post : ListMove service s .post { s with foreground := .posting }
  | posted : ListMove service s .posted { s.startRefresh with
      foreground := if s.selection.ledger = "" then .idle else .refreshing (s.refreshVersion + 1) }
  | postFailed : ListMove service s .postFailed { s with foreground := .idle }

theorem move_of_step {service : TransactionService} {s s' : TransactionList} {event : ListEvent}
    (hstep : s.step service event = .ok s') : ListMove service s event s' := by
  cases event with
  | editFilter filter =>
      simp only [TransactionList.step] at hstep
      split at hstep <;> cases hstep
      exact .editFilter
  | selectLedger ledger =>
      simp only [TransactionList.step] at hstep
      split at hstep <;> cases hstep
      rename_i hallowed
      exact .selectLedger fun hempty => hallowed (Or.inr (Or.inr hempty))
  | refreshed i =>
      simp only [TransactionList.step] at hstep
      split at hstep
      · cases hstep
      · rename_i r hr
        split at hstep
        · cases hstep
        · rename_i page hpage
          split at hstep <;> cases hstep
          · rename_i hversion
            exact .refreshed (List.mem_of_getElem? hr) hpage hversion
          · exact .refreshDropped
  | refreshFailed i =>
      simp only [TransactionList.step] at hstep
      split at hstep <;> cases hstep
      exact .refreshFailed
  | loadMore =>
      simp only [TransactionList.step] at hstep
      split at hstep
      · rename_i c _ hcursor
        split at hstep <;> cases hstep
        exact .loadMore hcursor
      · cases hstep
  | moreLoaded =>
      simp only [TransactionList.step] at hstep
      split at hstep
      · rename_i selection c hloading
        split at hstep
        · cases hstep
        · rename_i page hpage
          cases hstep
          exact .moreLoaded hloading hpage
      · cases hstep
  | moreFailed | post | posted | postFailed =>
      simp only [TransactionList.step] at hstep
      split at hstep <;> cases hstep
      constructor

/-! ## Refreshes -/

/-- The newest refresh under way is of the selection. -/
structure ListInv (s : TransactionList) : Prop where
  version_le : ∀ r ∈ s.refreshes, r.version ≤ s.refreshVersion
  newest : ∀ r ∈ s.refreshes, r.version = s.refreshVersion → r.selection = s.selection
  closed : s.selection.ledger = "" → s.refreshes = []

section Refreshes

variable {s s' : TransactionList} {service : TransactionService} {event : ListEvent}

@[simp] theorem startRefresh_selection : s.startRefresh.selection = s.selection := by
  unfold TransactionList.startRefresh
  split <;> rfl

@[simp] theorem startRefresh_rows : s.startRefresh.rows = s.rows := by
  unfold TransactionList.startRefresh
  split <;> rfl

@[simp] theorem startRefresh_cursor : s.startRefresh.cursor = s.cursor := by
  unfold TransactionList.startRefresh
  split <;> rfl

@[simp] theorem startRefresh_foreground : s.startRefresh.foreground = s.foreground := by
  unfold TransactionList.startRefresh
  split <;> rfl

/-- A refresh that is started makes all others old. -/
theorem ListInv.startRefresh (hversion : ∀ r ∈ s.refreshes, r.version ≤ s.refreshVersion)
    (hclosed : s.selection.ledger = "" → s.refreshes = []) : ListInv s.startRefresh := by
  unfold TransactionList.startRefresh
  split
  · rename_i hledger
    refine ⟨hversion, fun r hr => ?_, hclosed⟩
    rw [hclosed hledger] at hr
    cases hr
  · rename_i hledger
    refine ⟨fun r hr => ?_, fun r hr heq => ?_, fun hempty => absurd hempty hledger⟩
    · rcases List.mem_append.mp hr with hold | hnew
      · exact Nat.le_succ_of_le (hversion r hold)
      · exact Nat.le_of_eq (congrArg Refresh.version (List.mem_singleton.mp hnew))
    · rcases List.mem_append.mp hr with hold | hnew
      · exact absurd heq (Nat.ne_of_lt (Nat.lt_succ_of_le (hversion r hold)))
      · exact congrArg Refresh.selection (List.mem_singleton.mp hnew)

theorem ListInv.settle (h : ListInv s) (i version : Nat) : ListInv (s.settle i version) where
  version_le := fun r hr => h.version_le r (List.mem_of_mem_eraseIdx hr)
  newest := fun r hr => h.newest r (List.mem_of_mem_eraseIdx hr)
  closed := fun hledger => by
    rw [TransactionList.settle, h.closed hledger]
    rfl

/-- The rows, the cursor and the foreground are another matter. -/
theorem ListInv.congr (h : ListInv s) (hselection : s'.selection = s.selection)
    (hversion : s'.refreshVersion = s.refreshVersion) (hrefreshes : s'.refreshes = s.refreshes) :
    ListInv s' := by
  refine ⟨?_, ?_, ?_⟩
  · rw [hrefreshes, hversion]
    exact h.version_le
  · rw [hrefreshes, hversion, hselection]
    exact h.newest
  · rw [hrefreshes, hselection]
    exact h.closed

theorem listInv_opened (selection : Selection) : ListInv (.opened selection) :=
  .startRefresh (fun _ hr => (by cases hr)) (fun _ => rfl)

theorem listInv_step (hstep : s.step service event = .ok s') (h : ListInv s) : ListInv s' := by
  cases move_of_step hstep with
  | editFilter => exact .startRefresh h.version_le h.closed
  | selectLedger hledger => exact .startRefresh h.version_le fun hempty => absurd hempty hledger
  | @refreshed i r _ _ _ _ => exact (h.settle i r.version).congr rfl rfl rfl
  | refreshDropped | refreshFailed => exact h.settle _ _
  | posted => exact (ListInv.startRefresh h.version_le h.closed).congr rfl rfl rfl
  | loadMore _ | moreLoaded _ _ | moreFailed | post | postFailed => exact h.congr rfl rfl rfl

end Refreshes

/-! ## What is shown -/

/-- The rows shown are consecutive pages of the selected listing, from the first on; none
comes twice; the stored cursor continues them. -/
structure Consistent (service : TransactionService) (s : TransactionList) : Prop where
  loaded : Loaded (service.served s.selection) s.rows s.cursor
  nodup : (s.rows.map (·.id)).Nodup

/-- A Load more under way brings a page with rows, and not too many. -/
def Captured (service : TransactionService) (s : TransactionList) : Prop :=
  ∀ selection c, s.foreground = .loading selection c →
    ∃ page, service.served selection (some c) = some page ∧ page.data ≠ [] ∧
      page.data.length ≤ 10

/-- What is being loaded answers the list's own next request. -/
def AnswersNext (service : TransactionService) (s : TransactionList) : Foreground → Prop
  | .loading selection c =>
      (s.rows = [] ∨ s.cursor ≠ none) ∧
        service.served s.selection s.cursor = service.served selection (some c)
  | _ => True

instance (service : TransactionService) (s : TransactionList) :
    DecidablePred (AnswersNext service s)
  | .loading _ _ => inferInstanceAs (Decidable (_ ∧ _))
  | .idle | .posting | .refreshing _ => isTrue trivial

/-- The selection changes only where the list fits the new listing too, and a page is
appended only where it answers the list's own next request. -/
def InStep (service : TransactionService) (s : TransactionList) : ListEvent → Prop
  | .editFilter filter =>
      s.rows = [] ∨ (service.paging s.selection).Agree
        (service.paging ⟨s.selection.ledger, filter⟩) s.rows.length
  | .selectLedger _ => s.cursor = none
  | .moreLoaded => AnswersNext service s s.foreground
  | _ => True

instance (service : TransactionService) (s : TransactionList) : DecidablePred (InStep service s)
  | .editFilter _ => inferInstanceAs (Decidable (_ ∨ _))
  | .selectLedger _ => inferInstanceAs (Decidable (s.cursor = none))
  | .moreLoaded => inferInstanceAs (Decidable (AnswersNext service s s.foreground))
  | .refreshed _ | .refreshFailed _ | .loadMore | .moreFailed | .post | .posted | .postFailed =>
      isTrue trivial

section Shown

variable {service : TransactionService} {s s' : TransactionList} {event : ListEvent}

/-- No listing has a row twice. -/
theorem consistent_iff_loaded :
    Consistent service s ↔ Loaded (service.served s.selection) s.rows s.cursor := by
  constructor
  · exact Consistent.loaded
  · intro h
    exact ⟨h, h.nodup (service.serves_served s.selection) (service.limit_pos s.selection)
      (service.nodup_paging s.selection)⟩

theorem consistent_opened (selection : Selection) : Consistent service (.opened selection) := by
  rw [consistent_iff_loaded, TransactionList.opened, startRefresh_rows, startRefresh_cursor]
  exact .nothing

/-- What was shown of one listing is, unchanged, shown of another. -/
theorem consistent_reselect_iff (h : Consistent service s) (selection : Selection) :
    Consistent service { s with selection := selection }.startRefresh ↔
      s.rows = [] ∨
        (service.paging s.selection).Agree (service.paging selection) s.rows.length := by
  rw [consistent_iff_loaded, startRefresh_selection, startRefresh_rows, startRefresh_cursor]
  exact h.loaded.loaded_iff_agree (service.serves_served s.selection)
    (service.limit_pos s.selection) (service.serves_served selection) rfl

/-- With no rows shown there is no cursor. -/
theorem consistent_clear_iff (selection : Selection) :
    Consistent service { s with selection := selection, rows := [] }.startRefresh ↔
      s.cursor = none := by
  rw [consistent_iff_loaded, startRefresh_selection, startRefresh_rows, startRefresh_cursor]
  constructor
  · intro h
    exact (h.reached (service.serves_served selection) (service.limit_pos selection)).cursor
  · intro hnone
    dsimp only
    rw [hnone]
    exact .nothing

theorem Captured.congr (h : Captured service s)
    (hloading : ∀ selection c, s'.foreground = .loading selection c →
      s.foreground = .loading selection c) : Captured service s' :=
  fun selection c hc => h selection c (hloading selection c hc)

theorem Captured.settle (h : Captured service s) (i version : Nat) :
    Captured service (s.settle i version) := by
  refine h.congr (fun selection c hc => ?_)
  rw [TransactionList.settle] at hc
  dsimp only at hc
  split at hc
  · cases hc
  · exact hc

theorem captured_step (hstep : s.step service event = .ok s') (hshown : Consistent service s)
    (h : Captured service s) : Captured service s' := by
  cases move_of_step hstep with
  | editFilter | selectLedger _ =>
      exact h.congr (fun _ _ hc => by rwa [startRefresh_foreground] at hc)
  | @refreshed i r _ _ _ _ => exact (h.settle i r.version).congr (fun _ _ hc => hc)
  | refreshDropped | refreshFailed => exact h.settle _ _
  | loadMore hcursor =>
      intro selection c hloading
      obtain ⟨rfl, rfl⟩ := Foreground.loading.inj hloading
      have hloaded := hshown.loaded
      rw [hcursor] at hloaded
      exact hloaded.next_page (service.serves_served s.selection) (service.limit_pos s.selection)
  | posted =>
      intro _ _ hloading
      dsimp only at hloading
      split at hloading <;> cases hloading
  | moreLoaded _ _ | moreFailed | post | postFailed =>
      intro _ _ hloading
      cases hloading

/-- The first page of the selection is shown. -/
theorem consistent_first {page : Page Transaction String} {selection : Selection}
    (hpage : service.served selection none = some page) (hselection : s.selection = selection) :
    Consistent service { s with rows := page.data, cursor := page.next } := by
  rw [consistent_iff_loaded]
  dsimp only
  rw [hselection]
  exact .first hpage

/-- A page is appended that is not empty. -/
theorem consistent_append_iff (h : Consistent service s) {page : Page Transaction String}
    (hne : page.data ≠ []) (hshort : page.data.length ≤ 10) (foreground : Foreground) :
    Consistent service { s with
        rows := s.rows ++ page.data
        cursor := page.next
        foreground := foreground } ↔
      (s.rows = [] ∨ s.cursor ≠ none) ∧ service.served s.selection s.cursor = some page := by
  rw [consistent_iff_loaded]
  exact loaded_append_iff (service.serves_served s.selection) (service.limit_pos s.selection)
    h.loaded hne hshort

theorem consistent_step_iff (hstep : s.step service event = .ok s') (hinv : ListInv s)
    (hcaptured : Captured service s) (h : Consistent service s) :
    Consistent service s' ↔ InStep service s event := by
  cases move_of_step hstep with
  | @editFilter filter => exact consistent_reselect_iff h ⟨s.selection.ledger, filter⟩
  | @selectLedger ledger _ => exact consistent_clear_iff ⟨ledger, ""⟩
  | refreshed hr hpage hversion =>
      exact iff_of_true (consistent_first hpage (hinv.newest _ hr hversion).symm) trivial
  | moreLoaded hloading hpage =>
      obtain ⟨page, hpage', hne, hshort⟩ := hcaptured _ _ hloading
      obtain rfl := Option.some.inj (hpage.symm.trans hpage')
      rw [consistent_append_iff h hne hshort]
      simp only [InStep, AnswersNext, hloading, hpage]
  | posted =>
      refine iff_of_true (consistent_iff_loaded.mpr ?_) trivial
      dsimp only
      rw [startRefresh_selection, startRefresh_rows, startRefresh_cursor]
      exact h.loaded
  | refreshDropped | refreshFailed | loadMore _ | moreFailed | post | postFailed =>
      exact iff_of_true ⟨h.loaded, h.nodup⟩ trivial

end Shown

/-! ## Runs -/

section Run

variable {service : TransactionService} {selection : Selection} {log : List ListEvent}
  {s : TransactionList}

theorem listInv_run (hrun : run (TransactionList.step service) (.opened selection) log = .ok s) :
    ListInv s :=
  run_invariant (listInv_opened selection) (fun _ _ _ => listInv_step) hrun

/-- What a Load more brings was a page of the listing shown when it was sent. -/
theorem captured_run (hrun : run (TransactionList.step service) (.opened selection) log = .ok s)
    (hall : Throughout (TransactionList.step service) (Consistent service) (.opened selection)
      log) : Captured service s := by
  refine run_induction (P := fun log s => Throughout (TransactionList.step service)
    (Consistent service) (.opened selection) log → Captured service s) ?_ ?_ hrun hall
  · intro _ selection' c hloading
    rw [TransactionList.opened, startRefresh_foreground] at hloading
    cases hloading
  · intro before mid event mid' hmid ih hstep hall
    have hbefore := (throughout_concat_iff (run_concat_eq_ok_iff.mpr ⟨mid, hmid, hstep⟩)).mp hall
    exact captured_step hstep (hbefore.1.last hmid) (ih hbefore.1)

end Run

/-- The list stays consistent exactly when every step of the run fits. -/
theorem transactionList_consistent_iff (service : TransactionService) (selection : Selection)
    {log : List ListEvent} {s : TransactionList}
    (hrun : run (TransactionList.step service) (.opened selection) log = .ok s) :
    Throughout (TransactionList.step service) (Consistent service) (.opened selection) log ↔
      AlongRun (TransactionList.step service) (InStep service) (.opened selection) log := by
  refine throughout_iff (consistent_opened selection) ?_ hrun
  intro before mid event mid' hmid hall hstep
  exact consistent_step_iff hstep (listInv_run hmid) (captured_run hmid hall) (hall.last hmid)

section Sample

/-- A service whose cursors are the ids of the transactions they come after. -/
def TransactionService.byId (transactions : String → List Transaction)
    (nodup : ∀ ledger, ((transactions ledger).map (·.id)).Nodup) : TransactionService where
  transactions := transactions
  nodup := nodup
  cursorAt ledger limit reference :=
    (pagingByKey (·.id) limit (matching reference (transactions ledger))).cursorAt
  serve query :=
    serveByKey (·.id) query.limit (matching query.reference (transactions query.ledgerId))
      query.cursor
  serves ledger limit reference _ :=
    serves_serveByKey (·.id) limit (matching reference (transactions ledger))
      ((nodup ledger).sublist (List.filter_sublist.map _))

/-- A transaction of a number. -/
def order (n : Nat) : Transaction where
  id := toString n
  reference := "order " ++ toString n
  description := none
  relationType := none
  effectiveAt := "2026-06-01T12:00:00.000Z"

/-- One ledger with 21 transactions. -/
def orders : TransactionService :=
  .byId (fun ledger => if ledger = "orders" then (List.range 21).map order else []) <| by
    intro ledger
    split
    · decide +kernel
    · exact List.nodup_nil

/-- The filter is edited twice before the first page is there. -/
theorem transactionList_consistent_edited :
    Throughout (TransactionList.step orders) (Consistent orders) (.opened ⟨"orders", ""⟩)
      [.editFilter "order 1", .editFilter "", .refreshed 0, .refreshed 1, .refreshFailed 0,
        .loadMore, .moreLoaded] :=
  (transactionList_consistent_iff orders ⟨"orders", ""⟩
    (eq_ok_getD (by decide +kernel) (.opened ⟨"orders", ""⟩))).mpr (by decide +kernel)

/-- The second page arrives after a filter has been applied: when nothing is under way any
more, a row is shown twice. -/
theorem transactionList_stale_page :
    ∃ s, run (TransactionList.step orders) (.opened ⟨"orders", ""⟩)
        [.refreshed 0, .loadMore, .editFilter "order 10", .refreshed 0, .moreLoaded] = .ok s ∧
      s.refreshes = [] ∧ s.foreground = .idle ∧ ¬ Consistent orders s :=
  ⟨_, eq_ok_getD (by decide +kernel) (.opened ⟨"orders", ""⟩), by decide +kernel,
    by decide +kernel, fun h => absurd h.nodup (by decide +kernel)⟩

end Sample

end LuxLedger.Web
