/-
  Web/Workspace.lean --- the panels of the console while requests overlap.

  Source: `bootstrap`, `refresh`, `inspectTransaction`, the ledger, balance and renewal
  effects in `apps/web/src/App.tsx`, and `apps/web/src/ledger-display.ts`.

  A switch and the effects that it sets off are one step: an event leaves the page when they
  have run.  The pages that `allPages` loads, those of the entries of a transaction too, arrive
  as one answer.  An aborted request is not answered any more.
-/
import LuxLedger.Foundation.LatestRequest
import LuxLedger.Javascript.BigInt
import LuxLedger.Web.TransactionList

set_option autoImplicit false

namespace LuxLedger.Web

open Foundation Javascript Relational

/-! ## Entries -/

/-- An entry, as it is listed. -/
structure Entry where
  id : String
  transactionId : String
  accountId : String
  signedAmountMinor : JsString
  currency : String
  deriving DecidableEq, Repr

/-- The side of an entry. -/
inductive Direction where
  | debit
  | credit
  deriving DecidableEq, Repr

/-- What `toEntryDisplay` returns. -/
structure EntryDisplay where
  direction : Direction
  magnitudeMinor : JsString
  deriving DecidableEq, Repr

/-- `toEntryDisplay`; the outer `none` stands for the `SyntaxError` of `BigInt`. -/
def toEntryDisplay (signedAmountMinor : JsString) : Option (Option EntryDisplay) :=
  (bigInt? signedAmountMinor).map fun signed =>
    if signed = 0 then none
    else some ⟨if 0 < signed then .debit else .credit,
      bigIntText (if signed < 0 then -signed else signed)⟩

/-- `entriesAreBalanced` -/
def entriesAreBalanced (entries : List Entry) : Option Bool :=
  (entries.mapM fun entry => bigInt? entry.signedAmountMinor).map fun amounts =>
    0 < amounts.length && amounts.all (fun amount => amount ≠ 0) &&
      amounts.foldl (fun total amount => total + amount) 0 = 0

/-- Entries with the amounts of a posting: there are some, none is zero and they cancel out. -/
def Balanced (entries : List Entry) : Prop :=
  ∃ amounts : List Int, entries.map (·.signedAmountMinor) = amounts.map bigIntText ∧
    amounts ≠ [] ∧ 0 ∉ amounts ∧ amounts.sum = 0

/-- What is shown of an entry is its amount. -/
theorem toEntryDisplay_bigIntText (n : Int) :
    toEntryDisplay (bigIntText n) = some (if n = 0 then none
      else some ⟨if 0 < n then .debit else .credit, naturalText n.natAbs⟩) := by
  have hmagnitude : bigIntText (if n < 0 then -n else n) = naturalText n.natAbs := by
    split_ifs with hn
    · rw [bigIntText, if_neg (by omega), Int.natAbs_neg]
    · rw [bigIntText, if_neg hn]
  rw [toEntryDisplay, bigInt?_bigIntText, Option.map_some, hmagnitude]

theorem mapM_bigInt? {entries : List Entry} {amounts : List Int}
    (h : entries.map (·.signedAmountMinor) = amounts.map bigIntText) :
    (entries.mapM fun entry => bigInt? entry.signedAmountMinor) = some amounts := by
  induction entries generalizing amounts with
  | nil =>
      obtain rfl : amounts = [] := List.map_eq_nil_iff.mp h.symm
      rfl
  | cons entry rest ih =>
      cases amounts with
      | nil => cases h
      | cons n more =>
          obtain ⟨hfirst, hrest⟩ := List.cons.inj h
          simp only [List.mapM_cons, hfirst, bigInt?_bigIntText, ih hrest]
          rfl

/-- The mark of balance stands for a balanced posting. -/
theorem entriesAreBalanced_iff {entries : List Entry} {amounts : List Int}
    (h : entries.map (·.signedAmountMinor) = amounts.map bigIntText) :
    entriesAreBalanced entries = some true ↔ amounts ≠ [] ∧ 0 ∉ amounts ∧ amounts.sum = 0 := by
  have hsum : amounts.foldl (fun total amount => total + amount) 0 = amounts.sum :=
    List.sum_eq_foldl.symm
  rw [entriesAreBalanced, mapM_bigInt? h, Option.map_some, hsum]
  simp only [Option.some.injEq, Bool.and_eq_true, decide_eq_true_eq, List.all_eq_true,
    List.length_pos_iff]
  constructor
  · rintro ⟨⟨hne, hall⟩, hzero⟩
    exact ⟨hne, fun hmem => hall 0 hmem rfl, hzero⟩
  · rintro ⟨hne, hfree, hzero⟩
    exact ⟨⟨hne, fun n hn hn0 => hfree (hn0 ▸ hn)⟩, hzero⟩

/-! ## The page -/

/-- An account, as it is listed. -/
structure Account where
  id : String
  tenantId : String
  ledgerId : String
  code : Option String
  name : String
  deriving DecidableEq, Repr

/-- `BalanceAsOfResponse` -/
structure Balance where
  accountId : String
  postedMinor : JsString
  reservedDeltaMinor : JsString
  availableMinor : JsString
  deriving DecidableEq, Repr

/-- Transactions are immutable, and so are their entries.  Their amounts are decimal texts. -/
structure LedgerApi where
  entriesOf : String → List Entry
  texts : ∀ tx, ∃ amounts : List Int,
    (entriesOf tx).map (·.signedAmountMinor) = amounts.map bigIntText

/-- The panels of the console with their requests. -/
structure Workspace where
  /-- `session?.tenant_id` -/
  tenant : Option String
  ledger : String
  txFilter : String
  accounts : List Account
  selectedAccount : String
  balance : Option Balance
  /-- the account that a balance request is under way for, unless it is aborted -/
  balanceRequest : Option String
  selectedTx : Option Transaction
  txEntries : List Entry
  /-- `refreshVersion`, and the ledgers that calls of `refresh` ask for -/
  refreshes : Requests String
  /-- `inspectionVersion`, and the transactions whose entries are loaded -/
  inspections : Requests String
  deriving DecidableEq, Repr

namespace Workspace

/-- The page before its session. -/
def loading : Workspace :=
  ⟨none, "", "", [], "", none, none, none, [], .none, .none⟩

/-- The selected account is one of the ledger and of the tenant. -/
def canShowBalance (s : Workspace) : Bool :=
  s.accounts.any fun account => account.id = s.selectedAccount ∧ account.ledgerId = s.ledger ∧
    some account.tenantId = s.tenant

/-- The balance effect, after the abort of the request before. -/
def runBalanceEffect (s : Workspace) : Workspace :=
  { s with
    balance := none
    balanceRequest := if s.canShowBalance then some s.selectedAccount else none }

/-- `refresh`, up to its requests. -/
def startRefresh (s : Workspace) : Workspace :=
  if s.ledger = "" then s else { s with refreshes := s.refreshes.start s.ledger }

/-- Another ledger: the effects of the ledger, of `refresh` and of the balance. -/
def changeLedger (s : Workspace) (ledger txFilter : String) : Workspace :=
  runBalanceEffect (startRefresh { s with
    ledger
    txFilter
    accounts := []
    selectedAccount := ""
    selectedTx := none
    txEntries := [] })

/-- What an answered `refresh` selects. -/
def selectionAmong (accounts : List Account) (old : String) : String :=
  if accounts.any fun account => account.id = old then old
  else
    match accounts.find? fun account =>
        account.code = some "DEMO_PRIMARY" ∨ account.name = "wallet:alice" with
    | some account => account.id
    | none => (accounts.head?.map (·.id)).getD ""

end Workspace

/-- What happens at the panels. -/
inductive WorkspaceEvent where
  /-- New sandbox is pressed -/
  | startFresh
  /-- the session of `bootstrap` -/
  | sessionArrived (tenant : String)
  /-- the session of the renewal timer -/
  | sessionRenewed (tenant : String)
  /-- the first ledger of the session, in `bootstrap` -/
  | ledgersArrived (ledger : String)
  /-- the ledger select, which empties the filter -/
  | selectLedger (ledger : String)
  | editFilter (filter : String)
  /-- the `refresh` after a write -/
  | written
  | refreshed (i : Nat) (accounts : List Account)
  | refreshFailed (i : Nat)
  | selectAccount (id : String)
  | balanceArrived (balance : Balance)
  | balanceFailed
  | inspect (tx : Transaction)
  | entriesLoaded (i : Nat)
  | entriesFailed (i : Nat)
  deriving DecidableEq, Repr

open Workspace in
/-- One event; it fails when the page cannot have it. -/
def Workspace.step (api : LedgerApi) (s : Workspace) : WorkspaceEvent → Except Unit Workspace
  | .startFresh => .ok { s with balanceRequest := none, refreshes := s.refreshes.abandon }
  | .sessionArrived tenant =>
      .ok (runBalanceEffect { s with
        tenant := some tenant
        accounts := []
        selectedAccount := ""
        selectedTx := none
        txEntries := [] })
  | .sessionRenewed tenant =>
      if s.tenant = some tenant then .ok s
      else .ok (runBalanceEffect { s with tenant := some tenant })
  | .ledgersArrived ledger =>
      if ledger = s.ledger then .ok s else .ok (s.changeLedger ledger s.txFilter)
  | .selectLedger ledger =>
      if ledger = s.ledger then .error () else .ok (s.changeLedger ledger "")
  | .editFilter filter =>
      if filter = s.txFilter then .error () else .ok (startRefresh { s with txFilter := filter })
  | .written => .ok (startRefresh s)
  | .refreshed i accounts =>
      match s.refreshes.pending[i]? with
      | none => .error ()
      | some (version, ledger) =>
          -- the API lists the accounts of the ledger that it is asked for
          if accounts.any fun account => account.ledgerId ≠ ledger then .error ()
          else if version ≠ s.refreshes.version then
            .ok { s with refreshes := s.refreshes.settle i }
          else
            .ok (runBalanceEffect { s with
              refreshes := s.refreshes.settle i
              accounts
              selectedAccount := selectionAmong accounts s.selectedAccount })
  | .refreshFailed i =>
      match s.refreshes.pending[i]? with
      | none => .error ()
      | some _ => .ok { s with refreshes := s.refreshes.settle i }
  | .selectAccount id =>
      if id = s.selectedAccount ∨ ¬ s.accounts.any fun account => account.id = id then .error ()
      else .ok (runBalanceEffect { s with selectedAccount := id })
  | .balanceArrived balance =>
      -- the answer is about the account of the path
      if s.balanceRequest ≠ some balance.accountId then .error ()
      else .ok { s with balance := some balance, balanceRequest := none }
  | .balanceFailed =>
      if s.balanceRequest = none then .error () else .ok { s with balanceRequest := none }
  | .inspect tx =>
      .ok { s with
        inspections := s.inspections.start tx.id
        selectedTx := some tx
        txEntries := [] }
  | .entriesLoaded i =>
      match s.inspections.pending[i]? with
      | none => .error ()
      | some (version, tx) =>
          if version = s.inspections.version then
            .ok { s with inspections := s.inspections.settle i, txEntries := api.entriesOf tx }
          else .ok { s with inspections := s.inspections.settle i }
  | .entriesFailed i =>
      match s.inspections.pending[i]? with
      | none => .error ()
      | some _ => .ok { s with inspections := s.inspections.settle i }

/-! ## The invariant -/

/-- The account is one that the page shows, of the current ledger and tenant. -/
def Workspace.Shows (s : Workspace) (id : String) : Prop :=
  id = s.selectedAccount ∧ ∃ account ∈ s.accounts, account.id = id ∧ account.ledgerId = s.ledger ∧
    some account.tenantId = s.tenant

/-- What the panels other than the balance show, and what their requests are about. -/
structure PanelsInv (api : LedgerApi) (s : Workspace) : Prop where
  accounts : s.ledger ≠ "" → ∀ account ∈ s.accounts, account.ledgerId = s.ledger
  selected : s.accounts = [] ∧ s.selectedAccount = "" ∨
    ∃ account ∈ s.accounts, account.id = s.selectedAccount
  entries : ∀ tx ∈ s.selectedTx, s.txEntries = [] ∨ s.txEntries = api.entriesOf tx.id
  refreshes : s.refreshes.Latest fun ledger => s.ledger ≠ "" → ledger = s.ledger
  inspections : s.inspections.Latest fun id => ∀ tx ∈ s.selectedTx, tx.id = id

/-- What lasts in the panels. -/
structure WorkspaceInv (api : LedgerApi) (s : Workspace) : Prop extends PanelsInv api s where
  balance : ∀ balance ∈ s.balance, s.Shows balance.accountId
  request : ∀ id ∈ s.balanceRequest, s.Shows id

section Steps

variable {api : LedgerApi} {s s' : Workspace} {event : WorkspaceEvent}

theorem shows_of_canShowBalance (h : s.canShowBalance = true) : s.Shows s.selectedAccount := by
  obtain ⟨account, haccount, hfits⟩ := List.any_eq_true.mp h
  exact ⟨rfl, account, haccount, of_decide_eq_true hfits⟩

/-- Once its effect has run, the balance panel is in order. -/
theorem PanelsInv.runBalanceEffect (h : PanelsInv api s) : WorkspaceInv api s.runBalanceEffect where
  accounts := h.accounts
  selected := h.selected
  entries := h.entries
  refreshes := h.refreshes
  inspections := h.inspections
  balance := fun _ hbalance => by cases hbalance
  request := by
    intro id hid
    simp only [Workspace.runBalanceEffect, Option.mem_def, Option.ite_none_right_eq_some] at hid
    obtain ⟨hcan, hsame⟩ := hid
    cases hsame
    exact shows_of_canShowBalance hcan

theorem PanelsInv.startRefresh (h : PanelsInv api s) : PanelsInv api s.startRefresh := by
  unfold Workspace.startRefresh
  split_ifs
  · exact h
  · exact { h with refreshes := h.refreshes.start fun _ => rfl }

theorem WorkspaceInv.startRefresh (h : WorkspaceInv api s) : WorkspaceInv api s.startRefresh := by
  have hpanels := h.toPanelsInv.startRefresh
  unfold Workspace.startRefresh at hpanels ⊢
  split_ifs at hpanels ⊢
  · exact h
  · exact { hpanels with balance := h.balance, request := h.request }

theorem selectionAmong_cases (accounts : List Account) (old : String) :
    accounts = [] ∧ Workspace.selectionAmong accounts old = "" ∨
      ∃ account ∈ accounts, account.id = Workspace.selectionAmong accounts old := by
  unfold Workspace.selectionAmong
  split_ifs with hold
  · obtain ⟨account, haccount, hid⟩ := List.any_eq_true.mp hold
    exact Or.inr ⟨account, haccount, of_decide_eq_true hid⟩
  · split
    · next account hfound => exact Or.inr ⟨account, List.mem_of_find?_eq_some hfound, rfl⟩
    · cases accounts with
      | nil => exact Or.inl ⟨rfl, rfl⟩
      | cons account rest => exact Or.inr ⟨account, List.mem_cons_self, rfl⟩

theorem workspaceInv_loading : WorkspaceInv api .loading where
  accounts := fun _ _ haccount => absurd haccount List.not_mem_nil
  selected := Or.inl ⟨rfl, rfl⟩
  entries := fun _ htx => by cases htx
  refreshes := Requests.latest_none
  inspections := Requests.latest_none
  balance := fun _ hbalance => by cases hbalance
  request := fun _ hid => by cases hid

/-- The page without accounts and without a transaction is in order. -/
theorem panelsInv_cleared (haccounts : s.accounts = []) (hselected : s.selectedAccount = "")
    (htx : s.selectedTx = none)
    (hrefreshes : s.refreshes.Latest fun ledger => s.ledger ≠ "" → ledger = s.ledger)
    (hinspections : s.inspections.Latest fun _ => True) : PanelsInv api s where
  accounts := fun _ account haccount => by
    rw [haccounts] at haccount
    exact absurd haccount List.not_mem_nil
  selected := Or.inl ⟨haccounts, hselected⟩
  entries := fun tx hmem => by
    rw [htx] at hmem
    cases hmem
  refreshes := hrefreshes
  inspections := hinspections.mono fun id _ tx hmem => by
    rw [htx] at hmem
    cases hmem

theorem WorkspaceInv.changeLedger (h : WorkspaceInv api s) (ledger txFilter : String) :
    WorkspaceInv api (s.changeLedger ledger txFilter) := by
  have hinspected : s.inspections.Latest fun _ => True := h.inspections.mono fun _ _ => trivial
  apply PanelsInv.runBalanceEffect
  unfold Workspace.startRefresh
  split_ifs with hempty
  · exact panelsInv_cleared rfl rfl rfl
      (h.refreshes.mono fun _ _ hne => absurd hempty hne) hinspected
  · exact panelsInv_cleared rfl rfl rfl (h.refreshes.start fun _ => rfl) hinspected

theorem workspaceInv_step (hstep : s.step api event = .ok s') (h : WorkspaceInv api s) :
    WorkspaceInv api s' := by
  cases event with
  | startFresh =>
      cases hstep
      exact { h with refreshes := h.refreshes.abandon, request := fun _ hid => by cases hid }
  | sessionArrived tenant =>
      cases hstep
      have hpanels : PanelsInv api { s with
          tenant := some tenant
          accounts := []
          selectedAccount := ""
          selectedTx := none
          txEntries := [] } :=
        panelsInv_cleared rfl rfl rfl h.refreshes (h.inspections.mono fun _ _ => trivial)
      exact hpanels.runBalanceEffect
  | sessionRenewed tenant =>
      simp only [Workspace.step] at hstep
      split_ifs at hstep
      · cases hstep
        exact h
      · cases hstep
        have hpanels : PanelsInv api { s with tenant := some tenant } := { h.toPanelsInv with }
        exact hpanels.runBalanceEffect
  | ledgersArrived ledger =>
      simp only [Workspace.step] at hstep
      split_ifs at hstep
      · cases hstep
        exact h
      · cases hstep
        exact h.changeLedger ledger s.txFilter
  | selectLedger ledger =>
      simp only [Workspace.step] at hstep
      split_ifs at hstep
      cases hstep
      exact h.changeLedger ledger ""
  | editFilter filter =>
      simp only [Workspace.step] at hstep
      split_ifs at hstep
      cases hstep
      have hsame : WorkspaceInv api { s with txFilter := filter } := { h with }
      exact hsame.startRefresh
  | written =>
      cases hstep
      exact h.startRefresh
  | refreshed i accounts =>
      simp only [Workspace.step] at hstep
      split at hstep
      · cases hstep
      · next version ledger hpending =>
          split_ifs at hstep with hlisted hversion
          · cases hstep
            exact { h with refreshes := h.refreshes.settle i }
          · cases hstep
            have hledger := h.refreshes.of_getElem? (i := i) (by rw [hpending, not_not.mp hversion])
            have hpanels : PanelsInv api { s with
                refreshes := s.refreshes.settle i
                accounts
                selectedAccount := Workspace.selectionAmong accounts s.selectedAccount } :=
              { h.toPanelsInv with
                accounts := fun hne account haccount => by
                  rw [← hledger hne]
                  by_contra hother
                  exact hlisted (List.any_eq_true.mpr ⟨account, haccount, decide_eq_true hother⟩)
                selected := selectionAmong_cases accounts s.selectedAccount
                refreshes := h.refreshes.settle i }
            exact hpanels.runBalanceEffect
  | refreshFailed i =>
      simp only [Workspace.step] at hstep
      split at hstep
      · cases hstep
      · cases hstep
        exact { h with refreshes := h.refreshes.settle i }
  | selectAccount id =>
      simp only [Workspace.step] at hstep
      split_ifs at hstep with hrefused
      cases hstep
      rw [not_or, not_not] at hrefused
      obtain ⟨account, haccount, hid⟩ := List.any_eq_true.mp hrefused.2
      have hpanels : PanelsInv api { s with selectedAccount := id } :=
        { h.toPanelsInv with selected := Or.inr ⟨account, haccount, of_decide_eq_true hid⟩ }
      exact hpanels.runBalanceEffect
  | balanceArrived balance =>
      simp only [Workspace.step] at hstep
      split_ifs at hstep with hrefused
      cases hstep
      exact { h with
        balance := fun shown hshown => by
          cases hshown
          exact h.request _ (not_not.mp hrefused)
        request := fun _ hid => by cases hid }
  | balanceFailed =>
      simp only [Workspace.step] at hstep
      split_ifs at hstep
      cases hstep
      exact { h with request := fun _ hid => by cases hid }
  | inspect tx =>
      cases hstep
      exact { h with
        entries := fun _ _ => Or.inl rfl
        inspections := h.inspections.start fun _ hmem => by
          cases hmem
          rfl }
  | entriesLoaded i =>
      simp only [Workspace.step] at hstep
      split at hstep
      · cases hstep
      · next version tx hpending =>
          split_ifs at hstep with hversion
          · cases hstep
            have hloaded := h.inspections.of_getElem? (i := i) (by rw [hpending, hversion])
            exact { h with
              entries := fun shown hshown => Or.inr (by rw [hloaded shown hshown])
              inspections := h.inspections.settle i }
          · cases hstep
            exact { h with inspections := h.inspections.settle i }
  | entriesFailed i =>
      simp only [Workspace.step] at hstep
      split at hstep
      · cases hstep
      · cases hstep
        exact { h with inspections := h.inspections.settle i }

end Steps

/-! ## Runs -/

/-- What the page shows belongs together. -/
structure Coherent (api : LedgerApi) (s : Workspace) : Prop where
  accounts : s.ledger ≠ "" → ∀ account ∈ s.accounts, account.ledgerId = s.ledger
  selected : s.accounts = [] ∧ s.selectedAccount = "" ∨
    ∃ account ∈ s.accounts, account.id = s.selectedAccount
  balance : ∀ balance ∈ s.balance, s.Shows balance.accountId
  entries : ∀ tx ∈ s.selectedTx, s.txEntries = [] ∨ s.txEntries = api.entriesOf tx.id
  /-- each entry is shown with its side and its magnitude -/
  displayed : ∀ tx ∈ s.selectedTx, ∀ entry ∈ s.txEntries, ∃ n : Int,
    entry.signedAmountMinor = bigIntText n ∧ toEntryDisplay entry.signedAmountMinor =
      some (if n = 0 then none else some ⟨if 0 < n then .debit else .credit, naturalText n.natAbs⟩)
  /-- the mark of balance is about all entries of the transaction -/
  marked : ∀ tx ∈ s.selectedTx, entriesAreBalanced s.txEntries = some true →
    Balanced (api.entriesOf tx.id)

theorem WorkspaceInv.coherent {api : LedgerApi} {s : Workspace} (h : WorkspaceInv api s) :
    Coherent api s where
  accounts := h.accounts
  selected := h.selected
  balance := h.balance
  entries := h.entries
  displayed := by
    intro tx htx entry hentry
    rcases h.entries tx htx with hnone | hall
    · rw [hnone] at hentry
      exact absurd hentry List.not_mem_nil
    · obtain ⟨amounts, hamounts⟩ := api.texts tx.id
      have hmem : entry.signedAmountMinor ∈ amounts.map bigIntText := by
        rw [← hamounts, ← hall]
        exact List.mem_map_of_mem hentry
      obtain ⟨n, -, hn⟩ := List.mem_map.mp hmem
      exact ⟨n, hn.symm, by rw [← hn, toEntryDisplay_bigIntText]⟩
  marked := by
    intro tx htx hmark
    rcases h.entries tx htx with hnone | hall
    · rw [hnone] at hmark
      cases hmark
    · obtain ⟨amounts, hamounts⟩ := api.texts tx.id
      rw [hall, entriesAreBalanced_iff hamounts] at hmark
      exact ⟨amounts, hamounts, hmark⟩

/-- Whatever is pressed and in whatever order requests are answered: the accounts are those of
the ledger, the balance is that of the selected account, and the entries are those of the
selected transaction, all of them or none. -/
theorem workspace_coherent {api : LedgerApi} {log : List WorkspaceEvent} {s : Workspace}
    (h : run (Workspace.step api) .loading log = .ok s) : Coherent api s :=
  (run_invariant workspaceInv_loading (fun _ _ _ => workspaceInv_step) h).coherent

namespace Sample

/-- The two entries of a transaction. -/
def posting (tx : String) : List Entry :=
  [⟨tx ++ "-1", tx, "a", units "2500", "USD"⟩, ⟨tx ++ "-2", tx, "b", units "-2500", "USD"⟩]

/-- A ledger in which every transaction has them. -/
def postings : LedgerApi where
  entriesOf := posting
  texts := fun _ => ⟨[2500, -2500], rfl⟩

/-- Two transactions are selected one after the other, and the entries of the first one
arrive last. -/
def overlapping : List WorkspaceEvent :=
  [.sessionArrived "tenant", .ledgersArrived "ledger", .written,
    .refreshed 1 [⟨"a", "tenant", "ledger", some "DEMO_PRIMARY", "wallet:eva"⟩],
    .balanceArrived ⟨"a", units "0", units "0", units "0"⟩, .refreshed 0 [],
    .inspect (order 1), .inspect (order 2), .entriesLoaded 1, .entriesLoaded 0]

end Sample

/-- The entries that arrive last are those of another transaction and are not shown. -/
theorem workspace_coherent_overlapping :
    ∃ s, run (Workspace.step Sample.postings) .loading Sample.overlapping = .ok s ∧
      Coherent Sample.postings s ∧ s.balance.isSome = true ∧
      s.txEntries = Sample.posting (order 2).id :=
  ⟨_, rfl, @workspace_coherent Sample.postings Sample.overlapping _ rfl, rfl, rfl⟩

end LuxLedger.Web
