/-
  Credit/Steps.lean --- what a statement can do, said once.

  Every accepted statement is a sequence of row steps (`RowStep`): one row checked
  and stored, one capacity version appended, or one hold moved forward.  An
  invariant of the row steps is an invariant of every run.  A row step only ever
  extends the database (`Extends`): rows stay, and holds keep their identity.
-/
import LuxLedger.Schema.Statements

set_option autoImplicit false

namespace LuxLedger.Credit

open LuxLedger.Schema LuxLedger.Relational

/-- One row written at a transaction timestamp. -/
inductive RowStep (now : Timestamp) (s : Db) : Db → Prop
  | asset {new : Asset} (check : checkAsset s new = .ok ()) : RowStep now s (s.addAsset new)
  | account {new : Account} (check : checkAccount s new = .ok ()) :
      RowStep now s (s.addAccount new)
  | transaction {new : Transaction} (check : checkTransaction s new = .ok ()) :
      RowStep now s (s.addTransaction new)
  | entry {new : Entry} (check : checkEntry s new = .ok ()) : RowStep now s (s.addEntry new)
  | creditGrant {new : CreditGrant} (check : checkCreditGrant s new = .ok ()) :
      RowStep now s (s.addCreditGrant new)
  | creditGrantEntry {new : CreditGrantEntry} (check : checkCreditGrantEntry now s new = .ok ()) :
      RowStep now s (s.addCreditGrantEntry new)
  | hold {new : Hold} (check : checkHoldInsert s new = .ok ()) : RowStep now s (s.addHold new)
  | holdEntry {new : HoldEntry} (check : checkHoldEntry s new = .ok ()) :
      RowStep now s (s.addHoldEntry new)
  | allocation {new : CreditGrantHoldAllocation}
      (check : checkCreditGrantHoldAllocation now s new = .ok ()) :
      RowStep now s (s.addCreditGrantHoldAllocation new)
  | capacityVersion {row : CreditGrantCapacityVersion} (checked : CapacityChecked row) :
      RowStep now s (s.addCapacityVersion row)
  | holdChange {old new : Hold} (found : s.hold? new.id = some old)
      (transition : HoldTransition old new) (check : checkHold new = .ok ()) :
      RowStep now s (s.replaceHold new)

/-- A sequence of row steps. -/
abbrev RowSteps (now : Timestamp) : Db → Db → Prop := Relation.ReflTransGen (RowStep now)

/-! ## The writers of capacity versions -/

/-- Nothing but the capacity versions differs. -/
def SameTables (s s' : Db) : Prop :=
  ∃ versions, s' = { s with creditGrantCapacityVersions := versions }

theorem SameTables.refl (s : Db) : SameTables s s := ⟨s.creditGrantCapacityVersions, rfl⟩

theorem SameTables.trans {s s' s'' : Db} (h : SameTables s s') (h' : SameTables s' s'') :
    SameTables s s'' := by
  obtain ⟨versions, rfl⟩ := h
  obtain ⟨versions', rfl⟩ := h'
  exact ⟨versions', rfl⟩

theorem SameTables.foldlM {ι : Type} {step : Db → ι → Except SqlError Db} {xs : List ι} {s s' : Db}
    (hstep : ∀ s x s', step s x = .ok s' → SameTables s s') (h : xs.foldlM step s = .ok s') :
    SameTables s s' :=
  foldlM_preserves (P := SameTables s) (fun x _ s₁ s₂ hx hs => hs.trans (hstep s₁ x s₂ hx)) h
    (SameTables.refl s)

section Writers

variable {s s' : Db}

theorem insertCapacityVersion_step {depth : Nat} {new : CreditGrantCapacityVersion}
    (h : insertCapacityVersion depth s new = .ok s') :
    (∀ now, RowSteps now s s') ∧ SameTables s s' := by
  obtain ⟨row, -, hchecked, rfl⟩ := insertCapacityVersion_ok h
  exact ⟨fun _ => .single (.capacityVersion hchecked), ⟨_, rfl⟩⟩

theorem appendCreditGrantReservationVersion_step {depth : Nat} {t g : Uuid} {delta : Int}
    {allocationId holdId : Option Uuid}
    (h : appendCreditGrantReservationVersion depth s t g delta allocationId holdId = .ok s') :
    (∀ now, RowSteps now s s') ∧ SameTables s s' := by
  simp only [appendCreditGrantReservationVersion, bind_eq_ok_iff] at h
  obtain ⟨⟨⟩, -, h⟩ := h
  cases hlatest : s.latestVersion t g with
  | none =>
      rw [hlatest] at h
      cases h
  | some latest =>
      rw [hlatest] at h
      exact insertCapacityVersion_step h

theorem releaseGrant_step {old : Hold} {grant : CreditGrant}
    (h : releaseGrant old s grant = .ok s') : (∀ now, RowSteps now s s') ∧ SameTables s s' := by
  simp only [releaseGrant, bind_eq_ok_iff] at h
  obtain ⟨⟨⟩, -, h⟩ := h
  split at h
  · exact appendCreditGrantReservationVersion_step h
  · exact Except.ok.inj h ▸ ⟨fun _ => .refl, SameTables.refl s⟩

theorem releaseGrantHoldReservations_step {old new : Hold}
    (h : releaseGrantHoldReservations s old new = .ok s') :
    (∀ now, RowSteps now s s') ∧ SameTables s s' := by
  unfold releaseGrantHoldReservations at h
  split at h
  · exact Except.ok.inj h ▸ ⟨fun _ => .refl, SameTables.refl s⟩
  · split at h
    · exact Except.ok.inj h ▸ ⟨fun _ => .refl, SameTables.refl s⟩
    · exact ⟨fun now => foldlM_steps (fun _ _ _ _ hgrant => (releaseGrant_step hgrant).1 now) h,
        SameTables.foldlM (fun _ _ _ hgrant => (releaseGrant_step hgrant).2) h⟩

end Writers

/-! ## Statements are sequences of row steps -/

section Statements

variable {now : Timestamp} {s s' : Db}

/-- What an accepted change of a hold does. -/
theorem updateHold_ok {id : Uuid} {new : Hold} (h : updateHold s (id, new) = .ok s') :
    ∃ old released, s.hold? id = some old ∧ old.id = id ∧ new.id = id ∧
      HoldTransition old new ∧ releaseGrantHoldReservations s old new = .ok released ∧
      checkHold new = .ok () ∧ s' = released.replaceHold new := by
  unfold updateHold at h
  cases hfound : s.hold? id with
  | none =>
      rw [hfound] at h
      cases h
  | some old =>
      simp only [hfound, bind_eq_ok_iff] at h
      obtain ⟨⟨⟩, hguard, released, hreleased, ⟨⟩, hcheck, hstore⟩ := h
      have htransition := guardHoldUpdate_ok hguard
      have hold : old.id = id := key_of_lookup hfound
      have hnew : new.id = old.id := congrArg HoldIdentity.id htransition.identity
      exact ⟨old, released, rfl, hold, hnew.trans hold, htransition, hreleased, hcheck,
        (Except.ok.inj hstore).symm⟩

theorem updateHold_steps {change : Uuid × Hold} (h : updateHold s change = .ok s') :
    RowSteps now s s' := by
  obtain ⟨id, new⟩ := change
  obtain ⟨old, released, hfound, -, rfl, htransition, hreleased, hcheck, rfl⟩ := updateHold_ok h
  obtain ⟨hsteps, versions, rfl⟩ := releaseGrantHoldReservations_step hreleased
  exact (hsteps now).tail (.holdChange hfound htransition hcheck)

/-- Direct writes to the versions are refused, unless they meet no row. -/
theorem rejectCreditGrantMutation_ok {targets : List (Uuid × Int)}
    (h : rejectCreditGrantMutation targets s = .ok s') : s' = s := by
  unfold rejectCreditGrantMutation at h
  split at h
  · cases h
  · exact (Except.ok.inj h).symm

/-- An INSERT of transactions, and its foreign key within the table. -/
theorem insertTransactions_ok {rows : List Transaction}
    (h : (Statement.insertTransactions rows).exec now s = .ok s') :
    insertEach checkTransaction Db.addTransaction rows s = .ok s' ∧
      ∀ t ∈ rows, checkRelatedTransaction s' t = .ok () := by
  simp only [Statement.exec, bind_eq_ok_iff, checkEach_eq_ok_iff] at h
  obtain ⟨stored, hstored, ⟨⟩, hrelated, hs'⟩ := h
  obtain rfl := Except.ok.inj hs'
  exact ⟨hstored, hrelated⟩

/-- An accepted statement is a sequence of row steps. -/
theorem exec_steps {stmt : Statement} (h : stmt.exec now s = .ok s') : RowSteps now s s' := by
  cases stmt with
  | insertAssets rows => exact insertEach_steps (fun _ _ _ hcheck => .asset hcheck) h
  | insertAccounts rows => exact insertEach_steps (fun _ _ _ hcheck => .account hcheck) h
  | insertTransactions rows =>
      exact insertEach_steps (fun _ _ _ hcheck => .transaction hcheck) (insertTransactions_ok h).1
  | insertEntries rows => exact insertEach_steps (fun _ _ _ hcheck => .entry hcheck) h
  | insertCreditGrants rows => exact insertEach_steps (fun _ _ _ hcheck => .creditGrant hcheck) h
  | insertCreditGrantEntries rows =>
      obtain ⟨stored, hstored, hafter⟩ := insertRows_eq_ok_iff.mp h
      exact (insertEach_steps (fun _ _ _ hcheck => .creditGrantEntry hcheck) hstored).trans
        (foldlM_steps (fun _ _ _ _ hrow => (insertCapacityVersion_step hrow).1 now) hafter)
  | insertHolds rows => exact insertEach_steps (fun _ _ _ hcheck => .hold hcheck) h
  | insertHoldEntries rows => exact insertEach_steps (fun _ _ _ hcheck => .holdEntry hcheck) h
  | insertCreditGrantHoldAllocations rows =>
      obtain ⟨stored, hstored, hafter⟩ := insertRows_eq_ok_iff.mp h
      exact (insertEach_steps (fun _ _ _ hcheck => .allocation hcheck) hstored).trans
        (foldlM_steps (fun _ _ _ _ hrow => (appendCreditGrantReservationVersion_step hrow).1 now)
          hafter)
  | updateHolds changes => exact foldlM_steps (fun _ _ _ _ => updateHold_steps) h
  | insertCapacityVersions rows =>
      exact foldlM_steps (fun _ _ _ _ hrow => (insertCapacityVersion_step hrow).1 now) h
  | updateCapacityVersions targets => exact rejectCreditGrantMutation_ok h ▸ .refl
  | deleteCapacityVersions targets => exact rejectCreditGrantMutation_ok h ▸ .refl

theorem SameTables.replaceHold {new : Hold} (h : SameTables s s') :
    SameTables (s.replaceHold new) (s'.replaceHold new) := by
  obtain ⟨versions, rfl⟩ := h
  exact ⟨versions, rfl⟩

theorem updateHolds_store {changes : List (Uuid × Hold)} {s₀ : Db} (hs : SameTables s₀ s)
    (h : changes.foldlM updateHold s = .ok s') :
    SameTables (changes.foldl (fun s change => s.replaceHold change.2) s₀) s' := by
  induction changes generalizing s s₀ with
  | nil =>
      rw [foldlM_nil_eq_ok_iff] at h
      exact h ▸ hs
  | cons change rest ih =>
      obtain ⟨mid, hmid, hrest⟩ := foldlM_cons_eq_ok_iff.mp h
      obtain ⟨id, new⟩ := change
      obtain ⟨old, released, -, -, -, -, hreleased, -, rfl⟩ := updateHold_ok hmid
      have hsame := (releaseGrantHoldReservations_step hreleased).2
      exact ih (hs.trans hsame).replaceHold hrest

/-- Apart from capacity versions, an accepted statement stores its rows. -/
theorem exec_store {stmt : Statement} (h : stmt.exec now s = .ok s') :
    SameTables (stmt.store s) s' := by
  cases stmt with
  | insertAssets rows =>
      rw [insertEach_store (Statement.store ∘ .insertAssets) (by simp [Statement.store])
        (by simp [Statement.store, Db.addAsset]) h]
      exact SameTables.refl _
  | insertAccounts rows =>
      rw [insertEach_store (Statement.store ∘ .insertAccounts) (by simp [Statement.store])
        (by simp [Statement.store, Db.addAccount]) h]
      exact SameTables.refl _
  | insertTransactions rows =>
      rw [insertEach_store (Statement.store ∘ .insertTransactions) (by simp [Statement.store])
        (by simp [Statement.store, Db.addTransaction]) (insertTransactions_ok h).1]
      exact SameTables.refl _
  | insertEntries rows =>
      rw [insertEach_store (Statement.store ∘ .insertEntries) (by simp [Statement.store])
        (by simp [Statement.store, Db.addEntry]) h]
      exact SameTables.refl _
  | insertCreditGrants rows =>
      rw [insertEach_store (Statement.store ∘ .insertCreditGrants) (by simp [Statement.store])
        (by simp [Statement.store, Db.addCreditGrant]) h]
      exact SameTables.refl _
  | insertCreditGrantEntries rows =>
      obtain ⟨stored, hstored, hafter⟩ := insertRows_eq_ok_iff.mp h
      rw [insertEach_store (Statement.store ∘ .insertCreditGrantEntries)
        (by simp [Statement.store]) (by simp [Statement.store, Db.addCreditGrantEntry])
        hstored] at hafter
      exact SameTables.foldlM (fun _ _ _ hrow => (insertCapacityVersion_step hrow).2)
        hafter
  | insertHolds rows =>
      rw [insertEach_store (Statement.store ∘ .insertHolds) (by simp [Statement.store])
        (by simp [Statement.store, Db.addHold]) h]
      exact SameTables.refl _
  | insertHoldEntries rows =>
      rw [insertEach_store (Statement.store ∘ .insertHoldEntries) (by simp [Statement.store])
        (by simp [Statement.store, Db.addHoldEntry]) h]
      exact SameTables.refl _
  | insertCreditGrantHoldAllocations rows =>
      obtain ⟨stored, hstored, hafter⟩ := insertRows_eq_ok_iff.mp h
      rw [insertEach_store (Statement.store ∘ .insertCreditGrantHoldAllocations)
        (by simp [Statement.store]) (by simp [Statement.store, Db.addCreditGrantHoldAllocation])
        hstored] at hafter
      exact SameTables.foldlM
        (fun _ _ _ hrow => (appendCreditGrantReservationVersion_step hrow).2) hafter
  | updateHolds changes => exact updateHolds_store (SameTables.refl s) h
  | insertCapacityVersions rows =>
      exact SameTables.foldlM (fun _ _ _ hrow => (insertCapacityVersion_step hrow).2) h
  | updateCapacityVersions targets => exact rejectCreditGrantMutation_ok h ▸ SameTables.refl s
  | deleteCapacityVersions targets => exact rejectCreditGrantMutation_ok h ▸ SameTables.refl s

theorem store_updateHolds (changes : List (Uuid × Hold)) :
    ∃ holds, (Statement.updateHolds changes).store s = { s with holds := holds } := by
  unfold Statement.store
  induction changes generalizing s with
  | nil => exact ⟨s.holds, rfl⟩
  | cons change rest ih =>
      obtain ⟨holds, hholds⟩ := ih (s := s.replaceHold change.2)
      exact ⟨holds, hholds⟩

theorem SameTables.store {stmt : Statement} (h : SameTables s s') :
    SameTables (stmt.store s) (stmt.store s') := by
  cases stmt with
  | updateHolds changes =>
      unfold Statement.store
      induction changes generalizing s s' with
      | nil => exact h
      | cons change rest ih => exact ih h.replaceHold
  | _ =>
      obtain ⟨versions, rfl⟩ := h
      exact ⟨versions, rfl⟩

/-- Apart from capacity versions, a committed database transaction stores its rows. -/
theorem commit_store {tx : DbTransaction} (h : commit s tx = .ok s') :
    SameTables (tx.store s) s' := by
  suffices hstore : ∀ (stmts : List Statement) (s₀ s : Db), SameTables s₀ s →
      stmts.foldlM (fun s stmt => stmt.exec tx.now s) s = .ok s' →
        SameTables (stmts.foldl (fun s stmt => stmt.store s) s₀) s' from
    hstore tx.statements s s (SameTables.refl s) (commit_eq_ok_iff.mp h).1
  intro stmts
  induction stmts with
  | nil =>
      intro s₀ s hs hnil
      exact foldlM_nil_eq_ok_iff.mp hnil ▸ hs
  | cons stmt rest ih =>
      intro s₀ s hs hcons
      obtain ⟨mid, hstmt, hrest⟩ := foldlM_cons_eq_ok_iff.mp hcons
      exact ih _ _ (hs.store.trans (exec_store hstmt)) hrest

theorem txExec_steps {tx : DbTransaction} (h : tx.exec s = .ok s') : RowSteps tx.now s s' :=
  foldlM_steps (fun _ _ _ _ => exec_steps) h

theorem commit_steps {tx : DbTransaction} (h : commit s tx = .ok s') : RowSteps tx.now s s' :=
  txExec_steps (commit_eq_ok_iff.mp h).1

end Statements

/-! ## The tables after a statement, a database transaction and a log

Each table is the rows it had and the rows inserted since, in order. -/

section Tables

variable {now : Timestamp} {s s' : Db} {stmt : Statement} {tx : DbTransaction}
  {log : List DbTransaction}

/-- Each table has the rows it had and those that the statement inserts. -/
structure Inserted (stmt : Statement) (s s' : Db) : Prop where
  accounts : s'.accounts = s.accounts ++ stmt.newAccounts
  transactions : s'.transactions = s.transactions ++ stmt.newTransactions
  entries : s'.entries = s.entries ++ stmt.newEntries
  creditGrants : s'.creditGrants = s.creditGrants ++ stmt.newCreditGrants
  creditGrantEntries : s'.creditGrantEntries =
    s.creditGrantEntries ++ stmt.newCreditGrantEntries
  holdEntries : s'.holdEntries = s.holdEntries ++ stmt.newHoldEntries
  allocations : s'.creditGrantHoldAllocations =
    s.creditGrantHoldAllocations ++ stmt.newAllocations

theorem exec_inserted (h : stmt.exec now s = .ok s') : Inserted stmt s s' := by
  obtain ⟨versions, rfl⟩ := exec_store h
  cases stmt with
  | updateHolds changes =>
      obtain ⟨holds, hholds⟩ := store_updateHolds (s := s) changes
      rw [hholds]
      constructor <;> exact (List.append_nil _).symm
  | _ => constructor <;> first | rfl | exact (List.append_nil _).symm

theorem commit_accounts (h : commit s tx = .ok s') : s'.accounts = s.accounts ++ tx.newAccounts :=
  foldlM_table (fun _ _ _ hexec => (exec_inserted hexec).accounts) (commit_eq_ok_iff.mp h).1

theorem commit_transactions (h : commit s tx = .ok s') :
    s'.transactions = s.transactions ++ tx.newTransactions :=
  foldlM_table (fun _ _ _ hexec => (exec_inserted hexec).transactions) (commit_eq_ok_iff.mp h).1

theorem commit_entries (h : commit s tx = .ok s') : s'.entries = s.entries ++ tx.newEntries :=
  foldlM_table (fun _ _ _ hexec => (exec_inserted hexec).entries) (commit_eq_ok_iff.mp h).1

theorem commit_creditGrantEntries (h : commit s tx = .ok s') :
    s'.creditGrantEntries = s.creditGrantEntries ++ tx.newCreditGrantEntries :=
  foldlM_table (fun _ _ _ hexec => (exec_inserted hexec).creditGrantEntries)
    (commit_eq_ok_iff.mp h).1

theorem commit_holdEntries (h : commit s tx = .ok s') :
    s'.holdEntries = s.holdEntries ++ tx.newHoldEntries :=
  foldlM_table (fun _ _ _ hexec => (exec_inserted hexec).holdEntries) (commit_eq_ok_iff.mp h).1

theorem commit_allocations (h : commit s tx = .ok s') :
    s'.creditGrantHoldAllocations = s.creditGrantHoldAllocations ++ tx.newAllocations :=
  foldlM_table (fun _ _ _ hexec => (exec_inserted hexec).allocations) (commit_eq_ok_iff.mp h).1

theorem replay_accounts (h : replay log = .ok s) :
    s.accounts = log.flatMap DbTransaction.newAccounts := by
  have hlog : s.accounts = Db.empty.accounts ++ log.flatMap DbTransaction.newAccounts :=
    foldlM_table (fun _ _ _ => commit_accounts) h
  exact hlog

theorem replay_transactions (h : replay log = .ok s) :
    s.transactions = log.flatMap DbTransaction.newTransactions := by
  have hlog : s.transactions = Db.empty.transactions ++
      log.flatMap DbTransaction.newTransactions := foldlM_table (fun _ _ _ => commit_transactions) h
  exact hlog

theorem replay_holdEntries (h : replay log = .ok s) :
    s.holdEntries = log.flatMap DbTransaction.newHoldEntries := by
  have hlog : s.holdEntries = Db.empty.holdEntries ++ log.flatMap DbTransaction.newHoldEntries :=
    foldlM_table (fun _ _ _ => commit_holdEntries) h
  exact hlog

theorem replay_entries (h : replay log = .ok s) :
    s.entries = log.flatMap DbTransaction.newEntries := by
  have hlog : s.entries = Db.empty.entries ++ log.flatMap DbTransaction.newEntries :=
    foldlM_table (fun _ _ _ => commit_entries) h
  exact hlog

theorem replay_creditGrantEntries (h : replay log = .ok s) :
    s.creditGrantEntries = log.flatMap DbTransaction.newCreditGrantEntries := by
  have hlog : s.creditGrantEntries = Db.empty.creditGrantEntries ++
      log.flatMap DbTransaction.newCreditGrantEntries :=
    foldlM_table (fun _ _ _ => commit_creditGrantEntries) h
  exact hlog

theorem replay_allocations (h : replay log = .ok s) :
    s.creditGrantHoldAllocations = log.flatMap DbTransaction.newAllocations := by
  have hlog : s.creditGrantHoldAllocations = Db.empty.creditGrantHoldAllocations ++
      log.flatMap DbTransaction.newAllocations :=
    foldlM_table (fun _ _ _ => commit_allocations) h
  exact hlog

end Tables

/-! ## What the deferred triggers have accepted at commit -/

section Deferred

variable {s s' : Db} {tx : DbTransaction}

theorem deferred_entry (h : commit s tx = .ok s') {e : Entry} (he : e ∈ tx.newEntries) :
    assertGrantEntryAttributed s' e = .ok () ∧ checkPostingHold s' e = .ok () := by
  obtain ⟨stmt, hstmt, hnew⟩ := List.mem_flatMap.mp he
  have hdeferred := (commit_eq_ok_iff.mp h).2 stmt hstmt
  cases stmt with
  | insertEntries rows =>
      have hrow := checkEach_eq_ok_iff.mp hdeferred e hnew
      simp only [bind_eq_ok_iff] at hrow
      obtain ⟨⟨⟩, hattributed, hposting⟩ := hrow
      exact ⟨hattributed, hposting⟩
  | _ => cases hnew

theorem deferred_lineage (h : commit s tx = .ok s') {l : CreditGrantEntry}
    (hl : l ∈ tx.newCreditGrantEntries) :
    assertGrantCompensationComplete s' l = .ok () ∧
      assertExpiredGrantCapacityRemoved tx.now s' l = .ok () := by
  obtain ⟨stmt, hstmt, hnew⟩ := List.mem_flatMap.mp hl
  have hdeferred := (commit_eq_ok_iff.mp h).2 stmt hstmt
  cases stmt with
  | insertCreditGrantEntries rows =>
      have hrow := checkEach_eq_ok_iff.mp hdeferred l hnew
      simp only [bind_eq_ok_iff] at hrow
      obtain ⟨⟨⟩, hcomplete, hremoved⟩ := hrow
      exact ⟨hcomplete, hremoved⟩
  | _ => cases hnew

theorem deferred_holdEntry (h : commit s tx = .ok s') {he : HoldEntry}
    (hhe : he ∈ tx.newHoldEntries) :
    assertGrantHoldAllocated s' he = .ok () ∧
      assertGrantHoldConsistent s' he.tenantId he.holdId = .ok () := by
  obtain ⟨stmt, hstmt, hnew⟩ := List.mem_flatMap.mp hhe
  have hdeferred := (commit_eq_ok_iff.mp h).2 stmt hstmt
  cases stmt with
  | insertHoldEntries rows =>
      have hrow := checkEach_eq_ok_iff.mp hdeferred he hnew
      simp only [bind_eq_ok_iff] at hrow
      obtain ⟨⟨⟩, hallocated, hconsistent⟩ := hrow
      exact ⟨hallocated, hconsistent⟩
  | _ => cases hnew

theorem deferred_allocation (h : commit s tx = .ok s') {a : CreditGrantHoldAllocation}
    (ha : a ∈ tx.newAllocations) : assertGrantAllocationTotal s' a = .ok () := by
  obtain ⟨stmt, hstmt, hnew⟩ := List.mem_flatMap.mp ha
  have hdeferred := (commit_eq_ok_iff.mp h).2 stmt hstmt
  cases stmt with
  | insertCreditGrantHoldAllocations rows => exact checkEach_eq_ok_iff.mp hdeferred a hnew
  | _ => cases hnew

theorem deferred_hold (h : commit s tx = .ok s') {hold : Hold} (hwritten : hold ∈ tx.writtenHolds) :
    assertGrantHoldConsistent s' hold.tenantId hold.id = .ok () := by
  obtain ⟨stmt, hstmt, hnew⟩ := List.mem_flatMap.mp hwritten
  have hdeferred := (commit_eq_ok_iff.mp h).2 stmt hstmt
  cases stmt with
  | insertHolds rows => exact checkEach_eq_ok_iff.mp hdeferred hold hnew
  | updateHolds changes =>
      obtain ⟨change, hchange, rfl⟩ := List.mem_map.mp hnew
      exact checkEach_eq_ok_iff.mp hdeferred change hchange
  | _ => cases hnew

end Deferred

/-! ## Invariants of the row steps -/

section Invariants

variable {P : Db → Prop}

theorem RowSteps.preserves {now : Timestamp} {s s' : Db}
    (hstep : ∀ s s', RowStep now s s' → P s → P s') (h : RowSteps now s s') (hs : P s) :
    P s' := by
  induction h with
  | refl => exact hs
  | tail _ hlast ih => exact hstep _ _ hlast ih

/-- An invariant of the row steps holds after every sequence of accepted
statements. -/
theorem replayStatements_invariant (hinit : P Db.empty)
    (hstep : ∀ now s s', RowStep now s s' → P s → P s') {log : List (Timestamp × Statement)}
    {s : Db} (h : replayStatements log = .ok s) : P s :=
  run_invariant hinit
    (fun _ step _ hexec hs => (exec_steps hexec).preserves (hstep step.1) hs) h

/-- An invariant of the row steps holds in every committed state. -/
theorem replay_invariant (hinit : P Db.empty)
    (hstep : ∀ now s s', RowStep now s s' → P s → P s') {log : List DbTransaction} {s : Db}
    (h : replay log = .ok s) : P s :=
  replayStatements_invariant hinit hstep (replayStatements_of_replay h)

end Invariants

/-! ## Rows stay -/

/-- The later database has every row of the earlier one; a hold keeps its identity,
and everything once it is final. -/
structure Extends (s s' : Db) : Prop where
  accounts : s.accounts <+: s'.accounts
  transactions : s.transactions <+: s'.transactions
  entries : s.entries <+: s'.entries
  creditGrants : s.creditGrants <+: s'.creditGrants
  creditGrantEntries : s.creditGrantEntries <+: s'.creditGrantEntries
  holdEntries : s.holdEntries <+: s'.holdEntries
  creditGrantHoldAllocations : s.creditGrantHoldAllocations <+: s'.creditGrantHoldAllocations
  holds : ∀ id h, s.hold? id = some h →
    ∃ h', s'.hold? id = some h' ∧ h'.identity = h.identity ∧ (h.state ≠ .held → h' = h)

namespace Extends

variable {s s' s'' : Db}

theorem refl (s : Db) : Extends s s :=
  ⟨List.prefix_rfl, List.prefix_rfl, List.prefix_rfl, List.prefix_rfl, List.prefix_rfl,
    List.prefix_rfl, List.prefix_rfl, fun _ h hfound => ⟨h, hfound, rfl, fun _ => rfl⟩⟩

theorem trans (h : Extends s s') (h' : Extends s' s'') : Extends s s'' := by
  refine ⟨h.accounts.trans h'.accounts, h.transactions.trans h'.transactions,
    h.entries.trans h'.entries, h.creditGrants.trans h'.creditGrants,
    h.creditGrantEntries.trans h'.creditGrantEntries, h.holdEntries.trans h'.holdEntries,
    h.creditGrantHoldAllocations.trans h'.creditGrantHoldAllocations, ?_⟩
  intro id hold hfound
  obtain ⟨hold', hfound', hidentity', hfinal'⟩ := h.holds id hold hfound
  obtain ⟨hold'', hfound'', hidentity'', hfinal''⟩ := h'.holds id hold' hfound'
  refine ⟨hold'', hfound'', hidentity''.trans hidentity', ?_⟩
  intro hfinal
  obtain rfl := hfinal' hfinal
  exact hfinal'' hfinal

section Lookups

variable (h : Extends s s')
include h

theorem account? {id : Uuid} {a : Account} (ha : s.account? id = some a) :
    s'.account? id = some a := by
  obtain ⟨more, hmore⟩ := h.accounts
  rw [Db.account?, ← hmore]
  exact lookup_append_of_some ha

theorem transaction? {id : Uuid} {t : Transaction} (ht : s.transaction? id = some t) :
    s'.transaction? id = some t := by
  obtain ⟨more, hmore⟩ := h.transactions
  rw [Db.transaction?, ← hmore]
  exact lookup_append_of_some ht

theorem entry? {id : Uuid} {e : Entry} (he : s.entry? id = some e) : s'.entry? id = some e := by
  obtain ⟨more, hmore⟩ := h.entries
  rw [Db.entry?, ← hmore]
  exact lookup_append_of_some he

theorem creditGrant? {id : Uuid} {g : CreditGrant} (hg : s.creditGrant? id = some g) :
    s'.creditGrant? id = some g := by
  obtain ⟨more, hmore⟩ := h.creditGrants
  rw [Db.creditGrant?, ← hmore]
  exact lookup_append_of_some hg

theorem holdEntry? {id : Uuid} {he : HoldEntry} (hhe : s.holdEntry? id = some he) :
    s'.holdEntry? id = some he := by
  obtain ⟨more, hmore⟩ := h.holdEntries
  rw [Db.holdEntry?, ← hmore]
  exact lookup_append_of_some hhe

/-- The rows a lineage row links to stay the same rows. -/
theorem linked {l : CreditGrantEntry} {linked : LinkedRows} (hl : Linked s l linked) :
    Linked s' l linked :=
  { hl with
    grant := h.creditGrant? hl.grant
    entry := h.entry? hl.entry
    transaction := h.transaction? hl.transaction
    account := h.account? hl.account }

/-- The capability of an account that exists does not change. -/
theorem grantEnabled {tenantId accountId : Uuid} (ha : (s.account? accountId).isSome) :
    s'.grantEnabled tenantId accountId = s.grantEnabled tenantId accountId := by
  obtain ⟨a, ha⟩ := Option.isSome_iff_exists.mp ha
  rw [Db.grantEnabled, Db.grantEnabled, ha, h.account? ha]

/-- The transaction of an entry that exists does not change. -/
theorem entryTransaction? {e : Entry} (he : (s.transaction? e.transactionId).isSome) :
    s'.entryTransaction? e = s.entryTransaction? e := by
  obtain ⟨t, ht⟩ := Option.isSome_iff_exists.mp he
  rw [Db.entryTransaction?, Db.entryTransaction?, ht, h.transaction? ht]

/-- The hold entry of an allocation that exists does not change. -/
theorem allocationHoldEntry? {a : CreditGrantHoldAllocation} {he : HoldEntry}
    (hhe : s.allocationHoldEntry? a = some he) : s'.allocationHoldEntry? a = some he := by
  simp only [Db.allocationHoldEntry?, Option.filter_eq_some_iff] at hhe ⊢
  exact ⟨h.holdEntry? hhe.1, hhe.2⟩

end Lookups

end Extends

/-- A hold changed in place keeps every other hold. -/
theorem hold?_replaceHold {s : Db} {new old : Hold} (hfound : s.hold? new.id = some old)
    (id : Uuid) :
    (s.replaceHold new).hold? id = if id = new.id then some new else s.hold? id := by
  have hmap : (s.replaceHold new).hold? id =
      (s.hold? id).map fun h => if h.id = new.id then new else h := by
    apply lookup_map
    intro h _
    by_cases hid : h.id = new.id
    · rw [if_pos hid, hid]
    · rw [if_neg hid]
  rw [hmap]
  by_cases hid : id = new.id
  · subst hid
    have hold : old.id = new.id := key_of_lookup hfound
    rw [hfound, if_pos rfl, Option.map_some, if_pos hold]
  · rw [if_neg hid]
    cases hother : s.hold? id with
    | none => rfl
    | some h =>
        have hh : h.id = id := key_of_lookup hother
        rw [Option.map_some, if_neg (by rw [hh]; exact hid)]

theorem RowStep.extends {now : Timestamp} {s s' : Db} (h : RowStep now s s') : Extends s s' := by
  have hrefl := Extends.refl s
  cases h with
  | asset _ => exact { hrefl with }
  | account _ => exact { hrefl with accounts := List.prefix_append _ _ }
  | transaction _ => exact { hrefl with transactions := List.prefix_append _ _ }
  | entry _ => exact { hrefl with entries := List.prefix_append _ _ }
  | creditGrant _ => exact { hrefl with creditGrants := List.prefix_append _ _ }
  | creditGrantEntry _ => exact { hrefl with creditGrantEntries := List.prefix_append _ _ }
  | hold _ =>
      refine { hrefl with holds := ?_ }
      intro id h hfound
      exact ⟨h, lookup_append_of_some hfound, rfl, fun _ => rfl⟩
  | holdEntry _ => exact { hrefl with holdEntries := List.prefix_append _ _ }
  | allocation _ => exact { hrefl with creditGrantHoldAllocations := List.prefix_append _ _ }
  | capacityVersion _ => exact { hrefl with }
  | @holdChange old new found transition _ =>
      refine { hrefl with holds := ?_ }
      intro id h hfound
      rw [hold?_replaceHold found]
      by_cases hid : id = new.id
      · subst hid
        obtain rfl := Option.some.inj (found.symm.trans hfound)
        refine ⟨new, if_pos rfl, transition.identity, ?_⟩
        intro hfinal
        exact absurd transition.held hfinal
      · exact ⟨h, (if_neg hid).trans hfound, rfl, fun _ => rfl⟩

theorem RowSteps.extends {now : Timestamp} {s s' : Db} (h : RowSteps now s s') : Extends s s' := by
  induction h with
  | refl => exact Extends.refl s
  | tail _ hlast ih => exact ih.trans hlast.extends

/-! ## The rows of a log were checked as they were inserted -/

section Checked

variable {s s' : Db} {tx : DbTransaction} {log : List DbTransaction}

/-- Later database transactions only extend the database. -/
theorem replay_extends (h : run commit s log = .ok s') : Extends s s' :=
  foldlM_preserves (P := Extends s)
    (fun _ _ _ _ hnext hext => hext.trans (RowSteps.extends (commit_steps hnext))) h
    (Extends.refl s)

/-- Every database transaction of a log committed, on the state of the log before it. -/
theorem replay_mem (h : replay log = .ok s) (htx : tx ∈ log) :
    ∃ before after s₁ s₂, log = before ++ tx :: after ∧ replay before = .ok s₁ ∧
      commit s₁ tx = .ok s₂ ∧ Extends s₂ s := by
  obtain ⟨before, after, s₁, s₂, hlog, hbefore, hcommit, hafter⟩ := foldlM_mem h htx
  exact ⟨before, after, s₁, s₂, hlog, hbefore, hcommit, replay_extends hafter⟩

/-- What a statement establishes of a row as it writes it was established inside the
database transaction that writes it. -/
theorem commit_written {ρ : Type} {new : Statement → List ρ} {Q : Db → ρ → Prop}
    (hexec : ∀ s stmt s', stmt.exec tx.now s = .ok s' → ∀ r ∈ new stmt,
      ∃ mid, RowSteps tx.now s mid ∧ Q mid r ∧ RowSteps tx.now mid s')
    (h : commit s tx = .ok s') {r : ρ} (hr : r ∈ tx.statements.flatMap new) :
    ∃ mid, RowSteps tx.now s mid ∧ Q mid r ∧ RowSteps tx.now mid s' := by
  obtain ⟨stmt, hstmt, hnew⟩ := List.mem_flatMap.mp hr
  obtain ⟨before, after, s₁, s₂, -, hbefore, hstep, hafter⟩ :=
    foldlM_mem (commit_eq_ok_iff.mp h).1 hstmt
  obtain ⟨mid, hmid, hwritten, hrest⟩ := hexec s₁ stmt s₂ hstep r hnew
  exact ⟨mid, (foldlM_steps (fun _ _ _ _ => exec_steps) hbefore).trans hmid, hwritten,
    hrest.trans (foldlM_steps (fun _ _ _ _ => exec_steps) hafter)⟩

theorem commit_checked_lineage (h : commit s tx = .ok s') {l : CreditGrantEntry}
    (hl : l ∈ tx.newCreditGrantEntries) :
    ∃ mid, RowSteps tx.now s mid ∧ checkCreditGrantEntry tx.now mid l = .ok () ∧
      RowSteps tx.now mid s' := by
  refine commit_written (Q := fun mid l => checkCreditGrantEntry tx.now mid l = .ok ())
    (fun s stmt s' hexec r hr => ?_) h hl
  cases stmt with
  | insertCreditGrantEntries rows =>
      obtain ⟨stored, hstored, hafter⟩ := insertRows_eq_ok_iff.mp hexec
      obtain ⟨mid, hmid, hcheck, hrest⟩ :=
        insertEach_mem (R := RowStep tx.now) (fun _ _ _ hcheck => .creditGrantEntry hcheck)
          hstored hr
      exact ⟨mid, hmid, hcheck, hrest.trans
        (foldlM_steps (fun _ _ _ _ hrow => (insertCapacityVersion_step hrow).1 tx.now) hafter)⟩
  | _ => cases hr

theorem commit_checked_allocation (h : commit s tx = .ok s') {a : CreditGrantHoldAllocation}
    (ha : a ∈ tx.newAllocations) :
    ∃ mid, RowSteps tx.now s mid ∧ checkCreditGrantHoldAllocation tx.now mid a = .ok () ∧
      RowSteps tx.now mid s' := by
  refine commit_written (Q := fun mid a => checkCreditGrantHoldAllocation tx.now mid a = .ok ())
    (fun s stmt s' hexec r hr => ?_) h ha
  cases stmt with
  | insertCreditGrantHoldAllocations rows =>
      obtain ⟨stored, hstored, hafter⟩ := insertRows_eq_ok_iff.mp hexec
      obtain ⟨mid, hmid, hcheck, hrest⟩ :=
        insertEach_mem (R := RowStep tx.now) (fun _ _ _ hcheck => .allocation hcheck) hstored hr
      exact ⟨mid, hmid, hcheck, hrest.trans (foldlM_steps
        (fun _ _ _ _ hrow => (appendCreditGrantReservationVersion_step hrow).1 tx.now) hafter)⟩
  | _ => cases hr

end Checked

/-! ## A small run

Tenant 1 has a ledger 5 with a prepaid account 10 and a funding account 11.  A grant
of 100 is issued, 60 of it are held, 40 of the hold are captured, the rest is voided.
The runs of the later modules vary it. -/

namespace Sample

/-- An asset, a grant-enabled account and its funding account. -/
def accounts : List Statement :=
  [.insertAssets [⟨1, 1, "USD", 2⟩],
    .insertAccounts [⟨10, 1, 5, .credit, .disallow, 1, true⟩,
      ⟨11, 1, 5, .debit, .allow, 1, false⟩]]

/-- Transaction `100 + n` issues grant `300 + n` of 100. -/
def issuance (n : Uuid) (expiresAt : Option Timestamp) : List Statement :=
  [.insertTransactions [⟨100 + n, 1, 5, none, none, none, 1, 1⟩],
    .insertEntries [⟨200 + 2 * n, 1, 100 + n, 10, -100, 1⟩, ⟨201 + 2 * n, 1, 100 + n, 11, 100, 1⟩],
    .insertCreditGrants [⟨300 + n, 1, 5, 10, 11, 100 + n, expiresAt, 1⟩],
    .insertCreditGrantEntries [⟨1, 5, 10, 300 + n, 200 + 2 * n, .issuance, 100⟩]]

/-- Transaction 150 spends 40 of grant 300 without a hold. -/
def spending : List Statement :=
  [.insertTransactions [⟨150, 1, 5, none, none, none, 1, 2⟩],
    .insertEntries [⟨250, 1, 150, 10, 40, 1⟩, ⟨251, 1, 150, 11, -40, 1⟩],
    .insertCreditGrantEntries [⟨1, 5, 10, 300, 250, .consumption, 40⟩]]

/-- Hold 400 of 60. -/
def hold : Hold := ⟨400, 1, 5, "order", "USD", 1, none, .held, 60, 60, 2, none, none⟩

/-- The hold, its entries and its allocation to the grant. -/
def reservation : List Statement :=
  [.insertHolds [hold],
    .insertHoldEntries [⟨500, 1, 400, 10, 60, 1⟩, ⟨501, 1, 400, 11, -60, 1⟩],
    .insertCreditGrantHoldAllocations [⟨600, 1, 5, 10, 300, 500, 60⟩]]

/-- Transaction 160 captures 40 of the hold. -/
def capture : List Statement :=
  [.insertTransactions [⟨160, 1, 5, some 400, none, none, 1, 3⟩],
    .insertEntries [⟨260, 1, 160, 10, 40, 1⟩, ⟨261, 1, 160, 11, -40, 1⟩],
    .insertCreditGrantEntries [⟨1, 5, 10, 300, 260, .consumption, 40⟩],
    .updateHolds [(400, { hold with remainingAmountMinor := 20 })]]

/-- The rest of the hold is voided. -/
def void : List Statement :=
  [.updateHolds [(400,
    { hold with state := .voided, remainingAmountMinor := 0, voidedAt := some 4 })]]

/-- The run. -/
def log : List DbTransaction :=
  [⟨0, accounts⟩, ⟨1, issuance 0 (some 50)⟩, ⟨2, reservation⟩, ⟨3, capture⟩, ⟨4, void⟩]

/-- The state a log leaves, for logs that are accepted. -/
def stateAfter (log : List DbTransaction) : Db := (replay log).toOption.getD Db.empty

theorem replay_stateAfter {log : List DbTransaction} (h : (replay log).toBool = true) :
    replay log = .ok (stateAfter log) :=
  eq_ok_getD h Db.empty

example : ((stateAfter log).versionsOf 1 300).map (fun v => (v.remainingMinor, v.reservedMinor)) =
    [(100, 0), (100, 60), (60, 20), (60, 0)] := by rfl

end Sample

end LuxLedger.Credit
