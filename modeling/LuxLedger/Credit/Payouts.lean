/-
  Credit/Payouts.lean --- what can be paid out of an account.

  A payout debits a prepaid account against another one and attributes the debit to
  grants: as CONSUMPTION, as a REFUND to the funding account, or as an EXPIRATION.  Some
  ten triggers and constraints look at it on the way; in every reachable state they let it
  through exactly if each grant has the share free and is live, or has expired, and the
  shares make up the debit.

  Sources: `validate_credit_grant_entry` (0007), `assert_grant_entry_attributed` (0002),
  `assert_expired_grant_capacity_removed` (0004).
-/
import LuxLedger.Credit.Postings

set_option autoImplicit false

namespace LuxLedger.Credit

open LuxLedger.Schema LuxLedger.Relational

/-! ## The payout -/

namespace Posting

/-- The database transaction that posts the debit and attributes it. -/
def payOut (p : Posting) (now : Timestamp) (kind : CreditGrantEntryKind)
    (shares : List (Uuid × Int)) : DbTransaction where
  now := now
  statements := [.insertTransactions [p.transaction], .insertEntries [p.debit, p.credit],
    .insertCreditGrantEntries (shares.map (p.lineage kind))]

/-- What a kind asks of the grant: it is live when it is consumed or refunded and has expired
when it is taken back; what goes back goes to the funding account, in one share. -/
def Allows (p : Posting) (now : Timestamp) (g : CreditGrant) (amountMinor : Int) :
    CreditGrantEntryKind → Prop
  | .consumption => g.LiveAt p.effectiveAt ∧ g.LiveAt now
  | .refund => g.LiveAt p.effectiveAt ∧ g.LiveAt now ∧ amountMinor = p.amountMinor ∧
      p.counter.id = g.fundingAccountId
  | .expiration => (∃ expiry ∈ g.expiresAt, expiry ≤ p.effectiveAt ∧ expiry ≤ now) ∧
      amountMinor = p.amountMinor ∧ p.counter.id = g.fundingAccountId
  | _ => False

instance (p : Posting) (now : Timestamp) (g : CreditGrant) (amountMinor : Int) :
    ∀ kind, Decidable (p.Allows now g amountMinor kind)
  | .consumption => inferInstanceAs (Decidable (g.LiveAt p.effectiveAt ∧ g.LiveAt now))
  | .refund => inferInstanceAs (Decidable (g.LiveAt p.effectiveAt ∧ g.LiveAt now ∧ _ ∧ _))
  | .expiration => inferInstanceAs (Decidable ((∃ expiry ∈ g.expiresAt, _) ∧ _ ∧ _))
  | .issuance | .reversal | .compensation => isFalse id

/-- A grant of the account can give a share of the debit. -/
def Payable (p : Posting) (w : Purse) (now : Timestamp) (kind : CreditGrantEntryKind)
    (share : Uuid × Int) : Prop :=
  0 < share.2 ∧ share.2 ≤ p.amountMinor ∧
    ∃ g ∈ w.grants, g.id = share.1 ∧ g.tenantId = p.account.tenantId ∧
      g.accountId = p.account.id ∧ share.2 ≤ w.free g.tenantId g.id ∧
      p.Allows now g share.2 kind

end Posting

/-- The kinds of lineage that pay out. -/
def paysOut (kind : CreditGrantEntryKind) : Prop :=
  kind = .consumption ∨ kind = .refund ∨ kind = .expiration

/-! ## The validator on a share -/

section Payout

variable {s : Db} {p : Posting} {now : Timestamp} {kind : CreditGrantEntryKind}
  {share : Uuid × Int} {before shares : List (Uuid × Int)}

/-- No entry belongs to the transaction before it is posted. -/
theorem fundingCredit_attributed (hs : Usable s) (hp : p.Possible s) (fundingAccountId : Uuid) :
    fundingCredit (p.attributed s kind before) p.account.tenantId p.transactionId
      fundingAccountId = if p.counter.id = fundingAccountId then p.amountMinor else 0 := by
  have hold : sumWhere s.entries (fun e => e.tenantId = p.account.tenantId ∧
      e.transactionId = p.transactionId ∧ e.accountId = fundingAccountId ∧
      e.signedAmountMinor < 0) (fun e => - e.signedAmountMinor) = 0 := by
    refine sumWhere_eq_zero fun e he hcondition => ?_
    obtain ⟨t, ht⟩ := Option.isSome_iff_exists.mp (hs.reserve.intact.history.entries e he).2.1
    exact absurd ((key_of_lookup ht).trans (of_decide_eq_true hcondition).2.1)
      (hp.transactionNew t (mem_of_lookup ht))
  have hnew : fundingCredit (p.attributed s kind before) p.account.tenantId p.transactionId
      fundingAccountId = _ + sumWhere [p.debit, p.credit] (fun e =>
        e.tenantId = p.account.tenantId ∧ e.transactionId = p.transactionId ∧
        e.accountId = fundingAccountId ∧ e.signedAmountMinor < 0)
        (fun e => - e.signedAmountMinor) := sumWhere_append [p.debit, p.credit]
  have hpos := hp.amountPos
  rw [hnew, hold, zero_add, sumWhere_cons, sumWhere_singleton]
  by_cases hfunding : p.counter.id = fundingAccountId
  · simp [Posting.debit, Posting.credit, hfunding, hpos, hpos.not_gt]
  · simp [Posting.debit, Posting.credit, hfunding, hpos.not_gt]

/-- What the branch of the kind asks of the posting and a grant. -/
theorem acceptedKind_attributed_iff (hs : Usable s) (hp : p.Possible s) (hkind : paysOut kind)
    (hnone : p.holdId = none) (hpos : 0 < share.2) {g : CreditGrant} (hid : g.id = share.1)
    (htenant : g.tenantId = p.account.tenantId) :
    AcceptedKind (p.attributed s kind before) now (p.lineage kind share) (p.linked g) ↔
      share.2 ≤ freeMinor s g.tenantId g.id ∧ p.Allows now g share.2 kind := by
  have hdebit : 0 < p.debit.signedAmountMinor := hp.amountPos
  have hamount : |p.amountMinor| = p.amountMinor := abs_of_pos hp.amountPos
  have hfunding := @fundingCredit_attributed s p kind before hs hp g.fundingAccountId
  have hfunded : fundingCredit (p.attributed s kind before) p.account.tenantId p.transactionId
      g.fundingAccountId = share.2 ↔
        p.counter.id = g.fundingAccountId ∧ share.2 = p.amountMinor := by
    rw [hfunding]
    split_ifs with hcounter
    · exact ⟨fun h => ⟨hcounter, h.symm⟩, fun h => h.2.symm⟩
    · exact iff_of_false hpos.ne fun h => hcounter h.1
  have hfree : freeMinor s g.tenantId g.id =
      s.latestMinor p.account.tenantId share.1 (·.remainingMinor) -
        activeCreditGrantReservation s p.account.tenantId share.1 := by
    rw [htenant, hid]
    rfl
  rw [hfree]
  have hhold : (p.linked g).transaction.holdId = none := hnone
  rcases hkind with rfl | rfl | rfl
  · have hkind : (p.lineage .consumption share).kind = .consumption := rfl
    simp only [AcceptedKind, hkind, hhold]
    constructor
    · rintro ⟨-, hle, hlive⟩
      exact ⟨hle, hlive⟩
    · rintro ⟨hle, hlive⟩
      exact ⟨hdebit, hle, hlive⟩
  · constructor
    · rintro ⟨-, -, -, -, -, hle, hlive, hnow, hcredit⟩
      exact ⟨hle, hlive, hnow, (hfunded.mp hcredit).2, (hfunded.mp hcredit).1⟩
    · rintro ⟨hle, hlive, hnow, hwhole, hcounter⟩
      exact ⟨hdebit, hwhole.trans hamount.symm, hhold, rfl, rfl, hle, hlive, hnow,
        hfunded.mpr ⟨hcounter, hwhole⟩⟩
  · constructor
    · rintro ⟨-, -, hexpired, hle, hcredit⟩
      exact ⟨hle, hexpired, (hfunded.mp hcredit).2, (hfunded.mp hcredit).1⟩
    · rintro ⟨hle, hexpired, hwhole, hcounter⟩
      exact ⟨hdebit, hwhole.trans hamount.symm, hexpired, hle, hfunded.mpr ⟨hcounter, hwhole⟩⟩

/-- The check of a share, whatever shares are in already. -/
theorem checkPayout_iff (hs : Usable s) (hp : p.Possible s) (hkind : paysOut kind)
    (hnone : p.holdId = none) :
    checkCreditGrantEntry now (p.attributed s kind before) (p.lineage kind share) = .ok () ↔
      (∀ b ∈ before, b.1 ≠ share.1) ∧ p.Payable (purse s) now kind share := by
  have hother : kind ≠ .issuance ∧ kind ≠ .reversal := by
    rcases hkind with rfl | rfl | rfl <;> exact ⟨by decide, by decide⟩
  rw [checkLineage_iff hs hp hother.1 hother.2]
  refine and_congr_right fun _ => and_congr_right fun hpos => and_congr_right fun _ => ?_
  refine exists_congr fun g => and_congr_right fun _ => and_congr_right fun hid => ?_
  refine and_congr_right fun htenant => and_congr_right fun _ => ?_
  exact acceptedKind_attributed_iff hs hp hkind hnone hpos hid htenant

/-! ## The database transaction -/

theorem exec_payOut (hs : Usable s) (hp : p.Possible s) :
    (p.payOut now kind shares).exec s =
      (Statement.insertCreditGrantEntries (shares.map (p.lineage kind))).exec now (p.posted s) := by
  refine (exec_posting hs hp.toFresh _).trans ?_
  simp only [List.foldlM_cons, List.foldlM_nil, bind_pure]

/-- The lineage is stored exactly if its shares are of different grants, each of which can give
its share. -/
theorem exec_payOut_iff (hs : Usable s) (hp : p.Possible s) (hkind : paysOut kind)
    (hnone : p.holdId = none) :
    (∃ s', (p.payOut now kind shares).exec s = .ok s') ↔
      UniqueKey Prod.fst shares ∧ ∀ share ∈ shares, p.Payable (purse s) now kind share := by
  rw [exec_payOut hs hp]
  exact exec_lineage_iff hs hp fun _ _ => checkPayout_iff hs hp hkind hnone

/-! ## The deferred triggers -/

/-- A posting without a hold has only its attribution checked. -/
theorem deferred_entries_iff {s' : Db} (hs : Usable s) (hp : p.Possible s)
    (hnone : p.holdId = none) (hstored : p.StoredIn s kind shares s') :
    (Statement.insertEntries [p.debit, p.credit]).deferred now s' = .ok () ↔
      shareTotal shares = p.amountMinor := by
  have hdebit := assertGrantEntryAttributed_debit_iff hs hp hstored
  have hcredit := assertGrantEntryAttributed_credit hs hp hstored
  have hlegs : checkPostingHold s' p.debit = .ok () ∧ checkPostingHold s' p.credit = .ok () :=
    ⟨checkPostingHold_posted hp.toFresh hnone hstored.transactions rfl rfl,
      checkPostingHold_posted hp.toFresh hnone hstored.transactions rfl rfl⟩
  simp only [Statement.deferred, checkEach_eq_ok_iff, List.forall_mem_cons, bind_eq_ok_iff,
    exists_const, hdebit, hcredit, hlegs.1, hlegs.2, List.not_mem_nil, IsEmpty.forall_iff,
    implies_true, and_true]

section Outcome

variable {s' : Db} (hs : Usable s) (hp : p.Possible s) (hkind : paysOut kind)
  (hnone : p.holdId = none) (h : (p.payOut now kind shares).exec s = .ok s')
include hs hp h

theorem sameTables_payOut : SameTables (p.attributed s kind shares) s' := by
  rw [exec_payOut hs hp] at h
  exact exec_store h

theorem payOut_usable : Usable s' := by
  rw [exec_payOut hs hp] at h
  exact (posted_usable hs hp.toFresh).statement h

include hkind hnone in
/-- A payout takes its shares out of what is free, and nothing else. -/
theorem freeMinor_payOut (t g : Uuid) :
    freeMinor s' t g =
      freeMinor s t g - if t = p.account.tenantId then shareOf shares g else 0 := by
  have hsame := sameTables_payOut hs hp h
  have hstored := storedIn_of_sameTables hsame
  have hadded := @latestMinor_added now s s' (shares.map (p.lineage kind)) [] hs.reserve
    (payOut_usable hs hp h).reserve (txExec_steps h)
    (by obtain ⟨versions, rfl⟩ := hsame; rfl) (by obtain ⟨versions, rfl⟩ := hsame; rfl)
    (by obtain ⟨versions, rfl⟩ := hsame; exact (List.append_nil _).symm) t g
  have hshares : sumWhere (shares.map (p.lineage kind)) (fun l => l.tenantId = t ∧ l.grantId = g)
      (·.amountMinor) = if t = p.account.tenantId then shareOf shares g else 0 := by
    rw [sumWhere_map, shareOf]
    split_ifs with htenant
    · exact sumWhere_congr (fun share _ => by simp [Posting.lineage, htenant]) fun _ _ _ => rfl
    · refine sumWhere_eq_zero fun share _ hcondition => ?_
      exact absurd (of_decide_eq_true hcondition).1.symm htenant
  have hdelta : ∀ l ∈ shares.map (p.lineage kind),
      (lineageEvent s' l).delta .remaining = - l.amountMinor ∧
        (lineageEvent s' l).delta .reserved = 0 := by
    intro l hl
    obtain ⟨share, -, rfl⟩ := List.mem_map.mp hl
    rw [lineageEvent, lineageHoldId_stored hp hstored, hnone]
    rcases hkind with rfl | rfl | rfl <;>
      simp [CapacityEvent.delta, lineageDelta, Posting.lineage]
  have hremaining := hadded .remaining
  rw [sumWhere_congr (fun _ _ => rfl) fun l hl _ => (hdelta l hl).1, sumWhere_neg, hshares,
    sumWhere_nil] at hremaining
  have hreserved := hadded .reserved
  rw [sumWhere_eq_zero fun l hl _ => (hdelta l hl).2, sumWhere_nil] at hreserved
  simp only [Counter.column] at hremaining hreserved
  unfold freeMinor activeCreditGrantReservation
  omega

include hnone in
theorem leftMinor_payOut (id g : Uuid) : leftMinor s' id g = leftMinor s id g := by
  have hstored := storedIn_of_sameTables (sameTables_payOut hs hp h)
  have hsame : s'.hold? id = s.hold? id ∧
      s'.creditGrantHoldAllocations = s.creditGrantHoldAllocations ++ [] := by
    obtain ⟨versions, rfl⟩ := sameTables_payOut hs hp h
    exact ⟨rfl, (List.append_nil _).symm⟩
  refine leftMinor_congr hsame.1 g fun hold _ => ?_
  rw [uncaptured_added hs.reserve (txExec_steps h) hstored.lineage hsame.2, sumWhere_nil,
    sumWhere_eq_zero, sub_zero, add_zero]
  intro l hl hcondition
  obtain ⟨share, -, rfl⟩ := List.mem_map.mp hl
  have hcarries := (of_decide_eq_true hcondition).2.2.2
  rw [lineageHoldId_stored hp hstored, hnone] at hcarries
  cases hcarries

include hkind hnone in
theorem purse_payOut : purse s' = (purse s).take p.account.tenantId shares := by
  ext t g
  · obtain ⟨versions, rfl⟩ := sameTables_payOut hs hp h
    rfl
  · exact freeMinor_payOut hs hp hkind hnone h t g
  · exact leftMinor_payOut hs hp hnone h t g

include hkind hnone in
theorem assertExpired_payOut_iff (hdistinct : UniqueKey Prod.fst shares) (hshare : share ∈ shares)
    (hpayable : p.Payable (purse s) now kind share) :
    assertExpiredGrantCapacityRemoved now s' (p.lineage kind share) = .ok () ↔
      (kind = .expiration → share.2 = freeMinor s p.account.tenantId share.1) := by
  obtain ⟨-, -, g, hg, hid, htenant, -, -, hallows⟩ := hpayable
  have hfree := freeMinor_payOut hs hp hkind hnone h p.account.tenantId share.1
  rw [if_pos rfl, shareOf_eq hdistinct hshare] at hfree
  rcases hkind with rfl | rfl | rfl
  · exact iff_of_true rfl fun hkind => by cases hkind
  · exact iff_of_true rfl fun hkind => by cases hkind
  · obtain ⟨⟨expiry, hexpiry, -, hexpired⟩, -⟩ := hallows
    have hgrant : s'.creditGrant? share.1 = some g := by
      obtain ⟨versions, rfl⟩ := sameTables_payOut hs hp h
      rw [← hid]
      exact hs.creditGrant? hg
    have hfound : ((s'.creditGrant? (p.lineage .expiration share).grantId).filter fun g =>
        g.tenantId = (p.lineage .expiration share).tenantId).bind (·.expiresAt) = some expiry := by
      change ((s'.creditGrant? share.1).filter _).bind _ = _
      have hscope : decide (g.tenantId = (p.lineage .expiration share).tenantId) = true :=
        decide_eq_true htenant
      rw [hgrant, Option.filter_some, if_pos hscope]
      exact hexpiry
    have hpast : Truth.or (.of ((some expiry).isNone = true))
        (Truth.compare (· > ·) (some expiry) (some now)) ≠ some true := by
      simp [Truth.or_eq_true_iff, hexpired]
    have hkinds : ¬ ((p.lineage .expiration share).kind ≠ .compensation ∧
        (p.lineage .expiration share).kind ≠ .expiration) := fun hother => hother.2 rfl
    simp only [assertExpiredGrantCapacityRemoved, hfound]
    rw [if_neg hkinds, if_neg hpast, raiseIf_eq_ok_iff, ne_eq, Truth.of_eq_true_iff, not_not]
    change s'.latestMinor p.account.tenantId share.1 (·.remainingMinor) =
      activeCreditGrantReservation s' p.account.tenantId share.1 ↔ _
    rw [← sub_eq_zero]
    change freeMinor s' p.account.tenantId share.1 = 0 ↔ _
    rw [hfree, sub_eq_zero, eq_comm]
    exact ⟨fun heq _ => heq, fun heq => heq trivial⟩

include hkind hnone in
/-- The deferred trigger of an expiration wants nothing free to be left. -/
theorem deferred_lineage_iff (hdistinct : UniqueKey Prod.fst shares)
    (hpayable : ∀ share ∈ shares, p.Payable (purse s) now kind share) :
    (Statement.insertCreditGrantEntries (shares.map (p.lineage kind))).deferred now s' = .ok () ↔
      (kind = .expiration →
        ∀ share ∈ shares, share.2 = freeMinor s p.account.tenantId share.1) := by
  have hcompensation : ∀ share : Uuid × Int,
      assertGrantCompensationComplete s' (p.lineage kind share) = .ok () := by
    intro share
    rcases hkind with rfl | rfl | rfl <;> rfl
  simp only [Statement.deferred, checkEach_eq_ok_iff, List.forall_mem_map, hcompensation,
    bind_eq_ok_iff, exists_const, true_and]
  constructor
  · intro hall hexpiration share hshare
    exact (assertExpired_payOut_iff hs hp hkind hnone h hdistinct hshare (hpayable share hshare)).mp
      (hall share hshare) hexpiration
  · intro hall share hshare
    have hexpired :=
      assertExpired_payOut_iff hs hp hkind hnone h hdistinct hshare (hpayable share hshare)
    exact hexpired.mpr fun hexpiration => hall hexpiration share hshare

end Outcome

/-! ## Payouts -/

/-- Shares of different grants, each of which can give its share, make up the debit; an
expiration leaves nothing free. -/
structure Posting.Covered (p : Posting) (w : Purse) (now : Timestamp) (kind : CreditGrantEntryKind)
    (shares : List (Uuid × Int)) : Prop where
  distinct : UniqueKey Prod.fst shares
  payable : ∀ share ∈ shares, p.Payable w now kind share
  total : shareTotal shares = p.amountMinor
  whole : kind = .expiration → ∀ share ∈ shares, share.2 = w.free p.account.tenantId share.1

theorem commit_payOut_iff (hs : Usable s) (hp : p.Possible s) (hkind : paysOut kind)
    (hnone : p.holdId = none) :
    (∃ s', commit s (p.payOut now kind shares) = .ok s') ↔ p.Covered (purse s) now kind shares := by
  have hstatements : ∀ s', p.StoredIn s kind shares s' →
      ((∀ stmt ∈ (p.payOut now kind shares).statements, stmt.deferred now s' = .ok ()) ↔
        shareTotal shares = p.amountMinor ∧
          (Statement.insertCreditGrantEntries (shares.map (p.lineage kind))).deferred now s' =
            .ok ()) := by
    intro s' hstored
    have hentries := @deferred_entries_iff s p now kind shares s' hs hp hnone hstored
    simp only [Posting.payOut, List.forall_mem_cons, hentries, List.not_mem_nil,
      IsEmpty.forall_iff, implies_true, and_true]
    exact and_iff_right rfl
  constructor
  · rintro ⟨s', hcommit⟩
    obtain ⟨hexec, hdeferred⟩ := commit_eq_ok_iff.mp hcommit
    obtain ⟨hdistinct, hpayable⟩ := (exec_payOut_iff hs hp hkind hnone).mp ⟨s', hexec⟩
    have hstored := storedIn_of_sameTables (sameTables_payOut hs hp hexec)
    obtain ⟨htotal, hlineage⟩ := (hstatements s' hstored).mp hdeferred
    exact ⟨hdistinct, hpayable, htotal,
      (deferred_lineage_iff hs hp hkind hnone hexec hdistinct hpayable).mp hlineage⟩
  · rintro ⟨hdistinct, hpayable, htotal, hwhole⟩
    obtain ⟨s', hexec⟩ := (exec_payOut_iff hs hp hkind hnone).mpr ⟨hdistinct, hpayable⟩
    have hstored := storedIn_of_sameTables (sameTables_payOut hs hp hexec)
    refine ⟨s', commit_eq_ok_iff.mpr ⟨hexec, (hstatements s' hstored).mpr ⟨htotal, ?_⟩⟩⟩
    exact (deferred_lineage_iff hs hp hkind hnone hexec hdistinct hpayable).mpr hwhole

/-- In every reachable state a payout is accepted exactly if its shares cover it, and it takes
its shares from what their grants have free. -/
theorem payout_accepted_iff {steps : List (Timestamp × Change)}
    (h : runChanges Db.empty steps = .ok s) (hp : p.Possible s) (hkind : paysOut kind)
    (hnone : p.holdId = none) :
    ((∃ s', commit s (p.payOut now kind shares) = .ok s') ↔ p.Covered (purse s) now kind shares) ∧
      ∀ s', commit s (p.payOut now kind shares) = .ok s' →
        purse s' = (purse s).take p.account.tenantId shares := by
  have hs : Usable s := runChanges_usable h
  refine ⟨commit_payOut_iff hs hp hkind hnone, fun s' hcommit => ?_⟩
  exact purse_payOut hs hp hkind hnone (commit_eq_ok_iff.mp hcommit).1

/-! ## What an account can spend -/

/-- A consumption is covered by a split of the debit over the grants that are live. -/
theorem covered_consumption_iff {w : Purse} :
    p.Covered w now .consumption shares ↔ w.Split (max p.effectiveAt now) p.account.tenantId
      p.account.id p.amountMinor shares := by
  constructor
  · rintro ⟨hdistinct, hpayable, htotal, -⟩
    refine ⟨hdistinct, fun share hshare => ?_, htotal⟩
    obtain ⟨hpos, -, g, hg, hid, htenant, haccount, hfree, hlive⟩ := hpayable share hshare
    exact ⟨hpos, g, hg, hid, htenant, haccount, liveAt_max.mpr hlive, hfree⟩
  · intro h
    refine ⟨h.distinct, fun share hshare => ?_, h.total, fun hkind => by cases hkind⟩
    obtain ⟨hpos, g, hg, hid, htenant, haccount, hlive, hfree⟩ := h.free share hshare
    have hle : share.2 ≤ shareTotal shares :=
      le_shareTotal (fun share' hshare' => (h.free share' hshare').1.le) hshare
    exact ⟨hpos, hle.trans_eq h.total, g, hg, hid, htenant, haccount, hfree, liveAt_max.mp hlive⟩

/-- In every reachable state, an account can spend an amount exactly if its live grants have it
free together, whatever the amount is split into. -/
theorem spendable_iff {steps : List (Timestamp × Change)} (h : runChanges Db.empty steps = .ok s)
    (hp : p.Possible s) (hnone : p.holdId = none) :
    ((∃ shares s', commit s (p.payOut now .consumption shares) = .ok s') ↔
      p.amountMinor ≤
        (purse s).spendable (max p.effectiveAt now) p.account.tenantId p.account.id) ∧
    ∀ shares s', commit s (p.payOut now .consumption shares) = .ok s' → ∀ t a,
      (purse s').spendable (max p.effectiveAt now) t a =
        (purse s).spendable (max p.effectiveAt now) t a -
          if t = p.account.tenantId ∧ a = p.account.id then p.amountMinor else 0 := by
  have hs : Usable s := runChanges_usable h
  have hw : (purse s).Sound := purse_sound hs.reserve
  have haccepted : ∀ shares, (∃ s', commit s (p.payOut now .consumption shares) = .ok s') ↔
      (purse s).Split (max p.effectiveAt now) p.account.tenantId p.account.id p.amountMinor
        shares :=
    fun shares => (commit_payOut_iff hs hp (Or.inl rfl) hnone).trans covered_consumption_iff
  refine ⟨⟨?_, fun hle => ?_⟩, fun shares s' hcommit t a => ?_⟩
  · rintro ⟨shares, hcommit⟩
    exact ((haccepted shares).mp hcommit).le_spendable hw
  · obtain ⟨shares, hsplit⟩ := Purse.exists_split hw hp.amountPos.le hle
    exact ⟨shares, (haccepted shares).mpr hsplit⟩
  · rw [purse_payOut hs hp (Or.inl rfl) hnone (commit_eq_ok_iff.mp hcommit).1]
    exact ((haccepted shares).mp ⟨s', hcommit⟩).spendable_take hw t a

end Payout

namespace Sample

/-- A debit of 150 of the prepaid account. -/
def debit150 : Posting :=
  ⟨150, 250, 251, prepaid, funding, 150, 2, none⟩

theorem debit150_possible : debit150.Possible (stateAfterSteps twoGrants) := by
  refine ⟨?_, rfl, rfl⟩
  constructor <;> decide +kernel

end Sample

/-- The first grant is used up and the second gives the rest. -/
theorem payout_accepted_sample :
    ∃ s', commit (Sample.stateAfterSteps Sample.twoGrants)
      (Sample.debit150.payOut 2 .consumption [(300, 100), (301, 50)]) = .ok s' := by
  refine (payout_accepted_iff (Sample.runChanges_stateAfter (by rfl)) Sample.debit150_possible
    (Or.inl rfl) rfl).1.mpr ⟨by decide, ?_, rfl, by decide⟩
  unfold Posting.Payable
  decide +kernel

/-- Together they have 200, of which 150 can be spent. -/
theorem spendable_sample :
    ∃ shares s', commit (Sample.stateAfterSteps Sample.twoGrants)
      (Sample.debit150.payOut 2 .consumption shares) = .ok s' :=
  (spendable_iff (Sample.runChanges_stateAfter (by rfl)) Sample.debit150_possible rfl).1.mpr
    (by decide +kernel)

end LuxLedger.Credit
