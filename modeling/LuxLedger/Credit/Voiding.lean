/-
  Credit/Voiding.lean --- giving back what a hold has left.

  A committed HELD hold can always be voided, whatever was captured of it: the release of
  its reservations, the lifecycle guard, the CHECK constraints and the deferred consistency
  check all agree.  Each grant then has free again what was allocated of it and not
  captured.

  Source: `release_grant_hold_reservations`, `guard_hold_lifecycle` (0004).
-/
import LuxLedger.Credit.Reservations
import LuxLedger.Credit.LiveReserve

set_option autoImplicit false

namespace LuxLedger.Credit

open LuxLedger.Schema LuxLedger.Relational

/-- What holds in every committed state. -/
structure Committed (s : Db) : Prop extends Usable s where
  invariants : HoldInvariants s

theorem Committed.commit {s s' : Db} {tx : DbTransaction} (hs : Committed s)
    (h : commit s tx = .ok s') : Committed s' :=
  ⟨commit_usable hs.toUsable h, hs.invariants.commit h⟩

theorem replay_committed {log : List DbTransaction} {s : Db} (h : replay log = .ok s) :
    Committed s :=
  ⟨replay_usable h, replay_holdInvariants h⟩

/-- A hold after it is voided. -/
def voidedHold (now : Timestamp) (hold : Hold) : Hold :=
  { hold with
    state := .voided
    remainingAmountMinor := 0
    appliedAt := none
    voidedAt := some now }

/-- The database transaction that voids a hold. -/
def voidHold (now : Timestamp) (hold : Hold) : DbTransaction where
  now := now
  statements := [.updateHolds [(hold.id, voidedHold now hold)]]

theorem exec_voidHold {now : Timestamp} {s : Db} {hold : Hold} :
    (voidHold now hold).exec s = updateHold s (hold.id, voidedHold now hold) := by
  simp only [DbTransaction.exec, voidHold, Statement.exec, List.foldlM_cons, List.foldlM_nil,
    bind_pure]

section Update

variable {now : Timestamp} {s s' : Db} {hold : Hold} (hs : Committed s) (hhold : hold ∈ s.holds)
include hs hhold

/-- The UPDATE goes through exactly for a HELD hold. -/
theorem exec_voidHold_iff :
    (∃ s', (voidHold now hold).exec s = .ok s') ↔ hold.state = .held := by
  have hfound : s.hold? hold.id = some hold := hold?_of_mem hs.reserve.grounded hhold
  rw [exec_voidHold]
  constructor
  · rintro ⟨s', hupdate⟩
    obtain ⟨old, -, hold?, -, -, htransition, -⟩ := updateHold_ok hupdate
    obtain rfl := Option.some.inj (hfound.symm.trans hold?)
    exact htransition.held
  · intro hheld
    obtain ⟨released, hreleased⟩ :=
      releaseGrantHoldReservations_accepted hs.reserve hhold hheld (voidedHold now hold)
    have hpos : 0 < hold.originalAmountMinor :=
      (hs.invariants.wellFormed.links.holds hold hhold).originalPos
    have hguard : guardHoldUpdate hold (voidedHold now hold) = .ok () := by
      simp [guardHoldUpdate, voidedHold, Hold.identity, hheld, raiseIf, Truth.of]
    have hcheck : checkHold (voidedHold now hold) = .ok () := by
      simp only [checkHold, bind_eq_ok_iff, require_eq_ok_iff, exists_const]
      exact ⟨⟨hpos, le_refl _, hpos.le⟩, Or.inr ⟨Or.inr rfl, rfl⟩⟩
    refine ⟨released.replaceHold (voidedHold now hold), ?_⟩
    simp only [updateHold, hfound, bind_eq_ok_iff]
    exact ⟨(), hguard, released, hreleased, (), hcheck, rfl⟩

omit hs hhold in
/-- The tables after the void, capacity versions left aside. -/
theorem sameTables_voidHold (h : (voidHold now hold).exec s = .ok s') :
    SameTables (s.replaceHold (voidedHold now hold)) s' := by
  rw [exec_voidHold] at h
  obtain ⟨old, released, -, -, -, -, hreleased, -, rfl⟩ := updateHold_ok h
  obtain ⟨-, versions, rfl⟩ := releaseGrantHoldReservations_step hreleased
  exact ⟨versions, rfl⟩

/-- The legs are as they were, and those that are posted do not make up the hold. -/
theorem assertGrantHoldConsistent_voided (hheld : hold.state = .held)
    (h : (voidHold now hold).exec s = .ok s') :
    assertGrantHoldConsistent s' hold.tenantId hold.id = .ok () := by
  have hfound : s.hold? hold.id = some hold := hold?_of_mem hs.reserve.grounded hhold
  have hsame := sameTables_voidHold h
  have htouches : s'.holdTouchesGrants hold.tenantId hold.id =
      s.holdTouchesGrants hold.tenantId hold.id := by
    obtain ⟨versions, rfl⟩ := hsame
    rfl
  cases htouch : s.holdTouchesGrants hold.tenantId hold.id with
  | false =>
      unfold assertGrantHoldConsistent
      rw [htouches, htouch]
      rfl
  | true =>
      obtain ⟨hold', hhold', hagree⟩ := (assertGrantHoldConsistent_eq_ok_iff htouch).mp
        (hs.invariants.consistent hold.tenantId hold.id)
      obtain rfl := Option.some.inj
        (hfound.symm.trans (Option.filter_eq_some_iff.mp hhold').1)
      have hchecked := hs.invariants.wellFormed.links.holds hold hhold
      have hremaining : 0 < hold.remainingAmountMinor := by
        rcases hchecked.stateAmount with ⟨-, hpos⟩ | ⟨hfinal, -⟩
        · exact hpos
        · simp [hheld] at hfinal
      have hposted := hagree.held hheld
      rw [← htouches] at htouch
      refine (assertGrantHoldConsistent_eq_ok_iff htouch).mpr ⟨voidedHold now hold, ?_, ?_⟩
      · obtain ⟨versions, rfl⟩ := hsame
        have hreplaced : (s.replaceHold (voidedHold now hold)).hold? hold.id =
            some (voidedHold now hold) :=
          (@hold?_replaceHold s (voidedHold now hold) hold hfound hold.id).trans (if_pos rfl)
        exact Option.filter_eq_some_iff.mpr ⟨hreplaced, decide_eq_true rfl⟩
      · obtain ⟨versions, rfl⟩ := hsame
        exact
          { total := hagree.total
            balanced := hagree.balanced
            postedBalanced := hagree.postedBalanced
            postedLe := hagree.postedLe
            held := fun hheld => by cases hheld
            applied := fun happlied => by cases happlied
            voided := fun _ => by
              change _ < hold.originalAmountMinor
              change debitTotal (s.postedLegs hold.tenantId hold.id) < _
              omega
            proportional := hagree.proportional }

theorem commit_voidHold_iff :
    (∃ s', commit s (voidHold now hold) = .ok s') ↔ hold.state = .held := by
  constructor
  · rintro ⟨s', hcommit⟩
    exact (exec_voidHold_iff hs hhold).mp ⟨s', (commit_eq_ok_iff.mp hcommit).1⟩
  · intro hheld
    obtain ⟨s', hexec⟩ := (exec_voidHold_iff hs hhold).mpr hheld
    refine ⟨s', commit_eq_ok_iff.mpr ⟨hexec, ?_⟩⟩
    have hconsistent := assertGrantHoldConsistent_voided hs hhold hheld hexec
    intro stmt hstmt
    obtain rfl := List.mem_singleton.mp hstmt
    exact checkEach_eq_ok_iff.mpr fun change hchange => List.mem_singleton.mp hchange ▸ hconsistent

/-- What remains of the grants stays, and what the hold has left of them is free again. -/
theorem freeMinor_voidHold (h : commit s (voidHold now hold) = .ok s') (t g : Uuid) :
    s'.latestMinor t g (·.remainingMinor) = s.latestMinor t g (·.remainingMinor) ∧
      freeMinor s' t g =
        freeMinor s t g + if t = hold.tenantId then uncaptured s g hold else 0 := by
  have hs' : Usable s' := commit_usable hs.toUsable h
  have hheld := (commit_voidHold_iff hs hhold).mp ⟨s', h⟩
  have hsame := sameTables_voidHold (commit_eq_ok_iff.mp h).1
  have hremaining : s'.latestMinor t g (·.remainingMinor) =
      s.latestMinor t g (·.remainingMinor) := by
    have hnew := hs'.reserve.tracks.latestMinor t g .remaining
    have hold' := hs.reserve.tracks.latestMinor t g .remaining
    rw [balance_financial (by decide) (by decide)] at hnew hold'
    obtain ⟨versions, rfl⟩ := hsame
    exact hnew.trans hold'.symm
  have hreleased : releasedTotal s' t g = releasedTotal s t g +
      if t = hold.tenantId then uncaptured s g hold else 0 := by
    rw [releasedTotal_by_hold hs'.reserve.within, releasedTotal_by_hold hs.reserve.within]
    obtain ⟨versions, rfl⟩ := hsame
    have hbefore : decide (hold.tenantId = t ∧ hold.state = .voided) = false := by simp [hheld]
    have hperm := @UniqueKey.filter_replace_perm _ _ _ s.holds hold _
      (fun h => h.tenantId = t ∧ h.state = .voided) hs.reserve.grounded.keys.holds hhold hbefore
      (voidedHold now hold)
    refine (List.Perm.sum_eq (hperm.map (uncaptured s g))).trans ?_
    rw [List.map_append, List.sum_append]
    congr 1
    by_cases htenant : t = hold.tenantId
    · simp [voidedHold, uncaptured, htenant]
    · simp [voidedHold, htenant, Ne.symm htenant]
  have hreserved := hs.reserve.tracks.latestMinor t g .reserved
  have hreserved' := hs'.reserve.tracks.latestMinor t g .reserved
  rw [balance_reserved] at hreserved hreserved'
  have hallocated : allocatedTotal s' t g = allocatedTotal s t g := by
    obtain ⟨versions, rfl⟩ := hsame
    rfl
  have hcaptured : capturedTotal s' t g = capturedTotal s t g := by
    obtain ⟨versions, rfl⟩ := hsame
    rfl
  refine ⟨hremaining, ?_⟩
  simp only [Counter.column] at hreserved hreserved'
  unfold freeMinor activeCreditGrantReservation
  omega

/-- The hold has nothing left, the others what they had. -/
theorem leftMinor_voidHold (h : commit s (voidHold now hold) = .ok s') (id g : Uuid) :
    leftMinor s' id g = if id = hold.id then 0 else leftMinor s id g := by
  have hfound : s.hold? hold.id = some hold := hold?_of_mem hs.reserve.grounded hhold
  have hreplaced : ∀ id, (s.replaceHold (voidedHold now hold)).hold? id =
      if id = hold.id then some (voidedHold now hold) else s.hold? id :=
    @hold?_replaceHold s (voidedHold now hold) hold hfound
  obtain ⟨versions, rfl⟩ := sameTables_voidHold (commit_eq_ok_iff.mp h).1
  split_ifs with hid
  · have hvoided : (s.replaceHold (voidedHold now hold)).hold? id =
        some (voidedHold now hold) := (hreplaced id).trans (if_pos hid)
    have hlookup : Db.hold? { s.replaceHold (voidedHold now hold) with
        creditGrantCapacityVersions := versions } id = some (voidedHold now hold) := hvoided
    rw [leftMinor, hlookup]
    exact if_pos rfl
  · exact leftMinor_congr ((hreplaced id).trans (if_neg hid)) g fun _ _ => rfl

theorem purse_voidHold (h : commit s (voidHold now hold) = .ok s') :
    purse s' = (purse s).release hold.tenantId hold.id := by
  have hheld := (commit_voidHold_iff hs hhold).mp ⟨s', h⟩
  have hstate : hold.state ≠ .voided := by simp [hheld]
  ext t g
  · obtain ⟨versions, rfl⟩ := sameTables_voidHold (commit_eq_ok_iff.mp h).1
    rfl
  · refine (freeMinor_voidHold hs hhold h t g).2.trans ?_
    rw [← leftMinor_of_mem hs.reserve hhold hstate]
    rfl
  · exact leftMinor_voidHold hs hhold h t g

end Update

/-- A committed hold can be voided exactly if it is HELD, and that gives back what it has left. -/
theorem voidable_iff {log : List DbTransaction} {s : Db} (h : replay log = .ok s) {hold : Hold}
    (hhold : hold ∈ s.holds) (now : Timestamp) :
    ((∃ s', commit s (voidHold now hold) = .ok s') ↔ hold.state = .held) ∧
      ∀ s', commit s (voidHold now hold) = .ok s' →
        purse s' = (purse s).release hold.tenantId hold.id ∧ ∀ t g,
          s'.latestMinor t g (·.remainingMinor) = s.latestMinor t g (·.remainingMinor) := by
  have hs : Committed s := replay_committed h
  refine ⟨commit_voidHold_iff hs hhold, fun s' hcommit => ?_⟩
  exact ⟨purse_voidHold hs hhold hcommit, fun t g => (freeMinor_voidHold hs hhold hcommit t g).1⟩

/-- After 40 of the 60 are captured the hold can be voided, and after that not again. -/
theorem voidable_sample :
    (∃ s', commit (Sample.stateAfter (Sample.log.take 4))
      (voidHold 4 { Sample.hold with remainingAmountMinor := 20 }) = .ok s') ∧
    ¬ ∃ s', commit (Sample.stateAfter Sample.log)
      (voidHold 5 (voidedHold 4 { Sample.hold with remainingAmountMinor := 20 })) = .ok s' :=
  ⟨(voidable_iff (Sample.replay_stateAfter (by rfl)) (by decide +kernel) 4).1.mpr rfl,
    fun h => absurd
      ((voidable_iff (Sample.replay_stateAfter (by rfl)) (by decide +kernel) 5).1.mp h)
      (by decide)⟩

end LuxLedger.Credit
