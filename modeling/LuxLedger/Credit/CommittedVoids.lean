/-
  Credit/CommittedVoids.lean --- what committed sessions have voided and released.

  A session works off the tasks of its statements in their order, and it commits once
  none is left.  So a session that has voided a hold has made a round of the release
  loop for each grant of the allocations that it saw.  The holds that are VOIDED among
  the committed ones are those that committed sessions have voided: a hold that has been
  voided is changed no more, for the write of a session that saw it HELD comes too late.
-/
import LuxLedger.Schema.Sessions
import LuxLedger.Credit.CapacityFold

set_option autoImplicit false

namespace LuxLedger.Credit

open LuxLedger.Schema LuxLedger.Relational

/-! ## The releases of voids -/

/-- What a void releases of a grant. -/
structure Release where
  tenantId : Uuid
  grantId : Uuid
  holdId : Uuid
  amountMinor : Int
  deriving DecidableEq, Repr

/-- A round of the loop releases what is allocated to the hold and not consumed. -/
def roundRelease (s : Db) (old : Hold) (grant : CreditGrant) : List Release :=
  let allocated := s.holdAllocated old.tenantId grant.id old.id
  let consumed := s.holdConsumed old.tenantId grant.id old.id
  if consumed < allocated then [⟨old.tenantId, grant.id, old.id, allocated - consumed⟩] else []

theorem mem_roundRelease {s : Db} {old : Hold} {grant : CreditGrant} {r : Release}
    (h : r ∈ roundRelease s old grant) : r.holdId = old.id ∧ r.tenantId = old.tenantId := by
  simp only [roundRelease] at h
  split at h
  · rw [List.mem_singleton.mp h]
    exact ⟨rfl, rfl⟩
  · exact absurd h List.not_mem_nil

/-- What a task has to release, as a session sees the tables. -/
def taskRelease (s : Db) : PendingTask → List Release
  | .release old grant => roundRelease s old grant
  | _ => []

/-- The task that a step does. -/
def doneTask (step : SessionStep) : List PendingTask :=
  match step.action with
  | .runTask => step.before.pending.take 1
  | _ => []

/-- The tasks that the steps of a session do, in their order. -/
def doneTasks (steps : List SessionStep) : List PendingTask := steps.flatMap doneTask

/-- What the steps of a session have to release. -/
def releasesOf (steps : List SessionStep) : List Release :=
  steps.flatMap fun step => (doneTask step).flatMap (taskRelease step.before.view)

theorem releasesOf_concat (steps : List SessionStep) (step : SessionStep) :
    releasesOf (steps ++ [step]) =
      releasesOf steps ++ (doneTask step).flatMap (taskRelease step.before.view) := by
  simp [releasesOf]

/-- What all committed sessions had to release. -/
def committedReleases (c : Committed) : List Release := c.commits.flatMap releasesOf

/-! ## Tasks are done in their order -/

/-- The tasks that a step leaves to be done. -/
def queuedTasks (step : SessionStep) : List PendingTask :=
  match step.action with
  | .insert row => row.after
  | .updateHold id new =>
      match step.before.view.hold? id with
      | none => []
      | some old => releaseTasks step.before.view old new ++ [.holdChange old new]
  | _ => []

/-- What is known of a session from its steps. -/
structure Worked (steps : List SessionStep) (session : Session) : Prop where
  tasks : steps.flatMap queuedTasks = doneTasks steps ++ session.pending
  updates : ∀ seen id new, ⟨seen, .updateHold id new⟩ ∈ steps →
    ∃ old, seen.view.hold? id = some old ∧ HoldTransition old new
  changes : ∀ old new, .holdChange old new ∈ session.writes ↔
    PendingTask.holdChange old new ∈ doneTasks steps
  inserted : ∀ new, .row (.hold new) ∈ session.writes → new.state = .held

section Worked

variable {steps : List SessionStep} {session : Session}

theorem doneTasks_concat (step : SessionStep) :
    doneTasks (steps ++ [step]) = doneTasks steps ++ doneTask step := by
  simp [doneTasks]

theorem worked_begin (committed : Db) (now : Timestamp) :
    Worked [] (Session.begin committed now) := by
  refine ⟨rfl, ?_, fun _ _ => ?_, ?_⟩
  · exact fun _ _ _ hmem => absurd hmem List.not_mem_nil
  · exact ⟨fun hmem => absurd hmem List.not_mem_nil, fun hmem => absurd hmem List.not_mem_nil⟩
  · exact fun _ hmem => absurd hmem List.not_mem_nil

theorem mem_appendedVersions {s s' : Db} {w : Write} (h : w ∈ appendedVersions s s') :
    ∃ v, w = .capacityVersion v := by
  obtain ⟨v, -, rfl⟩ := List.mem_map.mp h
  exact ⟨v, rfl⟩

/-- The tasks write versions, and the change of a hold is written by its task. -/
theorem run_writes {s : Db} {task : PendingTask} {done : List Write}
    (h : task.run s = .ok done) {w : Write} :
    w ∈ done → (∃ v, w = .capacityVersion v) ∨
      ∃ old new, w = .holdChange old new ∧ task = .holdChange old new := by
  intro hw
  cases task with
  | lineage row =>
      simp only [PendingTask.run, bind_eq_ok_iff, pure_eq_ok_iff] at h
      obtain ⟨after, -, rfl⟩ := h
      exact Or.inl (mem_appendedVersions hw)
  | allocation row =>
      simp only [PendingTask.run, bind_eq_ok_iff, pure_eq_ok_iff] at h
      obtain ⟨after, -, rfl⟩ := h
      exact Or.inl (mem_appendedVersions hw)
  | release old grant =>
      simp only [PendingTask.run, bind_eq_ok_iff, pure_eq_ok_iff] at h
      obtain ⟨after, -, rfl⟩ := h
      exact Or.inl (mem_appendedVersions hw)
  | holdChange old new =>
      simp only [PendingTask.run, bind_eq_ok_iff, pure_eq_ok_iff] at h
      obtain ⟨-, -, rfl⟩ := h
      exact Or.inr ⟨old, new, List.mem_singleton.mp hw, rfl⟩

theorem run_holdChange {s : Db} {old new : Hold} {done : List Write}
    (h : PendingTask.run s (.holdChange old new) = .ok done) : done = [.holdChange old new] := by
  simp only [PendingTask.run, bind_eq_ok_iff, pure_eq_ok_iff] at h
  obtain ⟨-, -, rfl⟩ := h
  rfl

/-- A step that does no task. -/
theorem Worked.idle (h : Worked steps session) {action : Action} {session' : Session}
    (hdone : doneTask ⟨session, action⟩ = [])
    (hpending : session'.pending = session.pending ++ queuedTasks ⟨session, action⟩)
    (hupdates : ∀ id new, action = .updateHold id new →
      ∃ old, session.view.hold? id = some old ∧ HoldTransition old new)
    (hchanges : ∀ old new, .holdChange old new ∈ session'.writes ↔
      .holdChange old new ∈ session.writes)
    (hinserted : ∀ new, .row (.hold new) ∈ session'.writes →
      .row (.hold new) ∈ session.writes ∨ new.state = .held) :
    Worked (steps ++ [⟨session, action⟩]) session' := by
  refine ⟨?_, fun seen id new hmem => ?_, fun old new => ?_, fun new hnew => ?_⟩
  · rw [List.flatMap_append, List.flatMap_singleton, h.tasks, doneTasks_concat, hdone, hpending]
    simp
  · rcases List.mem_append.mp hmem with hearlier | hlast
    · exact h.updates seen id new hearlier
    · cases List.mem_singleton.mp hlast
      exact hupdates id new rfl
  · rw [hchanges, h.changes, doneTasks_concat, hdone, List.append_nil]
  · exact (hinserted new hnew).elim (h.inserted new) id

theorem worked_act (h : Worked steps session) {committed : Db} {action : Action}
    {session' : Session} (hact : session.act committed action = .ok session') :
    Worked (steps ++ [⟨session, action⟩]) session' := by
  cases action with
  | insert row =>
      simp only [Session.act, bind_eq_ok_iff, pure_eq_ok_iff] at hact
      obtain ⟨⟨⟩, hcheck, rfl⟩ := hact
      refine h.idle rfl rfl (fun _ _ hother => by cases hother) (fun old new => by simp) ?_
      intro new hnew
      rcases List.mem_append.mp hnew with hold | hlast
      · exact Or.inl hold
      · cases List.mem_singleton.mp hlast
        exact Or.inr (checkHoldInsert_held hcheck)
  | updateHold id new =>
      simp only [Session.act] at hact
      cases hfound : session.view.hold? id with
      | none =>
          rw [hfound] at hact
          cases hact
      | some old =>
          simp only [hfound, bind_eq_ok_iff, pure_eq_ok_iff] at hact
          obtain ⟨⟨⟩, hguard, rfl⟩ := hact
          refine h.idle rfl ?_ ?_ (fun _ _ => Iff.rfl) (fun _ hnew => Or.inl hnew)
          · simp [queuedTasks, hfound]
          · intro id' new' hsame
            cases hsame
            exact ⟨old, hfound, guardHoldUpdate_ok hguard⟩
  | refresh =>
      rw [← Except.ok.inj hact]
      exact h.idle rfl (List.append_nil _).symm (fun _ _ hother => by cases hother)
        (fun _ _ => Iff.rfl) (fun _ hnew => Or.inl hnew)
  | runTask =>
      simp only [Session.act] at hact
      cases hpending : session.pending with
      | nil =>
          rw [hpending] at hact
          rw [← Except.ok.inj hact]
          refine h.idle ?_ (List.append_nil _).symm (fun _ _ hother => by cases hother)
            (fun _ _ => Iff.rfl) (fun _ hnew => Or.inl hnew)
          rw [doneTask, hpending, List.take_nil]
      | cons task rest =>
          simp only [hpending, bind_eq_ok_iff, pure_eq_ok_iff] at hact
          obtain ⟨done, hdone, rfl⟩ := hact
          have htask : doneTask ⟨session, .runTask⟩ = [task] := by
            rw [doneTask, hpending, List.take_succ_cons, List.take_zero]
          refine ⟨?_, fun seen id new hmem => ?_, fun old new => ?_, fun new hnew => ?_⟩
          · rw [List.flatMap_append, List.flatMap_singleton, h.tasks, doneTasks_concat, htask,
              hpending, queuedTasks]
            simp
          · rcases List.mem_append.mp hmem with hearlier | hlast
            · exact h.updates seen id new hearlier
            · cases List.mem_singleton.mp hlast
          · rw [doneTasks_concat, htask, List.mem_append, List.mem_append, h.changes]
            refine or_congr_right ⟨fun hnew => ?_, fun hnew => ?_⟩
            · rcases run_writes hdone hnew with ⟨v, hv⟩ | ⟨old', new', hw, rfl⟩
              · cases hv
              · cases hw
                exact List.mem_singleton_self _
            · rw [← List.mem_singleton.mp hnew] at hdone
              rw [run_holdChange hdone]
              exact List.mem_singleton_self _
          · rcases List.mem_append.mp hnew with hold | hlast
            · exact h.inserted new hold
            · rcases run_writes hdone hlast with ⟨v, hv⟩ | ⟨old', new', hw, -⟩
              · cases hv
              · cases hw

end Worked

/-! ## Voids -/

/-- Among its steps a session voids a hold that it saw HELD: then it does what was left to
do before, a round for each grant of the allocations that it saw, in the order of the
loop, and the write of the hold. -/
def VoidedBy (steps : List SessionStep) (h : Hold) : Prop :=
  ∃ before seen after old earlier rest,
    steps = before ++ ⟨seen, .updateHold h.id h⟩ :: after ∧
    seen.view.hold? h.id = some old ∧ old.state = .held ∧
    doneTasks after = earlier ++
      (seen.view.grantsOfHold h.tenantId h.id).map (.release old) ++ .holdChange old h :: rest

section Voided

variable {r : Recording Session Action} {h old new : Hold}

theorem transition_id (ht : HoldTransition old new) : new.id = old.id :=
  congrArg HoldIdentity.id ht.identity

theorem transition_tenantId (ht : HoldTransition old new) : new.tenantId = old.tenantId :=
  congrArg HoldIdentity.tenantId ht.identity

/-- The rounds of a void: one for each grant of the allocations. -/
theorem releaseTasks_voided (s : Db) (hvoided : new.state = .voided) :
    releaseTasks s old new = (s.grantsOfHold old.tenantId old.id).map (.release old) := by
  unfold releaseTasks
  split
  · rename_i hnone
    have hempty : s.grantsOfHold old.tenantId old.id = [] := by
      rw [← List.length_eq_zero_iff, Db.grantsOfHold, List.length_insertionSort,
        List.length_eq_zero_iff, List.filter_eq_nil_iff]
      intro g _ hg
      obtain ⟨-, hsome⟩ := of_decide_eq_true hg
      obtain ⟨a, ha, hallocation⟩ := List.any_eq_true.mp hsome
      obtain ⟨htenant, -, hheld⟩ := of_decide_eq_true hallocation
      exact hnone (List.any_eq_true.mpr ⟨a, ha, decide_eq_true ⟨htenant, hheld⟩⟩)
    rw [hempty, List.map_nil]
  · exact if_neg (not_not.mpr hvoided)

theorem mem_releaseTasks {s : Db} {task : PendingTask} (hmem : task ∈ releaseTasks s old new) :
    new.state = .voided ∧ ∃ grant, task = .release old grant := by
  unfold releaseTasks at hmem
  split at hmem
  · exact absurd hmem List.not_mem_nil
  · split at hmem
    · exact absurd hmem List.not_mem_nil
    · rename_i hvoided
      obtain ⟨grant, -, rfl⟩ := List.mem_map.mp hmem
      exact ⟨not_not.mp hvoided, grant, rfl⟩

/-- Once no task is left, what was done is what the steps had left to be done. -/
theorem queued_of_done (hr : AllAlong Worked r) (hfinished : r.state.pending = [])
    {task : PendingTask} (htask : task ∈ doneTasks r.steps) :
    ∃ step ∈ r.steps, task ∈ queuedTasks step := by
  have htasks := hr.now.tasks
  rw [hfinished, List.append_nil] at htasks
  rw [← htasks] at htask
  exact List.mem_flatMap.mp htask

/-- The triggers of a row are no tasks of a hold. -/
theorem release_not_mem_after {row : NewRow} {grant : CreditGrant} :
    .release old grant ∉ row.after := by
  cases row <;> simp [NewRow.after]

theorem holdChange_not_mem_after {row : NewRow} : .holdChange old new ∉ row.after := by
  cases row <;> simp [NewRow.after]

/-- A change of a hold is written for an update of it. -/
theorem update_of_change (hr : AllAlong Worked r) (hfinished : r.state.pending = [])
    (htask : .holdChange old new ∈ doneTasks r.steps) :
    ∃ seen id, ⟨seen, .updateHold id new⟩ ∈ r.steps ∧ seen.view.hold? id = some old ∧
      HoldTransition old new := by
  obtain ⟨⟨seen, action⟩, hstep, hqueued⟩ := queued_of_done hr hfinished htask
  cases action with
  | insert row => exact absurd hqueued holdChange_not_mem_after
  | runTask => exact absurd hqueued List.not_mem_nil
  | refresh => exact absurd hqueued List.not_mem_nil
  | updateHold id changed =>
      obtain ⟨found, hfound, ht⟩ := hr.now.updates seen id changed hstep
      simp only [queuedTasks, hfound, List.mem_append, List.mem_singleton] at hqueued
      rcases hqueued with hrelease | hchange
      · obtain ⟨-, grant, hgrant⟩ := mem_releaseTasks hrelease
        cases hgrant
      · cases hchange
        exact ⟨seen, id, hstep, hfound, ht⟩

/-- A round of the loop is made for an update to VOIDED. -/
theorem update_of_round (hr : AllAlong Worked r) (hfinished : r.state.pending = [])
    {grant : CreditGrant} (htask : .release old grant ∈ doneTasks r.steps) :
    ∃ seen id new, ⟨seen, .updateHold id new⟩ ∈ r.steps ∧ seen.view.hold? id = some old ∧
      HoldTransition old new ∧ new.state = .voided := by
  obtain ⟨⟨seen, action⟩, hstep, hqueued⟩ := queued_of_done hr hfinished htask
  cases action with
  | insert row => exact absurd hqueued release_not_mem_after
  | runTask => exact absurd hqueued List.not_mem_nil
  | refresh => exact absurd hqueued List.not_mem_nil
  | updateHold id new =>
      obtain ⟨found, hfound, ht⟩ := hr.now.updates seen id new hstep
      simp only [queuedTasks, hfound, List.mem_append, List.mem_singleton] at hqueued
      rcases hqueued with hrelease | hchange
      · obtain ⟨hvoided, grant', hgrant⟩ := mem_releaseTasks hrelease
        cases hgrant
        exact ⟨seen, id, new, hstep, hfound, ht, hvoided⟩
      · cases hchange

/-- The tasks that are done after a statement are those that it leaves. -/
theorem doneTasks_after (hr : AllAlong Worked r) (hfinished : r.state.pending = [])
    {before after : List SessionStep} {seen : Session} {id : Uuid}
    (hsteps : r.steps = before ++ ⟨seen, .updateHold id new⟩ :: after)
    (hfound : seen.view.hold? id = some old) :
    doneTasks after = seen.pending ++ releaseTasks seen.view old new ++
      .holdChange old new :: after.flatMap queuedTasks := by
  have htasks := hr.now.tasks
  have hearlier := (hr.earlier before _ after hsteps).tasks
  have hstep : queuedTasks ⟨seen, .updateHold id new⟩ =
      releaseTasks seen.view old new ++ [.holdChange old new] := by
    simp [queuedTasks, hfound]
  have hdone : doneTasks r.steps = doneTasks before ++ doneTasks after := by
    simp [hsteps, doneTasks, doneTask]
  rw [hfinished, List.append_nil, hdone, hsteps, List.flatMap_append, List.flatMap_cons, hearlier,
    hstep, List.append_assoc] at htasks
  rw [← List.append_cancel_left htasks]
  simp

/-- A session that has done with an update to VOIDED has voided the hold. -/
theorem voidedBy_of_step (hr : AllAlong Worked r) (hfinished : r.state.pending = [])
    {seen : Session} {id : Uuid} (hstep : ⟨seen, .updateHold id h⟩ ∈ r.steps)
    (hfound : seen.view.hold? id = some old) (ht : HoldTransition old h)
    (hvoided : h.state = .voided) : VoidedBy r.steps h := by
  obtain ⟨before, after, hsteps⟩ := List.append_of_mem hstep
  have hid : id = h.id := (key_of_lookup hfound).symm.trans (transition_id ht).symm
  subst hid
  refine ⟨before, seen, after, old, seen.pending, after.flatMap queuedTasks, hsteps, hfound,
    ht.held, ?_⟩
  rw [doneTasks_after hr hfinished hsteps hfound, releaseTasks_voided _ hvoided,
    transition_id ht, transition_tenantId ht]

/-- A session that has voided a hold has written it. -/
theorem VoidedBy.written (hr : AllAlong Worked r) (hv : VoidedBy r.steps h) :
    ∃ old, .holdChange old h ∈ r.state.writes := by
  obtain ⟨before, seen, after, old, earlier, rest, hsteps, -, -, hdone⟩ := hv
  refine ⟨old, (hr.now.changes old h).mpr ?_⟩
  have hafter : .holdChange old h ∈ doneTasks after := by
    rw [hdone]
    simp
  simp only [hsteps, doneTasks, List.flatMap_append, List.flatMap_cons, List.mem_append]
  exact Or.inr (Or.inr hafter)

end Voided

/-! ## The committed holds -/

section Committed

variable {s s' : Db} {writes : List Write} {h : Hold}

theorem apply_eq_ok_iff {w : Write} : s.apply w = .ok s' ↔ w.UpToDate s ∧ s.put w = s' := by
  simp only [Db.apply, bind_eq_ok_iff, require_eq_ok_iff, pure_eq_ok_iff, exists_const]

theorem foldlM_apply (h : writes.foldlM Db.apply s = .ok s') : s' = s.place writes := by
  induction writes generalizing s with
  | nil => exact (foldlM_nil_eq_ok_iff.mp h).symm
  | cons w rest ih =>
      obtain ⟨mid, hmid, hrest⟩ := foldlM_cons_eq_ok_iff.mp h
      obtain ⟨-, rfl⟩ := apply_eq_ok_iff.mp hmid
      exact ih hrest

/-- The holds after a write. -/
theorem hold_of_put {w : Write} (hmem : h ∈ (s.put w).holds) :
    h ∈ s.holds ∨ w = .row (.hold h) ∨ ∃ old, w = .holdChange old h := by
  cases w with
  | row new =>
      cases new with
      | hold row =>
          rcases List.mem_append.mp hmem with hold | hnew
          · exact Or.inl hold
          · exact Or.inr (Or.inl (by rw [List.mem_singleton.mp hnew]))
      | _ => exact Or.inl hmem
  | holdChange old new =>
      obtain ⟨row, hrow, hchanged⟩ := List.mem_map.mp hmem
      split at hchanged
      · have hnew : new = h := hchanged
        exact Or.inr (Or.inr ⟨old, by rw [hnew]⟩)
      · exact Or.inl (hchanged ▸ hrow)
  | capacityVersion row => exact Or.inl hmem

theorem hold_of_place (hmem : h ∈ (s.place writes).holds) :
    h ∈ s.holds ∨ .row (.hold h) ∈ writes ∨ ∃ old, .holdChange old h ∈ writes := by
  unfold Db.place at hmem
  induction writes generalizing s with
  | nil => exact Or.inl hmem
  | cons w rest ih =>
      rcases ih hmem with hput | hrow | ⟨old, hchange⟩
      · rcases hold_of_put hput with hold | rfl | ⟨old, rfl⟩
        · exact Or.inl hold
        · exact Or.inr (Or.inl List.mem_cons_self)
        · exact Or.inr (Or.inr ⟨old, List.mem_cons_self⟩)
      · exact Or.inr (Or.inl (List.mem_cons_of_mem _ hrow))
      · exact Or.inr (Or.inr ⟨old, List.mem_cons_of_mem _ hchange⟩)

/-- The change of a hold that is up to date. -/
theorem hold?_put_change {old new : Hold} (hfound : s.hold? old.id = some old)
    (ht : HoldTransition old new) (id : Uuid) :
    (s.put (.holdChange old new)).hold? id = if id = new.id then some new else s.hold? id :=
  hold?_replaceHold ((transition_id ht).symm ▸ hfound) id

/-- A write leaves a hold that is VOIDED: an update that saw it HELD comes too late. -/
theorem hold?_put_voided {w : Write} (hvoided : h.state = .voided)
    (hfound : s.hold? h.id = some h) (hcurrent : w.UpToDate s)
    (ht : ∀ old new, w = .holdChange old new → HoldTransition old new) :
    (s.put w).hold? h.id = some h := by
  cases w with
  | row new =>
      cases new with
      | hold row => exact lookup_append_of_some hfound
      | _ => exact hfound
  | capacityVersion row => exact hfound
  | holdChange old new =>
      have htransition := ht old new rfl
      rw [hold?_put_change hcurrent htransition, if_neg, hfound]
      intro hid
      have hsame : some old = some h := by
        rw [← hfound, hid, transition_id htransition]
        exact hcurrent.symm
      have hheld := htransition.held
      rw [Option.some.inj hsame, hvoided] at hheld
      cases hheld

theorem foldlM_apply_voided (hvoided : h.state = .voided) (hfound : s.hold? h.id = some h)
    (ht : ∀ old new, .holdChange old new ∈ writes → HoldTransition old new)
    (happlied : writes.foldlM Db.apply s = .ok s') : s'.hold? h.id = some h := by
  refine foldlM_preserves (P := fun s => s.hold? h.id = some h) ?_ happlied hfound
  intro w hw s₁ s₂ hstep hbefore
  obtain ⟨hcurrent, rfl⟩ := apply_eq_ok_iff.mp hstep
  exact hold?_put_voided hvoided hbefore hcurrent fun old new heq => ht old new (heq ▸ hw)

/-- The change of a hold to VOIDED stays. -/
theorem foldlM_apply_change (hvoided : h.state = .voided) {old : Hold}
    (hmem : .holdChange old h ∈ writes)
    (ht : ∀ old new, .holdChange old new ∈ writes → HoldTransition old new)
    (happlied : writes.foldlM Db.apply s = .ok s') : s'.hold? h.id = some h := by
  obtain ⟨before, after, s₁, s₂, hwrites, -, hstep, hafter⟩ := foldlM_mem happlied hmem
  obtain ⟨hcurrent, rfl⟩ := apply_eq_ok_iff.mp hstep
  have hchanged := (hold?_put_change hcurrent (ht old h hmem) h.id).trans (if_pos rfl)
  refine foldlM_apply_voided hvoided hchanged (fun old new hlater => ht old new ?_) hafter
  rw [hwrites]
  exact List.mem_append_right _ (List.mem_cons_of_mem _ hlater)

end Committed

/-- The VOIDED holds among the committed ones are those that committed sessions voided, and
what these sessions release they release for them. -/
structure VoidsOk (c : Committed) : Prop where
  keys : UniqueKey Hold.id c.shared.holds
  voided : ∀ h ∈ c.shared.holds, h.state = .voided → ∃ steps ∈ c.commits, VoidedBy steps h
  kept : ∀ steps ∈ c.commits, ∀ h, h.state = .voided → VoidedBy steps h →
    c.shared.hold? h.id = some h
  released : ∀ steps ∈ c.commits, ∀ r ∈ releasesOf steps, ∃ h, h.state = .voided ∧
    h.id = r.holdId ∧ h.tenantId = r.tenantId ∧ VoidedBy steps h
  releasedOnce : UniqueKey (fun v : CreditGrantCapacityVersion => (v.grantId, v.sourceHoldId))
    (c.shared.creditGrantCapacityVersions.filter fun v => v.sourceHoldId.isSome)

section Commit

variable {c : Committed} {r : Recording Session Action} {db : Db}

/-- The unique indexes that the voids rely on. -/
theorem checkUniqueIndexes_voids {s : Db} (h : checkUniqueIndexes s = .ok ()) :
    UniqueKey Hold.id s.holds ∧
      UniqueKey (fun v : CreditGrantCapacityVersion => (v.grantId, v.sourceHoldId))
        (s.creditGrantCapacityVersions.filter fun v => v.sourceHoldId.isSome) := by
  simp only [checkUniqueIndexes, bind_eq_ok_iff, require_eq_ok_iff, exists_const] at h
  obtain ⟨-, -, -, -, -, -, -, -, -, -, -, hholds, -, -, -, -, -, -, -, hreleased⟩ := h
  exact ⟨hholds, hreleased⟩

theorem voidsOk_commit (hc : VoidsOk c) (hr : AllAlong Worked r)
    (h : r.state.commit c.shared = .ok db) : VoidsOk ⟨db, c.commits ++ [r.steps]⟩ := by
  simp only [Session.commit, bind_eq_ok_iff, require_eq_ok_iff, pure_eq_ok_iff,
    exists_const] at h
  obtain ⟨hfinished, ⟨⟩, -, ⟨⟩, -, db, happlied, ⟨⟩, hindexes, rfl⟩ := h
  obtain ⟨hholds, hreleased⟩ := checkUniqueIndexes_voids hindexes
  have ht : ∀ old new, .holdChange old new ∈ r.state.writes → HoldTransition old new := by
    intro old new hmem
    obtain ⟨seen, id, -, -, ht⟩ := update_of_change hr hfinished ((hr.now.changes old new).mp hmem)
    exact ht
  refine ⟨hholds, fun h hmem hvoided => ?_, fun steps hsteps h hvoided hv => ?_,
    fun steps hsteps release hrelease => ?_, hreleased⟩
  · have hplaced : h ∈ (c.shared.place r.state.writes).holds := foldlM_apply happlied ▸ hmem
    rcases hold_of_place hplaced with hold | hrow | ⟨old, hchange⟩
    · obtain ⟨steps, hsteps, hv⟩ := hc.voided h hold hvoided
      exact ⟨steps, List.mem_append_left _ hsteps, hv⟩
    · have hheld := hr.now.inserted h hrow
      rw [hvoided] at hheld
      cases hheld
    · obtain ⟨seen, id, hstep, hfound, htransition⟩ :=
        update_of_change hr hfinished ((hr.now.changes old h).mp hchange)
      exact ⟨r.steps, List.mem_append_right _ (List.mem_singleton_self _),
        voidedBy_of_step hr hfinished hstep hfound htransition hvoided⟩
  · rcases List.mem_append.mp hsteps with hearlier | hlast
    · exact foldlM_apply_voided hvoided (hc.kept steps hearlier h hvoided hv) ht happlied
    · rw [List.mem_singleton.mp hlast] at hv
      obtain ⟨old, hchange⟩ := hv.written hr
      exact foldlM_apply_change hvoided hchange ht happlied
  · rcases List.mem_append.mp hsteps with hearlier | hlast
    · exact hc.released steps hearlier release hrelease
    · rw [List.mem_singleton.mp hlast] at hrelease ⊢
      obtain ⟨step, hstep, hdone⟩ := List.mem_flatMap.mp hrelease
      obtain ⟨task, htask, hround⟩ := List.mem_flatMap.mp hdone
      have hmem : task ∈ doneTasks r.steps := List.mem_flatMap.mpr ⟨step, hstep, htask⟩
      cases task with
      | release old grant =>
          obtain ⟨seen, id, new, hupdate, hfound, htransition, hvoided⟩ :=
            update_of_round hr hfinished hmem
          obtain ⟨hid, htenant⟩ := mem_roundRelease hround
          exact ⟨new, hvoided, (transition_id htransition).trans hid.symm,
            (transition_tenantId htransition).trans htenant.symm,
            voidedBy_of_step hr hfinished hupdate hfound htransition hvoided⟩
      | _ => exact absurd hround List.not_mem_nil

/-- In every interleaving the committed voids are as they should be. -/
theorem interleave_voidsOk {schedule : List (SessionEvent Timestamp Action)}
    {s : Sessions Committed (Recording Session Action)} (h : interleave schedule = .ok s) :
    VoidsOk s.shared := by
  refine sessionRules.recorded_ok worked_begin (fun _ _ _ _ _ hs hact => worked_act hs hact)
    (fun _ _ _ hc hr hcommit => voidsOk_commit hc hr hcommit) ?_ h
  refine ⟨List.nodup_nil, ?_, ?_, ?_, List.nodup_nil⟩
  · exact fun _ hmem => absurd hmem List.not_mem_nil
  · exact fun _ hmem => absurd hmem List.not_mem_nil
  · exact fun _ hmem => absurd hmem List.not_mem_nil

end Commit

/-- The releases of a grant as keys of the unique index. -/
theorem map_sourceHoldId (versions : List CreditGrantCapacityVersion) (t g : Uuid) :
    ((versions.filter fun v => v.tenantId = t ∧ v.grantId = g).filterMap (·.sourceHoldId)).map
        (fun id => (g, some id)) =
      ((versions.filter fun v => v.sourceHoldId.isSome).filter fun v =>
        v.tenantId = t ∧ v.grantId = g).map fun v => (v.grantId, v.sourceHoldId) := by
  induction versions with
  | nil => rfl
  | cons v rest ih =>
      by_cases hgrant : v.tenantId = t ∧ v.grantId = g
      · cases hsource : v.sourceHoldId with
        | none => simpa [hgrant, hsource] using ih
        | some id => simpa [hgrant, hsource] using ih
      · cases hsource : v.sourceHoldId with
        | none => simpa [hgrant, hsource] using ih
        | some id => simpa [hgrant, hsource] using ih

/-- A grant has one version for each hold that it is released for. -/
theorem VoidsOk.releasedOnce_grant {c : Committed} (hc : VoidsOk c) (t g : Uuid) :
    ((c.shared.versionsOf t g).filterMap (·.sourceHoldId)).Nodup := by
  refine List.Nodup.of_map (fun id => (g, some id)) ?_
  rw [Db.versionsOf, map_sourceHoldId]
  exact (List.filter_sublist.map _).nodup hc.releasedOnce

end LuxLedger.Credit
