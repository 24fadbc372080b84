/-
  Credit/AssetIdentity.lean --- the asset that a lineage row is in.

  The validator compares the assets of the entry, its transaction and its account once.
  From then on the entry and the transaction are protected, and so is the asset of the
  account; what can still change is the row that the asset id refers to.  The asset guard
  keeps tenant, code and scale of a row and says nothing of its id, and one UPDATE may
  move two ids at once: the first asset to a new id, the second to the id of the first.
-/
import LuxLedger.Credit.EditSteps

set_option autoImplicit false

namespace LuxLedger.Credit

open LuxLedger.Schema LuxLedger.Relational

/-- The asset that the entry of a lineage row refers to. -/
def lineageAsset? (s : Db) (l : CreditGrantEntry) : Option Asset :=
  (s.entry? l.entryId).bind fun e => s.asset? e.assetId

/-- The entry, its transaction and the grant's account all refer to one asset. -/
structure CarriesAsset (s : Db) (l : CreditGrantEntry) (linked : LinkedRows) (a : Asset) :
    Prop where
  rows : Linked s l linked
  grantAccount : s.account? linked.grant.accountId = some linked.account
  entryAsset : linked.entry.assetId = a.id
  transactionAsset : linked.transaction.assetId = a.id
  accountAsset : linked.account.assetId = a.id
  asset : s.asset? a.id = some a

/-- The lineage of an earlier state is still there, in one asset now as it was then, and
that asset has the code and the scale it had. -/
def LineageAssetKept (s s' : Db) : Prop :=
  ∀ l ∈ s.creditGrantEntries, l ∈ s'.creditGrantEntries ∧
    ∃ linked a linked' a', CarriesAsset s l linked a ∧ CarriesAsset s' l linked' a' ∧
      a'.code = a.code ∧ a'.scale = a.scale

/-- The asset is one that some lineage is in. -/
def InLineage (s : Db) (a : Asset) : Prop :=
  ∃ l ∈ s.creditGrantEntries, lineageAsset? s l = some a

/-- An UPDATE of assets leaves the ids of those that lineage is in. -/
def KeepsAssetIds (s : Db) (step : Timestamp × Change) : Prop :=
  match step.2 with
  | .edit (.assets e) => ∀ a ∈ s.assets, InLineage s a →
      ∀ a' ∈ e.outcome Asset.id a, a'.id = a.id
  | _ => True

instance (s : Db) (a : Asset) : Decidable (InLineage s a) :=
  inferInstanceAs (Decidable (∃ l ∈ s.creditGrantEntries, _))

instance (s : Db) : ∀ step : Timestamp × Change, Decidable (KeepsAssetIds s step)
  | (_, .edit (.assets e)) => inferInstanceAs (Decidable (∀ a ∈ s.assets, InLineage s a →
      ∀ a' ∈ e.outcome Asset.id a, a'.id = a.id))
  | (_, .statement _) | (_, .edit (.accounts _)) | (_, .edit (.transactions _))
  | (_, .edit (.entries _)) | (_, .edit (.creditGrants _)) | (_, .edit (.creditGrantEntries _))
  | (_, .edit (.deleteHolds _)) | (_, .edit (.holdEntries _)) | (_, .edit (.allocations _)) =>
      isTrue trivial

section Carries

variable {s s' : Db} {l : CreditGrantEntry} {linked : LinkedRows} {a : Asset}

theorem CarriesAsset.lineageAsset? (h : CarriesAsset s l linked a) :
    lineageAsset? s l = some a := by
  rw [Credit.lineageAsset?, h.rows.entry, Option.bind_some, h.entryAsset]
  exact h.asset

theorem CarriesAsset.unique {linked' : LinkedRows} {a' : Asset} (h : CarriesAsset s l linked a)
    (h' : CarriesAsset s l linked' a') : a' = a :=
  Option.some.inj (h'.lineageAsset?.symm.trans h.lineageAsset?)

/-- A foreign key to an asset finds it, in the same tenant. -/
theorem asset_of_hasAsset {tenantId assetId : Uuid} (h : s.hasAsset tenantId assetId = true) :
    ∃ a, s.asset? assetId = some a ∧ a.id = assetId ∧ a.tenantId = tenantId := by
  unfold Db.hasAsset at h
  cases hfound : s.asset? assetId with
  | none =>
      rw [hfound] at h
      cases h
  | some a =>
      rw [hfound, Option.any_some, decide_eq_true_eq] at h
      exact ⟨a, rfl, key_of_lookup hfound, h⟩

theorem carriesAsset_of_linked (hs : Intact s) (h : Linked s l linked) (hasset : OneAsset linked) :
    ∃ a, CarriesAsset s l linked a ∧ a.tenantId = linked.entry.tenantId := by
  obtain ⟨-, -, hreference⟩ := hs.history.entries _ (mem_of_lookup h.entry)
  obtain ⟨a, hfound, hid, htenant⟩ := asset_of_hasAsset hreference
  refine ⟨a, ⟨h, ?_, hid.symm, ?_, ?_, ?_⟩, htenant⟩
  · rw [h.grantAccount, ← h.entryAccount]
    exact h.account
  · rw [hasset.2, ← hasset.1, hid]
  · rw [← hasset.1, hid]
  · rw [hid]
    exact hfound

/-- In every reachable state a lineage row is in one asset. -/
theorem exists_carriesAsset (hs : Intact s) (hl : l ∈ s.creditGrantEntries) :
    ∃ linked a, CarriesAsset s l linked a ∧ a.tenantId = linked.entry.tenantId := by
  obtain ⟨linked, hlinked, hasset⟩ := hs.history.lineage l hl
  obtain ⟨a, ha, htenant⟩ := carriesAsset_of_linked hs hlinked hasset
  exact ⟨linked, a, ha, htenant⟩

theorem lineageAssetKept_refl (hs : Intact s) : LineageAssetKept s s := by
  intro l hl
  obtain ⟨linked, a, ha, -⟩ := exists_carriesAsset hs hl
  exact ⟨hl, linked, a, linked, a, ha, ha, rfl, rfl⟩

theorem LineageAssetKept.trans {s'' : Db} (h : LineageAssetKept s s')
    (h' : LineageAssetKept s' s'') : LineageAssetKept s s'' := by
  intro l hl
  obtain ⟨hl', linked, a, linked', a', ha, ha', hcode, hscale⟩ := h l hl
  obtain ⟨hl'', linked₁, a₁, linked'', a'', ha₁, ha'', hcode', hscale'⟩ := h' l hl'
  obtain rfl := ha'.unique ha₁
  exact ⟨hl'', linked, a, linked'', a'', ha, ha'', hcode'.trans hcode, hscale'.trans hscale⟩

end Carries

/-! ## One statement -/

section Step

variable {s s' : Db} {now : Timestamp}

/-- Only an edit of assets touches the assets that are there. -/
theorem exec_assets {e : Edit} (h : e.exec s = .ok s') :
    (∃ t, e = .assets t) ∨ (∀ t, e ≠ .assets t) ∧ s'.assets = s.assets := by
  obtain rfl := exec_eq_store h
  cases e with
  | assets e => exact Or.inl ⟨e, rfl⟩
  | _ => exact Or.inr ⟨nofun, rfl⟩

/-- A row of the assets after an edit has tenant, code and scale of the row it was. -/
theorem assetIdentity_of_run {e : TableEdit Uuid Asset} {assets : List Asset}
    (hkey : UniqueKey Asset.id s.assets)
    (hrun : e.run Asset.id updateAsset (fun _ => .ok ()) s.assets = .ok assets) {b b' : Asset}
    (hb : b ∈ s.assets) (hout : e.outcome Asset.id b = some b') :
    b'.tenantId = b.tenantId ∧ b'.code = b.code ∧ b'.scale = b.scale := by
  cases hsel : e.selects Asset.id b with
  | false =>
      rw [TableEdit.outcome_of_not_selects hsel, Option.some.injEq] at hout
      rw [← hout]
      exact ⟨rfl, rfl, rfl⟩
  | true =>
      obtain ⟨table, hchecked⟩ := TableEdit.run_updated hrun hkey hb hsel hout
      simp only [updateAsset, bind_eq_ok_iff] at hchecked
      obtain ⟨⟨⟩, hguard, -⟩ := hchecked
      rw [assetIdentityGuard, raiseIf_eq_ok_iff, ne_eq, Truth.of_eq_true_iff, not_or, not_or,
        not_not, not_not, not_not] at hguard
      exact hguard

/-- What a lineage row is in after an edit: the same rows but for the account, and an asset
under the same id. -/
theorem carriesAsset_edited (hs : Intact s) {e : Edit} (h : e.exec s = .ok s')
    {l : CreditGrantEntry} (hl : l ∈ s.creditGrantEntries) {linked : LinkedRows} {a : Asset}
    (ha : CarriesAsset s l linked a) :
    ∃ linked' a', CarriesAsset s' l linked' a' ∧ a'.id = a.id ∧
      linked'.entry = linked.entry ∧ a'.tenantId = linked.entry.tenantId := by
  have hedited : Edited s s' := exec_edited hs.keys.toKeys h
  have hs' : Intact s' := exec_intact hs h
  have hasset : OneAsset linked :=
    ⟨ha.entryAsset.trans ha.accountAsset.symm, ha.transactionAsset.trans ha.accountAsset.symm⟩
  rcases hedited.references with rfl | hreferences
  · obtain ⟨a', ha', htenant⟩ := carriesAsset_of_linked hs' ha.rows hasset
    exact ⟨linked, a', ha', ha'.entryAsset.symm.trans ha.entryAsset, rfl, htenant⟩
  · obtain ⟨account, -, hlinked', hasset'⟩ :=
      hedited.linked hs'.keys hreferences hl ha.rows hasset
    obtain ⟨a', ha', htenant⟩ := carriesAsset_of_linked hs' hlinked' hasset'
    exact ⟨_, a', ha', ha'.entryAsset.symm.trans ha.entryAsset, rfl, htenant⟩

/-- An edit of assets keeps the code under an id that lineage refers to exactly when it
keeps that id on its row: two assets of a tenant differ in their codes. -/
theorem editAssets_kept_iff (hs : Intact s) {e : TableEdit Uuid Asset}
    (h : (Edit.assets e).exec s = .ok s') :
    LineageAssetKept s s' ↔ KeepsAssetIds s (now, .edit (.assets e)) := by
  obtain ⟨assets, hrun, hstore, -⟩ := editAssets_ok h
  have hkey : UniqueKey Asset.id s.assets := hs.keys.assets
  have hs' : Intact s' := exec_intact hs h
  constructor
  · rintro hkept a hmem ⟨l, hl, hasset⟩ a' hout
    obtain ⟨-, linked, a₀, linked', b', ha, hb', hcode, -⟩ := hkept l hl
    obtain rfl := Option.some.inj (hasset.symm.trans ha.lineageAsset?)
    obtain ⟨linked₁, b₁, hb₁, hid, -, htenant⟩ := carriesAsset_edited hs h hl ha
    obtain rfl := hb'.unique hb₁
    -- the row now under the id was a row of the same tenant and code: the same row
    have hrow : b₁ ∈ e.apply Asset.id s.assets := by
      have hfound := mem_of_lookup hb₁.asset
      rw [hstore] at hfound
      exact hfound
    obtain ⟨b, hb, houtb⟩ := TableEdit.mem_apply.mp hrow
    obtain ⟨hbtenant, hbcode, -⟩ := assetIdentity_of_run hkey hrun hb houtb
    obtain ⟨linked₀, a₁, ha₁, htenant₀⟩ := exists_carriesAsset hs hl
    obtain rfl := ha.unique ha₁
    have hsameEntry : linked₀.entry = linked.entry :=
      Option.some.inj (ha₁.rows.entry.symm.trans ha.rows.entry)
    have hsame : b = a₁ := by
      refine List.inj_on_of_nodup_map hs.keys.assetCodes hb hmem ?_
      rw [Prod.mk.injEq]
      refine ⟨?_, hbcode.symm.trans hcode⟩
      rw [← hbtenant, htenant, htenant₀, hsameEntry]
    rw [hsame] at houtb
    obtain rfl := Option.some.inj ((Option.mem_def.mp hout).symm.trans houtb)
    exact hid
  · intro hkeeps l hl
    have hl' : l ∈ s'.creditGrantEntries := by
      rw [hstore]
      exact hl
    obtain ⟨linked, a, ha, -⟩ := exists_carriesAsset hs hl
    obtain ⟨linked', a', ha', hid, -, -⟩ := carriesAsset_edited hs h hl ha
    refine ⟨hl', linked, a, linked', a', ha, ha', ?_⟩
    have hmem : a ∈ s.assets := mem_of_lookup ha.asset
    have hfound : a' ∈ e.apply Asset.id s.assets := by
      have hrow := mem_of_lookup ha'.asset
      rw [hstore] at hrow
      exact hrow
    obtain ⟨b, hb, houtb⟩ := TableEdit.mem_apply.mp hfound
    obtain ⟨-, hcode, hscale⟩ := assetIdentity_of_run hkey hrun hb houtb
    -- the row with the id is what became of the asset itself
    have hsame : b = a := by
      cases hout : e.outcome Asset.id a with
      | none =>
          obtain rfl := TableEdit.eq_of_outcome_none hout houtb
          exact List.inj_on_of_nodup_map hkey hb hmem hid
      | some a₁ =>
          have hkeptId : a₁.id = a.id := hkeeps a hmem ⟨l, hl, ha.lineageAsset?⟩ a₁ hout
          have hunique : UniqueKey Asset.id (e.apply Asset.id s.assets) := by
            have hassets := hs'.keys.assets
            rw [hstore] at hassets
            exact hassets
          exact eq_of_uniqueKey_filterMap hunique hb hmem houtb hout (hid.trans hkeptId.symm)
    rw [hsame] at hcode hscale
    exact ⟨hcode, hscale⟩

/-- A row step keeps the rows a lineage row is in. -/
theorem RowStep.lineageAssetKept (hs : Intact s) (h : RowStep now s s') :
    LineageAssetKept s s' := by
  intro l hl
  obtain ⟨linked, a, ha, -⟩ := exists_carriesAsset hs hl
  have hext : Extends s s' := h.extends
  refine ⟨hext.creditGrantEntries.subset hl, linked, a, linked, a, ha, ?_, rfl, rfl⟩
  obtain ⟨more, hmore⟩ := h.assets
  refine { ha with
    rows := hext.linked ha.rows
    grantAccount := hext.account? ha.grantAccount
    asset := ?_ }
  rw [Db.asset?, ← hmore]
  exact lookup_append_of_some ha.asset

theorem RowSteps.lineageAssetKept (hs : Intact s) (h : RowSteps now s s') :
    LineageAssetKept s s' := by
  have hboth : Intact s' ∧ LineageAssetKept s s' := by
    induction h with
    | refl => exact ⟨hs, lineageAssetKept_refl hs⟩
    | tail _ hlast ih =>
        exact ⟨hlast.intact ih.1, ih.2.trans (RowStep.lineageAssetKept ih.1 hlast)⟩
  exact hboth.2

/-- An edit that leaves the assets alone keeps the asset of all lineage. -/
theorem lineageAssetKept_of_assets (hs : Intact s) {e : Edit} (h : e.exec s = .ok s')
    (hassets : s'.assets = s.assets) : LineageAssetKept s s' := by
  intro l hl
  obtain ⟨linked, a, ha, -⟩ := exists_carriesAsset hs hl
  obtain ⟨linked', a', ha', hid, -, -⟩ := carriesAsset_edited hs h hl ha
  have hl' : l ∈ s'.creditGrantEntries := by
    rw [(exec_edited hs.keys.toKeys h).creditGrantEntries]
    exact hl
  have hsame : a' = a := by
    have hfound := ha'.asset
    rw [Db.asset?, hassets, hid] at hfound
    exact Option.some.inj (hfound.symm.trans ha.asset)
  rw [hsame] at ha'
  exact ⟨hl', linked, a, linked', a, ha, ha', rfl, rfl⟩

theorem change_kept_iff (hs : Intact s) {step : Timestamp × Change}
    (h : step.2.exec step.1 s = .ok s') : LineageAssetKept s s' ↔ KeepsAssetIds s step := by
  obtain ⟨now, c⟩ := step
  cases c with
  | statement stmt => exact iff_of_true (RowSteps.lineageAssetKept hs (exec_steps h)) trivial
  | edit e =>
      rcases exec_assets h with ⟨t, rfl⟩ | ⟨hother, hassets⟩
      · exact editAssets_kept_iff hs h
      · refine iff_of_true (lineageAssetKept_of_assets hs h hassets) ?_
        cases e with
        | assets t => exact absurd rfl (hother t)
        | _ => trivial

end Step

/-! ## Runs -/

/-- Along a sequence of accepted statements, lineage keeps its one asset, with its code
and scale, exactly when no UPDATE of assets changes the id of an asset that lineage is in. -/
theorem lineageAssetKept_iff {steps : List (Timestamp × Change)} {s : Db}
    (h : runChanges Db.empty steps = .ok s) :
    KeptAlong (fun s step => step.2.exec step.1 s) LineageAssetKept Db.empty steps ↔
      AlongRun (fun s step => step.2.exec step.1 s) KeepsAssetIds Db.empty steps := by
  refine keptAlong_iff ?_ ?_ ?_ h
  · intro before s hbefore
    exact lineageAssetKept_refl (runChanges_intact Intact.empty hbefore)
  · intro s s' s''
    exact LineageAssetKept.trans
  · intro before s step s' hbefore hexec
    exact change_kept_iff (runChanges_intact Intact.empty hbefore) hexec

namespace Sample

/-- The state that a sequence of accepted statements leaves. -/
def stateAfterSteps (steps : List (Timestamp × Change)) : Db :=
  (runChanges Db.empty steps).toOption.getD Db.empty

theorem runChanges_stateAfter {steps : List (Timestamp × Change)}
    (h : (runChanges Db.empty steps).toBool = true) :
    runChanges Db.empty steps = .ok (stateAfterSteps steps) :=
  eq_ok_getD h Db.empty

/-- A grant is issued in USD, and there is a second asset, EUR. -/
def twoAssets : List (Timestamp × Change) :=
  (accounts ++ issuance 0 none ++ [Statement.insertAssets [⟨2, 1, "EUR", 2⟩]]).map
    fun stmt => (1, .statement stmt)

/-- EUR moves to a new id. -/
def renameEuro : Timestamp × Change :=
  (2, .edit (.assets (.update [(2, ⟨4, 1, "EUR", 2⟩)] (by decide))))

/-- USD moves to a new id and EUR to the id of USD, in one UPDATE. -/
def swapAssets : Timestamp × Change :=
  (2, .edit (.assets (.update [(1, ⟨3, 1, "USD", 2⟩), (2, ⟨1, 1, "EUR", 2⟩)] (by decide))))

end Sample

/-- The id of an asset that no lineage is in may change. -/
theorem lineageAssetKept_iff_sample :
    KeptAlong (fun s step => step.2.exec step.1 s) LineageAssetKept Db.empty
      (Sample.twoAssets ++ [Sample.renameEuro]) := by
  refine (lineageAssetKept_iff (Sample.runChanges_stateAfter (by rfl))).mpr ?_
  decide +kernel

/-- The swap is accepted, and the grant that was issued in USD is then in EUR. -/
theorem swap_changes_code :
    (runChanges Db.empty (Sample.twoAssets ++ [Sample.swapAssets])).toBool = true ∧
      ¬ KeptAlong (fun s step => step.2.exec step.1 s) LineageAssetKept Db.empty
        (Sample.twoAssets ++ [Sample.swapAssets]) := by
  refine ⟨by rfl, fun hkept => ?_⟩
  have hrun : runChanges Db.empty (Sample.twoAssets ++ [Sample.swapAssets]) =
      .ok (Sample.stateAfterSteps (Sample.twoAssets ++ [Sample.swapAssets])) :=
    Sample.runChanges_stateAfter (by rfl)
  obtain ⟨mid, hmid, hswap⟩ := run_append_eq_ok_iff.mp hrun
  have hbefore : mid = Sample.stateAfterSteps Sample.twoAssets :=
    Except.ok.inj (hmid.symm.trans (Sample.runChanges_stateAfter (by rfl)))
  obtain ⟨-, linked, a, linked', a', ha, ha', hcode, -⟩ :=
    hkept Sample.twoAssets [Sample.swapAssets] [] (List.append_nil _).symm _ _ hmid hswap
      ⟨1, 5, 10, 300, 200, .issuance, 100⟩ (by rw [hbefore]; decide +kernel)
  have husd : (lineageAsset? mid ⟨1, 5, 10, 300, 200, .issuance, 100⟩).map (·.code) =
      some "USD" := by
    rw [hbefore]
    rfl
  have heur : (lineageAsset? (Sample.stateAfterSteps (Sample.twoAssets ++ [Sample.swapAssets]))
      ⟨1, 5, 10, 300, 200, .issuance, 100⟩).map (·.code) = some "EUR" := by rfl
  rw [ha.lineageAsset?, Option.map_some, Option.some.injEq] at husd
  rw [ha'.lineageAsset?, Option.map_some, Option.some.injEq, hcode, husd] at heur
  exact absurd heur (by decide)

end LuxLedger.Credit
