/-
  Relational/Update.lean --- UPDATE and DELETE of the rows of a keyed table.

  An UPDATE writes its rows one after the other: a BEFORE trigger sees the old and the
  new row, and a unique index is checked as each row is written, so a chain of renames
  passes in one order and fails in another.  What becomes of a row does not depend on
  that order.  The lemmas say which rows are left alone, where the rows of the table
  after the edit come from, and under which key a row is found again.
-/
import LuxLedger.Relational.Rows
import LuxLedger.Relational.Statement

set_option autoImplicit false

namespace LuxLedger.Relational

variable {ε κ ρ : Type}

/-- An UPDATE or a DELETE: the rows it selects, each by its key, and for an UPDATE the
value each of them takes.  An UPDATE writes a row once. -/
inductive TableEdit (κ ρ : Type) where
  | update (changes : List (κ × ρ)) (once : (changes.map Prod.fst).Nodup)
  | delete (keys : List κ)
  deriving DecidableEq, Repr

section Definitions

variable [DecidableEq κ] (key : ρ → κ)

/-- The value that some changes give a row. -/
def newValue (changes : List (κ × ρ)) (r : ρ) : ρ :=
  ((changes.find? fun c => c.1 = key r).map Prod.snd).getD r

/-- The table once some changes are written. -/
def assign (changes : List (κ × ρ)) (rows : List ρ) : List ρ := rows.map (newValue key changes)

/-- Each change is checked with the row it selects and with the table as it stands once the
change is written; `done` are the changes written so far. -/
def checkChanges (check : List ρ → ρ → ρ → Except ε Unit) (rows : List ρ) :
    List (κ × ρ) → List (κ × ρ) → Except ε Unit
  | _, [] => .ok ()
  | done, c :: rest => do
      match lookup key rows c.1 with
      | none => .ok ()
      | some old => check (assign key (done ++ [c]) rows) old c.2
      checkChanges check rows (done ++ [c]) rest

namespace TableEdit

/-- The row is one of those that the edit writes. -/
def selects : TableEdit κ ρ → ρ → Bool
  | .update changes _, r => decide (key r ∈ changes.map Prod.fst)
  | .delete keys, r => decide (key r ∈ keys)

/-- What becomes of a row: `none` when it is deleted. -/
def outcome : TableEdit κ ρ → ρ → Option ρ
  | .update changes _, r => some (newValue key changes r)
  | .delete keys, r => if key r ∈ keys then none else some r

/-- The table after the edit. -/
def apply (e : TableEdit κ ρ) (rows : List ρ) : List ρ := rows.filterMap (e.outcome key)

/-- The rows that the edit writes, as they were. -/
def taken (e : TableEdit κ ρ) (rows : List ρ) : List ρ := rows.filter (e.selects key)

/-- The rows that the edit writes, as they are afterwards. -/
def given (e : TableEdit κ ρ) (rows : List ρ) : List ρ :=
  (e.taken key rows).filterMap (e.outcome key)

/-- The rows that the edit leaves alone. -/
def untouched (e : TableEdit κ ρ) (rows : List ρ) : List ρ :=
  rows.filter fun r => !e.selects key r

/-- The key that a row has after the edit, by the key it had: what
`ON UPDATE CASCADE` writes into the rows that refer to it. -/
def newKey (e : TableEdit κ ρ) (rows : List ρ) (k : κ) : κ :=
  (((lookup key rows k).bind (e.outcome key)).map key).getD k

/-- Run the edit with the triggers and constraints of its table. -/
def run (onUpdate : List ρ → ρ → ρ → Except ε Unit) (onDelete : ρ → Except ε Unit)
    (rows : List ρ) : TableEdit κ ρ → Except ε (List ρ)
  | .update changes once => do
      checkChanges key onUpdate rows [] changes
      return (TableEdit.update changes once).apply key rows
  | .delete keys => do
      checkEach onDelete ((TableEdit.delete keys).taken key rows)
      return (TableEdit.delete keys).apply key rows

end TableEdit

end Definitions

/-! ## The rows after an edit -/

section Rows

variable [DecidableEq κ] {key : ρ → κ} {e : TableEdit κ ρ} {rows : List ρ} {r r' : ρ}

theorem assign_nil : assign key [] rows = rows := List.map_id rows

theorem newValue_of_not_mem {changes : List (κ × ρ)} (h : key r ∉ changes.map Prod.fst) :
    newValue key changes r = r := by
  have hnone : (changes.find? fun c => c.1 = key r) = none := by
    rw [List.find?_eq_none]
    intro c hc heq
    exact h (List.mem_map.mpr ⟨c, hc, of_decide_eq_true heq⟩)
  rw [newValue, hnone]
  rfl

theorem newValue_of_mem {changes : List (κ × ρ)} (h : key r ∈ changes.map Prod.fst) :
    (key r, newValue key changes r) ∈ changes := by
  unfold newValue
  cases hfind : changes.find? fun c => c.1 = key r with
  | none =>
      obtain ⟨c, hc, hkey⟩ := List.mem_map.mp h
      exact absurd (decide_eq_true hkey) (List.find?_eq_none.mp hfind c hc)
  | some c =>
      have hkey : c.1 = key r := by simpa using List.find?_some hfind
      rw [← hkey]
      exact List.mem_of_find?_eq_some hfind

/-- Two lists that share a part exchange the rests. -/
theorem exchange_of_split {shared xs ys taken given : List ρ} (hxs : (shared ++ given).Perm xs)
    (hys : (shared ++ taken).Perm ys) : (xs ++ taken).Perm (ys ++ given) := by
  refine (hxs.symm.append_right taken).trans (.trans ?_ (hys.append_right given))
  rw [List.append_assoc, List.append_assoc]
  exact List.perm_append_comm.append_left shared

namespace TableEdit

theorem outcome_of_not_selects (h : e.selects key r = false) : e.outcome key r = some r := by
  cases e with
  | update changes once =>
      rw [outcome, newValue_of_not_mem (of_decide_eq_false h)]
  | delete keys => exact if_neg (of_decide_eq_false h)

/-- An edit that deletes a row gives no row a new value. -/
theorem eq_of_outcome_none {q q' : ρ} (hr : e.outcome key r = none)
    (hq : e.outcome key q = some q') : q' = q := by
  cases e with
  | update changes once => cases hr
  | delete keys =>
      rw [outcome] at hq
      split at hq
      · cases hq
      · exact (Option.some.inj hq).symm

theorem mem_apply : r' ∈ e.apply key rows ↔ ∃ r ∈ rows, e.outcome key r = some r' :=
  List.mem_filterMap

theorem mem_apply_of_not_selects (hr : r ∈ rows) (h : e.selects key r = false) :
    r ∈ e.apply key rows :=
  mem_apply.mpr ⟨r, hr, outcome_of_not_selects h⟩

theorem mem_given :
    r' ∈ e.given key rows ↔ ∃ r ∈ rows, e.selects key r = true ∧ e.outcome key r = some r' := by
  simp only [given, taken, List.mem_filterMap, List.mem_filter, and_assoc]

/-- A row of the table after the edit was left alone or is a new value. -/
theorem mem_apply_iff :
    r' ∈ e.apply key rows ↔
      (r' ∈ rows ∧ e.selects key r' = false) ∨ r' ∈ e.given key rows := by
  rw [mem_apply, mem_given]
  constructor
  · intro h
    obtain ⟨r, hr, hout⟩ := h
    cases hsel : e.selects key r with
    | true => exact Or.inr ⟨r, hr, hsel, hout⟩
    | false =>
        rw [outcome_of_not_selects hsel, Option.some.injEq] at hout
        exact Or.inl (hout ▸ ⟨hr, hsel⟩)
  · intro h
    rcases h with ⟨hr, hsel⟩ | ⟨r, hr, -, hout⟩
    · exact ⟨r', hr, outcome_of_not_selects hsel⟩
    · exact ⟨r, hr, hout⟩

theorem untouched_append_taken (e : TableEdit κ ρ) (rows : List ρ) :
    (e.untouched key rows ++ e.taken key rows).Perm rows := by
  have h := List.filter_append_perm (fun r => !e.selects key r) rows
  simp only [Bool.not_not] at h
  exact h

theorem filterMap_untouched (e : TableEdit κ ρ) (rows : List ρ) :
    (e.untouched key rows).filterMap (e.outcome key) = e.untouched key rows := by
  have hsame : ∀ r ∈ e.untouched key rows, e.outcome key r = some r := by
    intro r hr
    have hsel := (List.mem_filter.mp hr).2
    exact outcome_of_not_selects (by simpa using hsel)
  rw [List.filterMap_congr hsame]
  exact List.filterMap_some

/-- The edit replaces the rows it takes by those it gives. -/
theorem untouched_append_given (e : TableEdit κ ρ) (rows : List ρ) :
    (e.untouched key rows ++ e.given key rows).Perm (e.apply key rows) := by
  have hrows : (e.untouched key rows ++ e.taken key rows).Perm rows := untouched_append_taken e rows
  have h := hrows.filterMap (e.outcome key)
  rw [List.filterMap_append, filterMap_untouched] at h
  exact h

/-- The table exchanges the rows taken for those given, whatever is read of them. -/
theorem exchange {α : Type} (e : TableEdit κ ρ) (rows : List ρ) (p : ρ → Bool) (f : ρ → α) :
    (((e.apply key rows).filter p).map f ++ ((e.taken key rows).filter p).map f).Perm
      ((rows.filter p).map f ++ ((e.given key rows).filter p).map f) := by
  have hafter : (e.untouched key rows ++ e.given key rows).Perm (e.apply key rows) :=
    untouched_append_given e rows
  have hbefore : (e.untouched key rows ++ e.taken key rows).Perm rows :=
    untouched_append_taken e rows
  have hrows := ((exchange_of_split hafter hbefore).filter p).map f
  rw [List.filter_append, List.filter_append, List.map_append, List.map_append] at hrows
  exact hrows

end TableEdit

/-- What is exchanged is the same rows exactly when the whole is. -/
theorem perm_exchange_iff {xs ys taken given : List ρ} (h : (xs ++ taken).Perm (ys ++ given)) :
    xs.Perm ys ↔ given.Perm taken := by
  constructor
  · intro hsame
    exact ((List.perm_append_left_iff ys).mp ((hsame.symm.append_right taken).trans h)).symm
  · intro hsame
    exact (List.perm_append_right_iff taken).mp (h.trans (hsame.append_left ys))

end Rows

/-! ## Keys -/

section Keys

variable {key : ρ → κ} {rows : List ρ}

/-- Where an edit leaves keys unique, two rows have one key afterwards only if they are
one row. -/
theorem eq_of_uniqueKey_filterMap {α : Type} {f : α → Option ρ} {xs : List α}
    (hkey : UniqueKey key (xs.filterMap f)) {a b : α} {x y : ρ} (ha : a ∈ xs) (hb : b ∈ xs)
    (hx : f a = some x) (hy : f b = some y) (heq : key x = key y) : a = b := by
  induction xs with
  | nil => cases ha
  | cons first rest ih =>
      have hrest : UniqueKey key (rest.filterMap f) :=
        hkey.sublist (List.Sublist.filterMap f (List.sublist_cons_self first rest))
      -- the row of the head has a key that no later row takes
      have hhead : ∀ c ∈ rest, ∀ z w, f first = some z → f c = some w → key z ≠ key w := by
        intro c hc z w hz hw hzw
        rw [UniqueKey, List.filterMap_cons_some hz, List.map_cons, List.nodup_cons] at hkey
        refine hkey.1 (hzw ▸ List.mem_map_of_mem ?_)
        exact List.mem_filterMap.mpr ⟨c, hc, hw⟩
      rcases List.mem_cons.mp ha with rfl | ha'
      · rcases List.mem_cons.mp hb with rfl | hb'
        · rfl
        · exact absurd heq (hhead b hb' x y hx hy)
      · rcases List.mem_cons.mp hb with rfl | hb'
        · exact absurd heq.symm (hhead a ha' y x hy hx)
        · exact ih hrest ha' hb'

namespace TableEdit

variable [DecidableEq κ] {e : TableEdit κ ρ} {r r' q : ρ} {k : κ}

/-- A row whose key is there afterwards was not deleted: a DELETE adds none. -/
theorem exists_outcome (hkey : UniqueKey key rows) (hr : r ∈ rows) (hq : q ∈ e.apply key rows)
    (heq : key q = key r) : ∃ r', e.outcome key r = some r' := by
  cases hout : e.outcome key r with
  | some r' => exact ⟨r', rfl⟩
  | none =>
      obtain ⟨q₀, hq₀, houtq⟩ := mem_apply.mp hq
      obtain rfl := eq_of_outcome_none hout houtq
      have hsame : q = r := List.inj_on_of_nodup_map hkey hq₀ hr heq
      rw [hsame, hout] at houtq
      cases houtq

/-- No new value takes the key of a row that is left alone. -/
theorem given_key_ne (hkey : UniqueKey key (e.apply key rows)) (hr : r ∈ rows)
    (h : e.selects key r = false) (hq : q ∈ e.given key rows) : key q ≠ key r := by
  intro heq
  obtain ⟨q₀, hq₀, hsel, hout⟩ := mem_given.mp hq
  have hsame : q₀ = r :=
    eq_of_uniqueKey_filterMap hkey hq₀ hr hout (outcome_of_not_selects h) heq
  rw [hsame, h] at hsel
  cases hsel

theorem newKey_of_mem (hkey : UniqueKey key rows) (hr : r ∈ rows)
    (hout : e.outcome key r = some r') : e.newKey key rows (key r) = key r' := by
  rw [newKey, lookup_key hkey hr, Option.bind_some, hout]
  rfl

theorem newKey_of_not_selects (hkey : UniqueKey key rows) (hr : r ∈ rows)
    (h : e.selects key r = false) : e.newKey key rows (key r) = key r :=
  newKey_of_mem hkey hr (outcome_of_not_selects h)

/-- No other key is renamed to that of a row which is left alone. -/
theorem newKey_eq_iff (hkey : UniqueKey key rows) (hkey' : UniqueKey key (e.apply key rows))
    (hr : r ∈ rows) (h : e.selects key r = false) : e.newKey key rows k = key r ↔ k = key r := by
  constructor
  · intro hnew
    cases hfind : (lookup key rows k).bind (e.outcome key) with
    | none =>
        rw [newKey, hfind] at hnew
        exact hnew
    | some q' =>
        rw [newKey, hfind] at hnew
        obtain ⟨q, hq, hout⟩ := Option.bind_eq_some_iff.mp hfind
        have hsame : q = r :=
          eq_of_uniqueKey_filterMap hkey' (mem_of_lookup hq) hr hout (outcome_of_not_selects h) hnew
        rw [← hsame]
        exact (key_of_lookup hq).symm
  · intro hk
    rw [hk]
    exact newKey_of_not_selects hkey hr h

end TableEdit

end Keys

/-! ## What an accepted edit has passed -/

section Run

variable [DecidableEq κ] {key : ρ → κ} {check onUpdate : List ρ → ρ → ρ → Except ε Unit}
  {onDelete : ρ → Except ε Unit} {rows rows' : List ρ}

theorem checkChanges_cons_eq_ok_iff {done rest : List (κ × ρ)} {c : κ × ρ} :
    checkChanges key check rows done (c :: rest) = .ok () ↔
      (∀ old, lookup key rows c.1 = some old →
        check (assign key (done ++ [c]) rows) old c.2 = .ok ()) ∧
        checkChanges key check rows (done ++ [c]) rest = .ok () := by
  rw [checkChanges]
  cases hfind : lookup key rows c.1 with
  | none => simp
  | some old =>
      constructor
      · intro h
        obtain ⟨⟨⟩, hc, hrest⟩ := bind_eq_ok_iff.mp h
        exact ⟨fun old' hold => Option.some.inj hold ▸ hc, hrest⟩
      · intro h
        exact bind_eq_ok_iff.mpr ⟨(), h.1 old rfl, h.2⟩

theorem checkChanges_mem {done todo : List (κ × ρ)} {c : κ × ρ} {old : ρ}
    (h : checkChanges key check rows done todo = .ok ()) (hc : c ∈ todo)
    (hold : lookup key rows c.1 = some old) : ∃ table, check table old c.2 = .ok () := by
  induction todo generalizing done with
  | nil => cases hc
  | cons first rest ih =>
      obtain ⟨hfirst, hrest⟩ := checkChanges_cons_eq_ok_iff.mp h
      rcases List.mem_cons.mp hc with rfl | hmem
      · exact ⟨_, hfirst old hold⟩
      · exact ih hrest hmem

theorem assign_concat_of_not_found {done : List (κ × ρ)} {c : κ × ρ}
    (hnone : lookup key rows c.1 = none) :
    assign key (done ++ [c]) rows = assign key done rows := by
  refine List.map_congr_left fun r hr => ?_
  have hne : c.1 ≠ key r := fun heq => lookup_eq_none_iff.mp hnone r hr heq.symm
  rw [newValue, newValue, List.find?_append]
  simp [hne]

/-- What every check establishes of the table holds once all changes are written. -/
theorem checkChanges_table {P : List ρ → Prop} {done todo : List (κ × ρ)}
    (hcheck : ∀ table old new, check table old new = .ok () → P table)
    (h : checkChanges key check rows done todo = .ok ()) (hdone : P (assign key done rows)) :
    P (assign key (done ++ todo) rows) := by
  induction todo generalizing done with
  | nil =>
      rw [List.append_nil]
      exact hdone
  | cons c rest ih =>
      obtain ⟨hc, hrest⟩ := checkChanges_cons_eq_ok_iff.mp h
      rw [List.append_cons]
      refine ih hrest ?_
      cases hfind : lookup key rows c.1 with
      | none =>
          rw [assign_concat_of_not_found hfind]
          exact hdone
      | some old => exact hcheck _ _ _ (hc old hfind)

namespace TableEdit

variable {e : TableEdit κ ρ} {r new : ρ}

theorem apply_update {changes : List (κ × ρ)} {once : (changes.map Prod.fst).Nodup} :
    (TableEdit.update changes once).apply key rows = assign key changes rows :=
  congrFun (List.filterMap_eq_map (f := newValue key changes)) rows

theorem run_eq_apply (h : e.run key onUpdate onDelete rows = .ok rows') :
    rows' = e.apply key rows := by
  cases e with
  | update changes once =>
      simp only [run, bind_eq_ok_iff, pure_eq_ok_iff] at h
      obtain ⟨⟨⟩, -, hrows⟩ := h
      exact hrows.symm
  | delete keys =>
      simp only [run, bind_eq_ok_iff, pure_eq_ok_iff] at h
      obtain ⟨⟨⟩, -, hrows⟩ := h
      exact hrows.symm

/-- A row that takes a new value was checked with it. -/
theorem run_updated (h : e.run key onUpdate onDelete rows = .ok rows') (hkey : UniqueKey key rows)
    (hr : r ∈ rows) (hsel : e.selects key r = true) (hout : e.outcome key r = some new) :
    ∃ table, onUpdate table r new = .ok () := by
  cases e with
  | update changes once =>
      simp only [run, bind_eq_ok_iff] at h
      obtain ⟨⟨⟩, hchecked, -⟩ := h
      obtain rfl := Option.some.inj hout
      have hmem := newValue_of_mem (of_decide_eq_true hsel)
      exact checkChanges_mem hchecked hmem (lookup_key hkey hr)
  | delete keys =>
      rw [outcome, if_pos (of_decide_eq_true hsel)] at hout
      cases hout

/-- A row that is deleted was checked. -/
theorem run_deleted (h : e.run key onUpdate onDelete rows = .ok rows') (hr : r ∈ rows)
    (hsel : e.selects key r = true) (hout : e.outcome key r = none) : onDelete r = .ok () := by
  cases e with
  | update changes once => cases hout
  | delete keys =>
      simp only [run, bind_eq_ok_iff, checkEach_eq_ok_iff] at h
      obtain ⟨⟨⟩, hchecked, -⟩ := h
      exact hchecked r (List.mem_filter.mpr ⟨hr, hsel⟩)

/-- A row that both triggers refuse to touch is left alone. -/
theorem not_selects_of_run (h : e.run key onUpdate onDelete rows = .ok rows')
    (hkey : UniqueKey key rows) (hr : r ∈ rows)
    (hupdate : ∀ table new, onUpdate table r new ≠ .ok ()) (hdelete : onDelete r ≠ .ok ()) :
    e.selects key r = false := by
  by_contra hsel
  rw [Bool.not_eq_false] at hsel
  cases hout : e.outcome key r with
  | none => exact hdelete (run_deleted h hr hsel hout)
  | some new =>
      obtain ⟨table, hchecked⟩ := run_updated h hkey hr hsel hout
      exact hupdate table new hchecked

/-- What the checks establish of the table, and a DELETE cannot break, holds afterwards. -/
theorem run_table {P : List ρ → Prop} (hsub : ∀ rows rows', rows'.Sublist rows → P rows → P rows')
    (hcheck : ∀ table old new, onUpdate table old new = .ok () → P table)
    (h : e.run key onUpdate onDelete rows = .ok rows') (hrows : P rows) : P rows' := by
  rw [run_eq_apply h]
  cases e with
  | update changes once =>
      simp only [run, bind_eq_ok_iff] at h
      obtain ⟨⟨⟩, hchecked, -⟩ := h
      have hnil : P (assign key [] rows) := by
        rw [assign_nil]
        exact hrows
      rw [apply_update, ← List.nil_append changes]
      exact checkChanges_table hcheck hchecked hnil
  | delete keys =>
      refine hsub rows _ ?_ hrows
      have hfilter : (TableEdit.delete keys : TableEdit κ ρ).apply key rows =
          rows.filter fun r => decide (key r ∉ keys) := by
        rw [apply, ← List.filterMap_eq_filter]
        refine List.filterMap_congr fun r _ => ?_
        simp only [outcome, Option.guard, decide_eq_true_eq]
        split <;> simp_all
      rw [hfilter]
      exact List.filter_sublist

end TableEdit

end Run

end LuxLedger.Relational
