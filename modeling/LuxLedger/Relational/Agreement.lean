/-
  Relational/Agreement.lean --- two tables that agree on a part of their rows.

  A query whose condition lies inside a part reads the same from two tables that
  agree on it, whatever else each of them holds: the rows it selects, the sum it
  takes, and, under unique keys, the one row it finds by its key.  A view that
  hides rows is one such table, a table without the rows of somebody else another.
-/
import LuxLedger.Relational.Rows

set_option autoImplicit false

namespace LuxLedger.Relational

variable {α β κ : Type}

/-- The two tables have the same rows in a part, in the same order. -/
def AgreeOn (part : α → Bool) (rows rows' : List α) : Prop :=
  rows.filter part = rows'.filter part

namespace AgreeOn

variable {part : α → Bool} {rows rows' : List α}

theorem refl (part : α → Bool) (rows : List α) : AgreeOn part rows rows := Eq.refl _

theorem symm (h : AgreeOn part rows rows') : AgreeOn part rows' rows := Eq.symm h

theorem trans {rows'' : List α} (h : AgreeOn part rows rows') (h' : AgreeOn part rows' rows'') :
    AgreeOn part rows rows'' := Eq.trans h h'

/-- A table agrees with what is left of it when rows outside the part are hidden. -/
theorem of_filter {shown : α → Bool} (hshown : ∀ r, part r = true → shown r = true) :
    AgreeOn part rows (rows.filter shown) := by
  rw [AgreeOn, List.filter_filter]
  refine List.filter_congr fun r _ => ?_
  cases hr : part r with
  | false => rfl
  | true => rw [hshown r hr]; rfl

theorem append {more more' : List α} (h : AgreeOn part rows rows')
    (hmore : AgreeOn part more more') : AgreeOn part (rows ++ more) (rows' ++ more') := by
  rw [AgreeOn, List.filter_append, List.filter_append, h, hmore]

/-- Rows are replaced alike on both sides, each by a row of its own part. -/
theorem map {f : α → α} (h : AgreeOn part rows rows') (hf : ∀ r, part (f r) = part r) :
    AgreeOn part (rows.map f) (rows'.map f) := by
  have hcomp : part ∘ f = part := funext hf
  rw [AgreeOn, List.filter_map, List.filter_map, hcomp, h]

section Queries

variable {p q : α → Bool} (h : AgreeOn part rows rows')
  (hp : ∀ r, p r = true → part r = true) (hq : ∀ r, q r = true → part r = true)
  (hsame : ∀ r, part r = true → p r = q r)
include h hp hq hsame

/-- `SELECT … WHERE …`, where the condition may itself read the database. -/
theorem filter_eq : rows.filter p = rows'.filter q := by
  have hinside : ∀ c : α → Bool, (∀ r, c r = true → part r = true) → ∀ table : List α,
      table.filter c = (table.filter part).filter c := by
    intro c hc table
    rw [List.filter_filter]
    refine List.filter_congr fun r _ => ?_
    cases hr : c r with
    | false => rfl
    | true => rw [hc r hr]; rfl
  rw [hinside p hp rows, hinside q hq rows', h]
  exact List.filter_congr fun r hr => hsame r (List.mem_filter.mp hr).2

theorem sumWhere_eq {f : α → Int} : sumWhere rows p f = sumWhere rows' q f := by
  rw [sumWhere, sumWhere, h.filter_eq hp hq hsame]

theorem find?_eq : rows.find? p = rows'.find? q := by
  rw [← List.head?_filter, ← List.head?_filter, h.filter_eq hp hq hsame]

theorem any_eq : rows.any p = rows'.any q := by
  rw [← List.isSome_find?, ← List.isSome_find?, h.find?_eq hp hq hsame]

end Queries

/-- Under a unique key the row that a key finds meets a condition exactly when the key
finds a row among those that meet it. -/
theorem lookup_filter [DecidableEq κ] {key : α → κ} (hkey : UniqueKey key rows) (k : κ)
    (q : α → Bool) :
    (lookup key rows k).filter q = rows.find? fun r => q r && decide (key r = k) := by
  cases hfound : lookup key rows k with
  | none =>
      refine (List.find?_eq_none.mpr fun r hr => ?_).symm
      simp [lookup_eq_none_iff.mp hfound r hr]
  | some r =>
      obtain ⟨hr, rfl⟩ := (lookup_eq_some_iff hkey).mp hfound
      cases hqr : q r with
      | false =>
          have hnone : rows.find? (fun r' => q r' && decide (key r' = key r)) = none := by
            refine List.find?_eq_none.mpr fun r' hr' hcondition => ?_
            rw [Bool.and_eq_true, decide_eq_true_eq] at hcondition
            have hsame := (lookup_eq_some_iff hkey).mpr ⟨hr', hcondition.2⟩
            rw [hfound] at hsame
            rw [← Option.some.inj hsame, hqr] at hcondition
            exact Bool.false_ne_true hcondition.1
          rw [hnone, Option.filter_some, hqr]
          rfl
      | true =>
          have hsome : rows.find? (fun r' => q r' && decide (key r' = key r)) = some r := by
            cases hfind : rows.find? fun r' => q r' && decide (key r' = key r) with
            | none =>
                have hno := List.find?_eq_none.mp hfind r hr
                rw [hqr, decide_eq_true rfl] at hno
                exact absurd rfl hno
            | some r' =>
                have hcondition := List.find?_some hfind
                rw [Bool.and_eq_true, decide_eq_true_eq] at hcondition
                have hsame := (lookup_eq_some_iff hkey).mpr
                  ⟨List.mem_of_find?_eq_some hfind, hcondition.2⟩
                rw [hfound] at hsame
                exact hsame.symm
          rw [hsome, Option.filter_some, hqr]
          rfl

/-- A row that a key finds is still found when rows without the property are hidden. -/
theorem lookup_filter_of_part [DecidableEq κ] {key : α → κ} {k : κ} {r : α}
    (hfound : lookup key rows k = some r) (hr : part r = true) :
    lookup key (rows.filter part) k = some r := by
  obtain ⟨hkey, before, after, rfl, hbefore⟩ := List.find?_eq_some_iff_append.mp hfound
  rw [List.filter_append, List.filter_cons_of_pos hr]
  refine List.find?_eq_some_iff_append.mpr ⟨hkey, _, _, rfl, fun r' hr' => ?_⟩
  exact hbefore r' (List.mem_filter.mp hr').1

/-- A read through a unique key that keeps to the part. -/
theorem lookup_filter_eq [DecidableEq κ] {key : α → κ} (h : AgreeOn part rows rows')
    (hkey : UniqueKey key rows) (hkey' : UniqueKey key rows') {k : κ} {q : α → Bool}
    (hq : ∀ r, q r = true → part r = true) :
    (lookup key rows k).filter q = (lookup key rows' k).filter q := by
  have hcondition : ∀ r, (q r && decide (key r = k)) = true → part r = true := fun r hr =>
    hq r (Bool.and_eq_true_iff.mp hr).1
  rw [lookup_filter hkey, lookup_filter hkey']
  exact h.find?_eq hcondition hcondition fun _ _ => rfl

end AgreeOn

end LuxLedger.Relational
