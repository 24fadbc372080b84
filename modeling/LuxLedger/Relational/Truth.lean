/-
  Relational/Truth.lean --- the three truth values of an SQL condition.

  A comparison with a NULL operand is UNKNOWN, and a conditional branch is taken
  only when its condition is TRUE.  The connectives below are Kleene's strong
  tables; the lemmas say when a list of conditions is TRUE or FALSE, so that a
  guard written over nullable columns can be read off conjunct by conjunct.
-/
import Mathlib.Data.Option.Basic

set_option autoImplicit false

namespace LuxLedger.Relational

/-- An SQL truth value: `none` is UNKNOWN. -/
abbrev Truth : Type := Option Bool

namespace Truth

/-- The truth value of a condition over columns that are never NULL. -/
def of (p : Prop) [Decidable p] : Truth := some (decide p)

/-- `NOT t`. -/
def not : Truth → Truth
  | some b => some (!b)
  | none => none

/-- `t AND u`. -/
def and : Truth → Truth → Truth
  | some false, _ => some false
  | _, some false => some false
  | some true, some true => some true
  | _, _ => none

/-- `t OR u`. -/
def or : Truth → Truth → Truth
  | some true, _ => some true
  | _, some true => some true
  | some false, some false => some false
  | _, _ => none

/-- A comparison of two nullable operands: UNKNOWN as soon as one is NULL. -/
def compare {α : Type} (r : α → α → Prop) [DecidableRel r] : Option α → Option α → Truth
  | some a, some b => some (decide (r a b))
  | _, _ => none

/-- `c₁ AND c₂ AND … AND cₙ`. -/
def all (conditions : List Truth) : Truth := conditions.foldr and (some true)

/-- `c₁ OR c₂ OR … OR cₙ`. -/
def any (conditions : List Truth) : Truth := conditions.foldr or (some false)

@[simp] theorem of_eq_true_iff {p : Prop} [Decidable p] : of p = some true ↔ p := by
  simp [of]

@[simp] theorem of_eq_false_iff {p : Prop} [Decidable p] : of p = some false ↔ ¬ p := by
  simp [of]

/-- Equivalent conditions have one truth value. -/
theorem of_congr {p q : Prop} [Decidable p] [Decidable q] (h : p ↔ q) : of p = of q :=
  congrArg some (decide_eq_decide.mpr h)

@[simp] theorem not_eq_true_iff {t : Truth} : not t = some true ↔ t = some false := by
  rcases t with _ | _ | _ <;> simp [not]

theorem true_and (t : Truth) : and (some true) t = t := by
  rcases t with _ | _ | _ <;> rfl

theorem and_eq_true_iff {t u : Truth} :
    and t u = some true ↔ t = some true ∧ u = some true := by
  rcases t with _ | _ | _ <;> rcases u with _ | _ | _ <;> simp [and]

theorem and_eq_false_iff {t u : Truth} :
    and t u = some false ↔ t = some false ∨ u = some false := by
  rcases t with _ | _ | _ <;> rcases u with _ | _ | _ <;> simp [and]

theorem or_eq_true_iff {t u : Truth} :
    or t u = some true ↔ t = some true ∨ u = some true := by
  rcases t with _ | _ | _ <;> rcases u with _ | _ | _ <;> simp [or]

theorem or_eq_false_iff {t u : Truth} :
    or t u = some false ↔ t = some false ∧ u = some false := by
  rcases t with _ | _ | _ <;> rcases u with _ | _ | _ <;> simp [or]

@[simp] theorem compare_some {α : Type} (r : α → α → Prop) [DecidableRel r] (a b : α) :
    compare r (some a) (some b) = of (r a b) := rfl

/-- A conjunction is FALSE exactly when some conjunct is: an UNKNOWN conjunct
neither satisfies a guard nor violates it. -/
theorem all_eq_false_iff {conditions : List Truth} :
    all conditions = some false ↔ some false ∈ conditions := by
  induction conditions with
  | nil => simp [all]
  | cons c rest ih =>
      have hcons : all (c :: rest) = and c (all rest) := rfl
      rw [hcons, and_eq_false_iff, ih, List.mem_cons]
      exact or_congr_left eq_comm

/-- A disjunction is TRUE exactly when some disjunct is. -/
theorem any_eq_true_iff {conditions : List Truth} :
    any conditions = some true ↔ some true ∈ conditions := by
  induction conditions with
  | nil => simp [any]
  | cons c rest ih =>
      have hcons : any (c :: rest) = or c (any rest) := rfl
      rw [hcons, or_eq_true_iff, ih, List.mem_cons]
      exact or_congr_left eq_comm

/-- `NOT (c₁ AND … AND cₙ)` is TRUE unless no conjunct is FALSE. -/
theorem not_all_ne_true_iff {conditions : List Truth} :
    not (all conditions) ≠ some true ↔ ∀ c ∈ conditions, c ≠ some false := by
  rw [ne_eq, not_eq_true_iff, all_eq_false_iff]
  constructor
  · rintro h c hc rfl
    exact h hc
  · intro h hmem
    exact h _ hmem rfl

/-- `c₁ OR … OR cₙ` is TRUE unless no disjunct is. -/
theorem any_ne_true_iff {conditions : List Truth} :
    any conditions ≠ some true ↔ ∀ c ∈ conditions, c ≠ some true := by
  rw [ne_eq, any_eq_true_iff]
  constructor
  · rintro h c hc rfl
    exact h hc
  · intro h hmem
    exact h _ hmem rfl

end Truth

end LuxLedger.Relational
