/-
  Foundation/WindowLog.lean --- the admissions of a fixed-window counter.

  A fixed-window counter opens a window at the first call it sees, admits at most
  `capacity` calls in it, and opens the next window at the first call after it is
  over.  The log keeps the times of the admitted calls.  Two windows that follow
  each other may together fill an interval of one window's length: what is bounded
  there is twice the capacity, less the call that opened the first.
-/
import Mathlib.Data.List.Count
import Mathlib.Data.Int.Order.Basic
import Mathlib.Data.Nat.Basic

set_option autoImplicit false

namespace LuxLedger.Foundation

/-- The number of logged times in `[start, stop)`. -/
def countIn (log : List Int) (start stop : Int) : Nat :=
  log.countP fun t => decide (start ≤ t ∧ t < stop)

/-- The number of logged times from `start` on. -/
def countFrom (log : List Int) (start : Int) : Nat := log.countP fun t => decide (start ≤ t)

section Counting

variable (log : List Int) {start mid stop t : Int}

theorem countIn_append_single :
    countIn (log ++ [t]) start stop =
      countIn log start stop + if start ≤ t ∧ t < stop then 1 else 0 := by
  rw [countIn, List.countP_append, List.countP_singleton, countIn]
  simp only [decide_eq_true_eq]

theorem countFrom_append_single :
    countFrom (log ++ [t]) start = countFrom log start + if start ≤ t then 1 else 0 := by
  rw [countFrom, List.countP_append, List.countP_singleton, countFrom]
  simp only [decide_eq_true_eq]

/-- An interval is counted part by part. -/
theorem countIn_split (hmid : start ≤ mid) (hstop : mid ≤ stop) :
    countIn log start stop = countIn log start mid + countIn log mid stop := by
  induction log with
  | nil => rfl
  | cons t rest ih =>
      simp only [countIn, List.countP_cons, decide_eq_true_eq] at ih ⊢
      rw [ih]
      split_ifs <;> omega

theorem countIn_le_countFrom (stop : Int) (h : mid ≤ start) :
    countIn log start stop ≤ countFrom log mid := by
  apply List.countP_mono_left
  intro t _ ht
  simp only [decide_eq_true_eq] at ht ⊢
  omega

variable {log}

/-- A time of the log outside an interval is not counted in it. -/
theorem countIn_lt_countFrom (stop : Int) (hmem : mid ∈ log) (h : mid < start) :
    countIn log start stop < countFrom log mid := by
  induction log with
  | nil => exact absurd hmem List.not_mem_nil
  | cons t rest ih =>
      have hle : countIn rest start stop ≤ countFrom rest mid :=
        countIn_le_countFrom rest stop (le_of_lt h)
      simp only [countIn, countFrom, List.countP_cons, decide_eq_true_eq] at ih hle ⊢
      rcases List.mem_cons.mp hmem with rfl | hrest
      · rw [if_neg (by omega), if_pos le_rfl]
        omega
      · have hlt := ih hrest
        split_ifs <;> omega

theorem countFrom_eq_zero (h : ∀ s ∈ log, s < start) : countFrom log start = 0 := by
  rw [countFrom, List.countP_eq_zero]
  intro s hs
  have hlt := h s hs
  simp only [decide_eq_true_eq]
  omega

end Counting

/-- The log of a counter whose current window opened at `start` and has admitted
`used` calls. -/
structure WindowLog (capacity : Nat) (length : Int) (log : List Int) (start : Int)
    (used : Nat) : Prop where
  /-- the call that opened the window is in the log -/
  opened : start ∈ log
  inside : ∀ t ∈ log, t < start + length
  used_eq : countFrom log start = used
  used_le : used ≤ capacity
  /-- less than one window before the current one, its predecessor is not complete -/
  before : ∀ a, start - length < a → countIn log a start < capacity
  anywhere : ∀ a, countIn log a (a + length) < 2 * capacity

namespace WindowLog

variable {capacity used : Nat} {length start t : Int} {log : List Int}

/-- The first call of all opens the first window. -/
theorem first (hcapacity : 0 < capacity) (hlength : 0 < length) :
    WindowLog capacity length [t] t 1 where
  opened := List.mem_singleton.mpr rfl
  inside := by
    intro s hs
    rw [List.mem_singleton.mp hs]
    omega
  used_eq := by
    rw [countFrom, List.countP_singleton, if_pos (by simp only [decide_eq_true_eq, le_refl])]
  used_le := hcapacity
  before := by
    intro a _
    rw [countIn, List.countP_singleton, if_neg (by simp only [decide_eq_true_eq]; omega)]
    exact hcapacity
  anywhere := by
    intro a
    rw [countIn, List.countP_singleton]
    split_ifs <;> omega

/-- Within one window's length of a call of the next window, the current window is
counted without the call that opened it. -/
theorem countIn_lt_capacity (h : WindowLog capacity length log start used)
    {a : Int} (stop : Int) (ha : start < a) : countIn log a stop < capacity := by
  have hlt := countIn_lt_countFrom stop h.opened ha
  rw [h.used_eq] at hlt
  exact lt_of_lt_of_le hlt h.used_le

/-- A call after the window is over opens the next one. -/
theorem next (h : WindowLog capacity length log start used) (hlength : 0 < length)
    (ht : start + length ≤ t) : WindowLog capacity length (log ++ [t]) t 1 := by
  have hpast : ∀ s ∈ log, s < t := fun s hs => lt_of_lt_of_le (h.inside s hs) ht
  have hused : 0 < capacity := lt_of_le_of_lt (Nat.zero_le _) (h.before start (by omega))
  refine
    { opened := List.mem_append_right log (List.mem_singleton.mpr rfl)
      inside := ?_, used_eq := ?_, used_le := hused, before := ?_, anywhere := ?_ }
  · intro s hs
    rcases List.mem_append.mp hs with hs | hs
    · have hlt := hpast s hs
      omega
    · rw [List.mem_singleton.mp hs]
      omega
  · rw [countFrom_append_single, countFrom_eq_zero hpast, if_pos le_rfl]
  · intro a ha
    rw [countIn_append_single, if_neg (by omega), Nat.add_zero]
    exact h.countIn_lt_capacity t (by omega)
  · intro a
    rw [countIn_append_single]
    split_ifs with hin
    · have hold := h.countIn_lt_capacity (a + length) (show start < a by omega)
      omega
    · exact h.anywhere a

/-- A call in the current window is admitted while there is room. -/
theorem join (h : WindowLog capacity length log start used) (hroom : used < capacity)
    (hfrom : start ≤ t) (hto : t < start + length) :
    WindowLog capacity length (log ++ [t]) start (used + 1) := by
  refine
    { opened := List.mem_append_left [t] h.opened
      inside := ?_, used_eq := ?_, used_le := hroom, before := ?_, anywhere := ?_ }
  · intro s hs
    rcases List.mem_append.mp hs with hs | hs
    · exact h.inside s hs
    · rw [List.mem_singleton.mp hs]
      exact hto
  · rw [countFrom_append_single, h.used_eq, if_pos hfrom]
  · intro a ha
    rw [countIn_append_single, if_neg (by omega), Nat.add_zero]
    exact h.before a ha
  · intro a
    rw [countIn_append_single]
    split_ifs with hin
    · by_cases ha : start ≤ a
      · have hold := countIn_le_countFrom log (a + length) ha
        rw [h.used_eq] at hold
        omega
      · -- the part before the window belongs to its predecessor
        have hsplit := countIn_split log (le_of_lt (not_le.mp ha))
          (show start ≤ a + length by omega)
        have hpredecessor := h.before a (by omega)
        have hcurrent := countIn_le_countFrom log (a + length) (le_refl start)
        rw [h.used_eq] at hcurrent
        omega
    · exact h.anywhere a

/-- The current window holds no more than the capacity, and all it has used. -/
theorem countIn_window (h : WindowLog capacity length log start used) :
    countIn log start (start + length) = used := by
  rw [← h.used_eq, countIn, countFrom]
  apply List.countP_congr
  intro t ht
  have hinside := h.inside t ht
  simp only [decide_eq_true_eq]
  omega

end WindowLog

end LuxLedger.Foundation
