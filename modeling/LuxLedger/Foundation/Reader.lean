/-
  Foundation/Reader.lean --- readers that take something off the front of a text, and what
  they take in front of any admissible rest.
-/
import Mathlib.Data.List.TakeWhile

set_option autoImplicit false

namespace LuxLedger.Foundation

/-- What was read, and the rest of the text. -/
abbrev Reader (σ α : Type) : Type := List σ → Option (α × List σ)

variable {σ α : Type}

/-- In front of an admissible rest, the reader takes exactly the text. -/
def Takes (reader : Reader σ α) (text : List σ) (value : α) (After : List σ → Prop) : Prop :=
  ∀ rest, After rest → reader (text ++ rest) = some (value, rest)

namespace Reader

variable (blank : σ → Bool)

/-- What stands behind a mark, before which blanks may stand. -/
def past (isMark : σ → Bool) (text : List σ) : Option (List σ) :=
  match text.dropWhile blank with
  | u :: rest => if isMark u then some rest else none
  | [] => none

/-- Items with marks between them. -/
def separated (isMark : σ → Bool) (item : Reader σ α) : Nat → Reader σ (List α)
  | 0, _ => none
  | n + 1, text => do
      let (first, rest) ← item text
      match past blank isMark rest with
      | none => some ([first], rest)
      | some next => do
          let (others, rest) ← separated isMark item n next
          some (first :: others, rest)

/-- Items with marks between them and possibly behind the last, up to a closing unit. -/
def enclosed (isMark isClose : σ → Bool) (item : Reader σ α) : Nat → Reader σ (List α)
  | 0, _ => none
  | n + 1, text =>
      match past blank isClose text with
      | some rest => some ([], rest)
      | none => do
          let (first, rest) ← item text
          match past blank isClose rest with
          | some rest => some ([first], rest)
          | none => do
              let next ← past blank isMark rest
              let (others, rest) ← enclosed isMark isClose item n next
              some (first :: others, rest)

section Past

variable {blank} {isMark : σ → Bool} {u : σ} {text : List σ}

theorem past_mark (hu : blank u = false) (hmark : isMark u = true) :
    past blank isMark (u :: text) = some text := by
  simp only [past, List.dropWhile_cons, hu, Bool.false_eq_true, if_false, hmark, if_true]

theorem past_other (hu : blank u = false) (hmark : isMark u = false) :
    past blank isMark (u :: text) = none := by
  simp only [past, List.dropWhile_cons, hu, Bool.false_eq_true, if_false, hmark]

theorem past_blank (hu : blank u = true) :
    past blank isMark (u :: text) = past blank isMark text := by
  simp only [past, List.dropWhile_cons, hu, if_true]

end Past

section Runs

variable {blank} {isMark isClose : σ → Bool} {item : Reader σ α} {n : Nat}
  {text next rest last : List σ} {first : α} {others : List α}

theorem separated_last (hitem : item text = some (first, rest))
    (hpast : past blank isMark rest = none) :
    separated blank isMark item (n + 1) text = some ([first], rest) := by
  simp only [separated, hitem, Option.bind_eq_bind, Option.bind_some, hpast]

theorem separated_next (hitem : item text = some (first, rest))
    (hpast : past blank isMark rest = some next)
    (hothers : separated blank isMark item n next = some (others, last)) :
    separated blank isMark item (n + 1) text = some (first :: others, last) := by
  simp only [separated, hitem, Option.bind_eq_bind, Option.bind_some, hpast, hothers]

/-- A blank that the reader of the items skips does not matter. -/
theorem separated_blank {u : σ} (hitem : item (u :: text) = item text) :
    separated blank isMark item n (u :: text) = separated blank isMark item n text := by
  cases n with
  | zero => rfl
  | succ n => simp only [separated, hitem]

theorem enclosed_close (hpast : past blank isClose text = some rest) :
    enclosed blank isMark isClose item (n + 1) text = some ([], rest) := by
  simp only [enclosed, hpast]

theorem enclosed_last (hopen : past blank isClose text = none)
    (hitem : item text = some (first, rest)) (hclose : past blank isClose rest = some last) :
    enclosed blank isMark isClose item (n + 1) text = some ([first], last) := by
  simp only [enclosed, hopen, hitem, Option.bind_eq_bind, Option.bind_some, hclose]

theorem enclosed_next (hopen : past blank isClose text = none)
    (hitem : item text = some (first, rest)) (hclose : past blank isClose rest = none)
    (hmark : past blank isMark rest = some next)
    (hothers : enclosed blank isMark isClose item n next = some (others, last)) :
    enclosed blank isMark isClose item (n + 1) text = some (first :: others, last) := by
  simp only [enclosed, hopen, hitem, Option.bind_eq_bind, Option.bind_some, hclose, hmark,
    hothers]

end Runs

/-! ## Lists that are written out -/

/-- An item that can stand in an enclosed list. -/
structure Item (isClose : σ → Bool) (item : Reader σ α) (After : List σ → Prop)
    (written : List σ × α) : Prop where
  begins : ∃ u rest, written.1 = u :: rest ∧ blank u = false ∧ isClose u = false
  takes : Takes item written.1 written.2 After

section Written

variable {blank} {isMark isClose : σ → Bool} {item : Reader σ α} {After : List σ → Prop}
  {mark close space : σ}

theorem Item.past_close {written : List σ × α} (h : Item blank isClose item After written)
    (rest : List σ) : past blank isClose (written.1 ++ rest) = none := by
  obtain ⟨u, tail, htext, hu, hclose⟩ := h.begins
  rw [htext, List.cons_append]
  exact past_other hu hclose

/-- A list that is written with a mark between its items. -/
theorem enclosed_intercalate (hmark : blank mark = false ∧ isMark mark = true ∧
      isClose mark = false) (hclose : blank close = false ∧ isClose close = true)
    (hafter : ∀ rest, After (mark :: rest) ∧ After (close :: rest))
    {items : List (List σ × α)} (hitems : ∀ i ∈ items, Item blank isClose item After i)
    {n : Nat} (hn : items.length < n) (rest : List σ) :
    enclosed blank isMark isClose item n
      ([mark].intercalate (items.map (·.1)) ++ close :: rest) = some (items.map (·.2), rest) := by
  induction items generalizing n with
  | nil =>
      obtain ⟨n, rfl⟩ := Nat.exists_eq_add_of_lt hn
      exact enclosed_close (past_mark hclose.1 hclose.2)
  | cons i items ih =>
      obtain ⟨m, rfl⟩ : ∃ m, n = m + 1 := ⟨n - 1, by simp only [List.length_cons] at hn; omega⟩
      obtain ⟨hi, htail⟩ := List.forall_mem_cons.mp hitems
      cases items with
      | nil =>
          simp only [List.map_cons, List.map_nil, List.intercalate_singleton]
          exact enclosed_last (hi.past_close _) (hi.takes _ (hafter rest).2)
            (past_mark hclose.1 hclose.2)
      | cons j items =>
          have hshorter : (j :: items).length < m := by
            simp only [List.length_cons] at hn ⊢
            omega
          have hrest := ih htail hshorter
          simp only [List.map_cons] at hrest ⊢
          rw [List.intercalate_cons_cons, List.append_assoc, List.append_assoc,
            List.singleton_append]
          exact enclosed_next (hi.past_close _) (hi.takes _ (hafter _).1)
            (past_other hmark.1 hmark.2.2) (past_mark hmark.1 hmark.2.1) hrest

/-- A list that is written with a blank before each item and a mark behind it. -/
theorem enclosed_terminated (hspace : blank space = true) (hmark : blank mark = false ∧
      isMark mark = true ∧ isClose mark = false) (hclose : blank close = false ∧
      isClose close = true) (hafter : ∀ rest, After (mark :: rest))
    (hitem : ∀ text, item (space :: text) = item text)
    {items : List (List σ × α)} (hitems : ∀ i ∈ items, Item blank isClose item After i)
    {n : Nat} (hn : items.length < n) (rest : List σ) :
    enclosed blank isMark isClose item n
      (items.flatMap (fun i => space :: i.1 ++ [mark]) ++ space :: close :: rest) =
        some (items.map (·.2), rest) := by
  induction items generalizing n with
  | nil =>
      obtain ⟨n, rfl⟩ := Nat.exists_eq_add_of_lt hn
      refine enclosed_close ?_
      rw [List.flatMap_nil, List.nil_append, past_blank hspace]
      exact past_mark hclose.1 hclose.2
  | cons i items ih =>
      obtain ⟨m, rfl⟩ : ∃ m, n = m + 1 := ⟨n - 1, by simp only [List.length_cons] at hn; omega⟩
      obtain ⟨hi, htail⟩ := List.forall_mem_cons.mp hitems
      have hshorter : items.length < m := by
        simp only [List.length_cons] at hn
        omega
      have hrest := ih htail hshorter
      rw [List.flatMap_cons, List.cons_append, List.cons_append, List.cons_append,
        List.append_assoc, List.append_assoc, List.singleton_append]
      refine enclosed_next ?_ ((hitem _).trans (hi.takes _ (hafter _)))
        (past_other hmark.1 hmark.2.2) (past_mark hmark.1 hmark.2.1) hrest
      rw [past_blank hspace]
      exact hi.past_close _

end Written

/-! ### Lengths -/

section Lengths

variable {texts : List (List σ)} {text sep : List σ} {space : σ}

theorem length_le_flatten (h : ∀ t ∈ texts, t ≠ []) : texts.length ≤ texts.flatten.length := by
  induction texts with
  | nil => exact Nat.le_refl 0
  | cons t texts ih =>
      obtain ⟨ht, htexts⟩ := List.forall_mem_cons.mp h
      have hpos : 0 < t.length := List.length_pos_iff.mpr ht
      have hrest := ih htexts
      simp only [List.length_cons, List.flatten_cons, List.length_append]
      omega

theorem flatten_le_intercalate : texts.flatten.length ≤ (sep.intercalate texts).length := by
  induction texts with
  | nil => exact Nat.le_refl _
  | cons t texts ih =>
      cases texts with
      | nil => simp
      | cons t' texts =>
          rw [List.intercalate_cons_cons, List.flatten_cons]
          simp only [List.length_append] at ih ⊢
          omega

theorem le_intercalate_of_mem (h : text ∈ texts) :
    text.length ≤ (sep.intercalate texts).length :=
  (List.infix_of_mem_flatten h).length_le.trans flatten_le_intercalate

theorem length_le_intercalate (h : ∀ t ∈ texts, t ≠ []) :
    texts.length ≤ (sep.intercalate texts).length :=
  (length_le_flatten h).trans flatten_le_intercalate

/-- Texts joined by a separator, the separator in front of the first as well. -/
theorem cons_intercalate (hne : texts ≠ []) :
    space :: [space].intercalate texts = texts.flatMap fun t => space :: t := by
  induction texts with
  | nil => exact absurd rfl hne
  | cons t texts ih =>
      cases texts with
      | nil => simp
      | cons t' texts =>
          rw [List.intercalate_cons_cons, List.flatMap_cons, ← ih (List.cons_ne_nil t' texts)]
          simp only [List.append_assoc, List.cons_append, List.nil_append]

end Lengths

end Reader

end LuxLedger.Foundation
