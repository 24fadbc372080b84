/-
  Foundation/KeysetPages.lean --- keyset pagination.

  A page holds the first rows past a cursor in the order of their keys.  One row more
  than the page holds is fetched: if it is there, the page names its own last key as
  the next cursor, and otherwise it ends the traversal.
-/
import LuxLedger.Relational.Rows
import Mathlib.Data.List.Sort

set_option autoImplicit false

namespace LuxLedger.Foundation

open Relational

variable {ρ κ : Type} [LinearOrder κ] {key : ρ → κ} {limit : Nat} {cursor : Option κ}
  {rows : List ρ} {r : ρ}

/-- The rows past the cursor, `ORDER BY key ASC`. -/
def rowsPast (key : ρ → κ) (cursor : Option κ) (rows : List ρ) : List ρ :=
  (rows.filter fun r => cursor.all fun c => decide (c < key r)).insertionSort
    fun a b => key a ≤ key b

/-- A page of a listing. -/
structure Page (ρ κ : Type) where
  data : List ρ
  next : Option κ

/-- The page of at most `limit` rows past the cursor. -/
def page (key : ρ → κ) (limit : Nat) (cursor : Option κ) (rows : List ρ) : Page ρ κ :=
  let fetched := (rowsPast key cursor rows).take (limit + 1)
  ⟨fetched.take limit,
    if limit < fetched.length then (fetched[limit - 1]?).map key else none⟩

/-! ## One page -/

/-- A list in the order of its keys. -/
def Ascending (key : ρ → κ) (rows : List ρ) : Prop := rows.Pairwise fun a b => key a < key b

theorem mem_rowsPast :
    r ∈ rowsPast key cursor rows ↔ r ∈ rows ∧ ∀ c, cursor = some c → c < key r := by
  rw [rowsPast, List.mem_insertionSort, List.mem_filter]
  cases cursor with
  | none => simp
  | some c => simp

theorem ascending_rowsPast (h : UniqueKey key rows) :
    Ascending key (rowsPast key cursor rows) := by
  have hsorted : (rowsPast key cursor rows).Pairwise fun a b => key a ≤ key b := by
    have htotal : Std.Total fun a b : ρ => key a ≤ key b := ⟨fun a b => le_total (key a) (key b)⟩
    have htrans : IsTrans ρ fun a b => key a ≤ key b := ⟨fun _ _ _ => le_trans⟩
    exact List.pairwise_insertionSort _ _
  have hdistinct : (rowsPast key cursor rows).Pairwise fun a b => key a ≠ key b := by
    have hperm := (List.perm_insertionSort (fun a b => key a ≤ key b)
      (rows.filter fun r => cursor.all fun c => decide (c < key r))).map key
    rw [← List.pairwise_map (f := key) (R := (· ≠ ·))]
    exact hperm.nodup_iff.mpr (h.sublist List.filter_sublist)
  exact hsorted.imp₂ (fun _ _ hle hne => lt_of_le_of_ne hle hne) hdistinct

/-- A page either holds all that is left, or stops at a row that others follow. -/
theorem page_cases (key : ρ → κ) (cursor : Option κ) (rows : List ρ) (hlimit : 0 < limit) :
    (page key limit cursor rows = ⟨rowsPast key cursor rows, none⟩) ∨
    ∃ before last after, rowsPast key cursor rows = before ++ last :: after ∧ after ≠ [] ∧
      page key limit cursor rows = ⟨before ++ [last], some (key last)⟩ := by
  unfold page
  generalize rowsPast key cursor rows = sorted
  dsimp only
  rw [List.take_take, min_eq_left (Nat.le_succ limit), List.length_take]
  rcases Nat.lt_or_ge limit sorted.length with hlong | hshort
  · right
    obtain ⟨n, rfl⟩ : ∃ n, limit = n + 1 := ⟨limit - 1, by omega⟩
    have hn : n < sorted.length := by omega
    refine ⟨sorted.take n, sorted[n], sorted.drop (n + 1), ?_, ?_, ?_⟩
    · rw [← List.drop_eq_getElem_cons hn, List.take_append_drop]
    · rw [Ne, List.drop_eq_nil_iff]
      omega
    · rw [if_pos (by omega), Nat.add_sub_cancel, List.getElem?_take_of_lt (by omega),
        List.getElem?_eq_getElem hn, Option.map_some, List.take_append_getElem hn]
  · left
    rw [if_neg (by omega), List.take_of_length_le hshort]

/-- A first page is empty only when there are no rows. -/
theorem page_eq_nil_iff (hlimit : 0 < limit) :
    (page key limit none rows).data = [] ↔ rows = [] := by
  have hnil : rowsPast key none rows = [] ↔ rows = [] := by
    simp only [List.eq_nil_iff_forall_not_mem, mem_rowsPast]
    exact ⟨fun h r hr => h r ⟨hr, fun _ hc => (by cases hc)⟩, fun h r hr => h r hr.1⟩
  rcases page_cases key none rows hlimit with hall | ⟨before, last, after, hsorted, _, hpage⟩
  · rw [hall]
    exact hnil
  · rw [← hnil, hpage, hsorted]
    simp

/-- A page holds exactly the rows from its cursor to the next one. -/
theorem mem_page (hlimit : 0 < limit) (hkey : UniqueKey key rows) :
    r ∈ (page key limit cursor rows).data ↔
      r ∈ rows ∧ (∀ c, cursor = some c → c < key r) ∧
        ∀ c, (page key limit cursor rows).next = some c → key r ≤ c := by
  rw [← and_assoc, ← mem_rowsPast]
  rcases page_cases key cursor rows hlimit with
    hall | ⟨before, last, after, hsorted, _, hpage⟩
  · rw [hall]
    exact ⟨fun h => ⟨h, fun _ hc => (by cases hc)⟩, fun h => h.1⟩
  · have hascending : Ascending key (before ++ last :: after) := hsorted ▸ ascending_rowsPast hkey
    rw [Ascending, List.pairwise_append, List.pairwise_cons] at hascending
    obtain ⟨_, ⟨hafter, _⟩, hbefore⟩ := hascending
    rw [hpage, hsorted]
    simp only [List.mem_append, List.mem_cons, List.not_mem_nil, or_false, Option.some.injEq,
      forall_eq']
    constructor
    · rintro (hr | rfl)
      · exact ⟨Or.inl hr, le_of_lt (hbefore r hr last List.mem_cons_self)⟩
      · exact ⟨Or.inr (Or.inl rfl), le_rfl⟩
    · rintro ⟨hr | rfl | hr, hle⟩
      · exact Or.inl hr
      · exact Or.inr rfl
      · exact absurd (hafter r hr) (not_lt.mpr hle)

theorem ascending_page (hlimit : 0 < limit) (hkey : UniqueKey key rows) :
    Ascending key (page key limit cursor rows).data := by
  have hascending : Ascending key (rowsPast key cursor rows) := ascending_rowsPast hkey
  rcases page_cases key cursor rows hlimit with
    hall | ⟨before, last, after, hsorted, _, hpage⟩
  · rw [hall]
    exact hascending
  · rw [hsorted, List.append_cons] at hascending
    rw [hpage]
    exact (List.pairwise_append.mp hascending).1

/-- The next cursor is the key of a row of the page. -/
theorem next_mem (hlimit : 0 < limit) {c : κ} (hnext : (page key limit cursor rows).next = some c) :
    ∃ r ∈ (page key limit cursor rows).data, key r = c := by
  rcases page_cases key cursor rows hlimit with
    hall | ⟨before, last, after, _, _, hpage⟩
  · rw [hall] at hnext
    cases hnext
  · rw [hpage] at hnext ⊢
    exact ⟨last, List.mem_append_right _ List.mem_cons_self, Option.some.inj hnext⟩

/-! ## A traversal -/

/-- The pages of a traversal that follows the next cursor.  A read finds the rows as
they are by then, and has a limit of its own. -/
def follow (key : ρ → κ) : Option κ → List (List ρ × Nat) → List (Page ρ κ)
  | _, [] => []
  | cursor, read :: reads =>
      page key read.2 cursor read.1 ::
        match (page key read.2 cursor read.1).next with
        | none => []
        | some c => follow key (some c) reads

/-- All rows of the pages. -/
def returned (pages : List (Page ρ κ)) : List ρ := pages.flatMap (·.data)

/-- The traversal has come to a page without a next cursor. -/
def Ended (pages : List (Page ρ κ)) : Prop := ∃ last ∈ pages, last.next = none

section Traversal

variable {reads : List (List ρ × Nat)}

theorem past_of_returned (hlimits : ∀ read ∈ reads, 0 < read.2)
    (hkeys : ∀ read ∈ reads, UniqueKey key read.1) (hr : r ∈ returned (follow key cursor reads)) :
    ∀ c, cursor = some c → c < key r := by
  induction reads generalizing cursor with
  | nil => cases hr
  | cons read reads ih =>
      have hlimit := hlimits read List.mem_cons_self
      have hkey := hkeys read List.mem_cons_self
      rw [follow, returned, List.flatMap_cons, List.mem_append] at hr
      rcases hr with hr | hr
      · exact ((mem_page hlimit hkey).mp hr).2.1
      · intro c hc
        cases hnext : (page key read.2 cursor read.1).next with
        | none =>
            rw [hnext] at hr
            cases hr
        | some c' =>
            rw [hnext] at hr
            obtain ⟨last, hlast, rfl⟩ := next_mem hlimit hnext
            have hpast := ((mem_page hlimit hkey).mp hlast).2.1 c hc
            exact lt_trans hpast (ih (fun read' h => hlimits read' (List.mem_cons_of_mem _ h))
              (fun read' h => hkeys read' (List.mem_cons_of_mem _ h)) hr _ rfl)

/-- The rows of a traversal come in the order of their keys. -/
theorem ascending_follow (hlimits : ∀ read ∈ reads, 0 < read.2)
    (hkeys : ∀ read ∈ reads, UniqueKey key read.1) :
    Ascending key (returned (follow key cursor reads)) := by
  induction reads generalizing cursor with
  | nil => exact .nil
  | cons read reads ih =>
      have hlimit := hlimits read List.mem_cons_self
      have hkey := hkeys read List.mem_cons_self
      have hlimits' := fun read' h => hlimits read' (List.mem_cons_of_mem read h)
      have hkeys' := fun read' h => hkeys read' (List.mem_cons_of_mem read h)
      rw [follow, returned, List.flatMap_cons, Ascending, List.pairwise_append]
      refine ⟨ascending_page hlimit hkey, ?_, ?_⟩
      · cases (page key read.2 cursor read.1).next with
        | none => exact .nil
        | some c => exact ih hlimits' hkeys'
      · intro a ha b hb
        cases hnext : (page key read.2 cursor read.1).next with
        | none =>
            rw [hnext] at hb
            cases hb
        | some c =>
            rw [hnext] at hb
            have hle := ((mem_page hlimit hkey).mp ha).2.2 c hnext
            exact lt_of_le_of_lt hle (past_of_returned hlimits' hkeys' hb c rfl)

/-- A key past the cursor that no read misses is returned by a traversal that ends. -/
theorem returned_of_ended (hlimits : ∀ read ∈ reads, 0 < read.2)
    (hkeys : ∀ read ∈ reads, UniqueKey key read.1) (hended : Ended (follow key cursor reads))
    {k : κ} (hpast : ∀ c, cursor = some c → c < k) (hpresent : ∀ read ∈ reads, k ∈ read.1.map key) :
    k ∈ (returned (follow key cursor reads)).map key := by
  induction reads generalizing cursor with
  | nil =>
      obtain ⟨last, hlast, _⟩ := hended
      cases hlast
  | cons read reads ih =>
      have hlimit := hlimits read List.mem_cons_self
      have hkey := hkeys read List.mem_cons_self
      obtain ⟨r, hr, rfl⟩ := List.mem_map.mp (hpresent read List.mem_cons_self)
      rw [follow, returned, List.flatMap_cons, List.map_append, List.mem_append]
      cases hnext : (page key read.2 cursor read.1).next with
      | none =>
          left
          apply List.mem_map_of_mem
          rw [mem_page hlimit hkey]
          exact ⟨hr, hpast, fun c hc => (by rw [hnext] at hc; cases hc)⟩
      | some c =>
          rcases le_or_gt (key r) c with hle | hgt
          · left
            apply List.mem_map_of_mem
            rw [mem_page hlimit hkey]
            refine ⟨hr, hpast, fun c' hc' => ?_⟩
            rw [hnext, Option.some.injEq] at hc'
            exact hc' ▸ hle
          · right
            rw [follow, hnext] at hended
            obtain ⟨last, hlast, hnone⟩ := hended
            rcases List.mem_cons.mp hlast with rfl | hlast
            · rw [hnext] at hnone
              cases hnone
            · exact ih (fun read' h => hlimits read' (List.mem_cons_of_mem _ h))
                (fun read' h => hkeys read' (List.mem_cons_of_mem _ h)) ⟨last, hlast, hnone⟩
                (fun c' hc' => Option.some.inj hc' ▸ hgt)
                fun read' h => hpresent read' (List.mem_cons_of_mem _ h)

/-- Every page has its read. -/
theorem exists_read_of_page {p : Page ρ κ} (hp : p ∈ follow key cursor reads) :
    ∃ read, (read, p) ∈ reads.zip (follow key cursor reads) := by
  induction reads generalizing cursor with
  | nil => cases hp
  | cons read reads ih =>
      rw [follow, List.zip_cons_cons] at *
      rcases List.mem_cons.mp hp with rfl | hp
      · exact ⟨read, List.mem_cons_self⟩
      · cases hnext : (page key read.2 cursor read.1).next with
        | none =>
            rw [hnext] at hp
            cases hp
        | some c =>
            rw [hnext] at hp
            obtain ⟨read', hread'⟩ := ih hp
            exact ⟨read', List.mem_cons_of_mem _ hread'⟩

theorem mem_of_returned (hlimits : ∀ read ∈ reads, 0 < read.2)
    (hkeys : ∀ read ∈ reads, UniqueKey key read.1) {p : (List ρ × Nat) × Page ρ κ}
    (hp : p ∈ reads.zip (follow key cursor reads)) : ∀ r ∈ p.2.data, r ∈ p.1.1 := by
  induction reads generalizing cursor with
  | nil => cases hp
  | cons read reads ih =>
      rw [follow, List.zip_cons_cons] at hp
      rcases List.mem_cons.mp hp with rfl | hp
      · intro r hr
        exact ((mem_page (hlimits read List.mem_cons_self)
          (hkeys read List.mem_cons_self)).mp hr).1
      · cases hnext : (page key read.2 cursor read.1).next with
        | none =>
            rw [hnext, List.zip_nil_right] at hp
            cases hp
        | some c =>
            rw [hnext] at hp
            exact ih (fun read' h => hlimits read' (List.mem_cons_of_mem _ h))
              (fun read' h => hkeys read' (List.mem_cons_of_mem _ h)) hp

/-- When a page has no next cursor, no row it could see lies beyond what is returned. -/
theorem le_returned_of_last (hlimits : ∀ read ∈ reads, 0 < read.2)
    (hkeys : ∀ read ∈ reads, UniqueKey key read.1) {p : (List ρ × Nat) × Page ρ κ}
    (hp : p ∈ reads.zip (follow key cursor reads)) (hlast : p.2.next = none) (hr : r ∈ p.1.1) :
    (∃ r' ∈ returned (follow key cursor reads), key r ≤ key r') ∨
      ∃ c, cursor = some c ∧ key r ≤ c := by
  induction reads generalizing cursor with
  | nil => cases hp
  | cons read reads ih =>
      have hlimit := hlimits read List.mem_cons_self
      have hkey := hkeys read List.mem_cons_self
      rw [follow, List.zip_cons_cons] at hp
      rw [follow, returned, List.flatMap_cons]
      rcases List.mem_cons.mp hp with rfl | hp
      · by_cases hpast : ∀ c, cursor = some c → c < key r
        · have hmem : r ∈ (page key read.2 cursor read.1).data :=
            (mem_page hlimit hkey).mpr ⟨hr, hpast, fun c hc => (by cases hlast.symm.trans hc)⟩
          exact Or.inl ⟨r, List.mem_append_left _ hmem, le_rfl⟩
        · right
          push Not at hpast
          exact hpast
      · left
        cases hnext : (page key read.2 cursor read.1).next with
        | none =>
            rw [hnext, List.zip_nil_right] at hp
            cases hp
        | some c =>
            rw [hnext] at hp
            rcases ih (fun read' h => hlimits read' (List.mem_cons_of_mem _ h))
              (fun read' h => hkeys read' (List.mem_cons_of_mem _ h)) hp with
              ⟨r', hr', hle⟩ | ⟨c', hc', hle⟩
            · exact ⟨r', List.mem_append_right _ hr', hle⟩
            · obtain ⟨last, hmem, hkeyLast⟩ := next_mem hlimit hnext
              refine ⟨last, List.mem_append_left _ hmem, ?_⟩
              rw [hkeyLast, Option.some.inj hc']
              exact hle

/-- Every page before the end of a traversal returns a row. -/
theorem length_le_of_not_ended (hlimits : ∀ read ∈ reads, 0 < read.2)
    (hrunning : ¬ Ended (follow key cursor reads)) :
    reads.length ≤ (returned (follow key cursor reads)).length := by
  induction reads generalizing cursor with
  | nil => exact Nat.zero_le _
  | cons read reads ih =>
      rw [follow] at hrunning ⊢
      cases hnext : (page key read.2 cursor read.1).next with
      | none => exact absurd ⟨_, List.mem_cons_self, hnext⟩ hrunning
      | some c =>
          rw [hnext] at hrunning
          have hrest : reads.length ≤ (returned (follow key (some c) reads)).length :=
            ih (fun read' h => hlimits read' (List.mem_cons_of_mem _ h))
              fun ⟨last, hlast, hnone⟩ => hrunning ⟨last, List.mem_cons_of_mem _ hlast, hnone⟩
          obtain ⟨last, hmem, _⟩ := next_mem (hlimits read List.mem_cons_self) hnext
          have hpos := List.length_pos_of_mem hmem
          rw [returned] at hrest ⊢
          rw [List.flatMap_cons, List.length_append, List.length_cons]
          dsimp only
          omega

/-- A traversal ends within one read more than there are keys. -/
theorem ended_of_lt (hlimits : ∀ read ∈ reads, 0 < read.2)
    (hkeys : ∀ read ∈ reads, UniqueKey key read.1) {keys : List κ}
    (hwithin : ∀ read ∈ reads, ∀ r ∈ read.1, key r ∈ keys) (hmany : keys.length < reads.length) :
    Ended (follow key cursor reads) := by
  by_contra hrunning
  have hlength := length_le_of_not_ended hlimits hrunning
  have hnodup : ((returned (follow key cursor reads)).map key).Nodup := by
    rw [List.Nodup, List.pairwise_map]
    exact (ascending_follow hlimits hkeys).imp fun hlt => ne_of_lt hlt
  have hsubset : (returned (follow key cursor reads)).map key ⊆ keys := by
    intro k hk
    obtain ⟨r, hr, rfl⟩ := List.mem_map.mp hk
    obtain ⟨page, hpage, hr⟩ := List.mem_flatMap.mp hr
    obtain ⟨read, hread⟩ := exists_read_of_page hpage
    exact hwithin read (List.of_mem_zip hread).1 r (mem_of_returned hlimits hkeys hread r hr)
  have hle := (List.subperm_of_subset hnodup hsubset).length_le
  rw [List.length_map] at hle
  omega

end Traversal

end LuxLedger.Foundation
