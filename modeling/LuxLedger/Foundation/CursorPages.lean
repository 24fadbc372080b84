/-
  Foundation/CursorPages.lean --- a listing served page by page, and a list that loads it.

  A page names the cursor of the next one unless it is the last.  Cursors are opaque: the
  server answers one of the listing by the page it stands for, and any other as it likes.
-/
import LuxLedger.Foundation.KeysetPages
import Mathlib.Data.List.GetD

set_option autoImplicit false

namespace LuxLedger.Foundation

variable {ρ κ : Type}

deriving instance DecidableEq for Page

/-- A listing, the size of its pages and the cursors it hands out. -/
structure Paging (ρ κ : Type) where
  listing : List ρ
  limit : Nat
  /-- the cursor for the rows after the first so many -/
  cursorAt : Nat → κ

namespace Paging

variable (paging : Paging ρ κ)

/-- The cursor after the first so many rows, unless they are all. -/
def cursorAfter (n : Nat) : Option κ :=
  if n < paging.listing.length then some (paging.cursorAt n) else none

/-- The page after the first so many rows. -/
def pageAt (n : Nat) : Page ρ κ :=
  ⟨(paging.listing.drop n).take paging.limit, paging.cursorAfter (n + paging.limit)⟩

/-- The server answers the cursors of the listing. -/
structure Serves (serve : Option κ → Option (Page ρ κ)) : Prop where
  first : serve none = some (paging.pageAt 0)
  next : ∀ n, 0 < n → n < paging.listing.length →
    serve (some (paging.cursorAt n)) = some (paging.pageAt n)

/-- Rows and cursor after whole pages: the first rows of the listing, and how it goes on. -/
structure Reached (rows : List ρ) (cursor : Option κ) : Prop where
  take : rows = paging.listing.take rows.length
  cursor : cursor = if rows = [] then none else paging.cursorAfter rows.length
  aligned : paging.limit ∣ rows.length ∨ rows.length = paging.listing.length

/-- Two listings agree on their first rows and on the cursor after them. -/
def Agree (paging paging' : Paging ρ κ) (n : Nat) : Prop :=
  paging.listing.take n = paging'.listing.take n ∧ paging.cursorAfter n = paging'.cursorAfter n

end Paging

instance [DecidableEq ρ] [DecidableEq κ] (paging paging' : Paging ρ κ) (n : Nat) :
    Decidable (paging.Agree paging' n) :=
  inferInstanceAs (Decidable (_ ∧ _))

/-- Rows and cursor of a list that holds consecutive pages, the first one first. -/
inductive Loaded (serve : Option κ → Option (Page ρ κ)) : List ρ → Option κ → Prop where
  | nothing : Loaded serve [] none
  | first {page : Page ρ κ} (hpage : serve none = some page) : Loaded serve page.data page.next
  | more {rows : List ρ} {c : κ} {page : Page ρ κ} (h : Loaded serve rows (some c))
      (hpage : serve (some c) = some page) : Loaded serve (rows ++ page.data) page.next

/-! ## Cursors and pages of one listing -/

section Pages

variable {paging : Paging ρ κ} {n : Nat}

theorem cursorAfter_of_lt (h : n < paging.listing.length) :
    paging.cursorAfter n = some (paging.cursorAt n) := if_pos h

theorem cursorAfter_of_le (h : paging.listing.length ≤ n) : paging.cursorAfter n = none :=
  if_neg (Nat.not_lt.mpr h)

theorem length_le_of_cursorAfter (h : paging.cursorAfter n = none) :
    paging.listing.length ≤ n := by
  by_contra hlt
  rw [cursorAfter_of_lt (Nat.not_le.mp hlt)] at h
  cases h

theorem length_pageAt_le : (paging.pageAt n).data.length ≤ paging.limit :=
  List.length_take_le _ _

theorem pageAt_ne_nil (hlimit : 0 < paging.limit) (h : n < paging.listing.length) :
    (paging.pageAt n).data ≠ [] := by
  apply List.ne_nil_of_length_pos
  simp only [Paging.pageAt, List.length_take, List.length_drop]
  omega

theorem take_append_pageAt :
    paging.listing.take n ++ (paging.pageAt n).data = paging.listing.take (n + paging.limit) :=
  (List.take_add ..).symm

/-- A page more is reached. -/
theorem Paging.Reached.of_pages {m : Nat} (hdvd : paging.limit ∣ m) (hpos : 0 < m) :
    paging.Reached (paging.listing.take m) (paging.cursorAfter m) := by
  rcases Nat.lt_or_ge m paging.listing.length with hlt | hge
  · have hlength : (paging.listing.take m).length = m := List.length_take_of_le (Nat.le_of_lt hlt)
    have hne : paging.listing.take m ≠ [] := List.ne_nil_of_length_pos (by rwa [hlength])
    exact ⟨by rw [hlength], by rw [if_neg hne, hlength], Or.inl (by rwa [hlength])⟩
  · rw [List.take_of_length_le hge, cursorAfter_of_le hge]
    refine ⟨List.take_length.symm, ?_, Or.inr rfl⟩
    rw [cursorAfter_of_le (Nat.le_refl _), ite_self]

/-- A cursor reached is that of the rows, which are not all. -/
theorem Paging.Reached.continues {rows : List ρ} {c : κ} (h : paging.Reached rows (some c)) :
    0 < rows.length ∧ rows.length < paging.listing.length ∧ c = paging.cursorAt rows.length := by
  have hne : rows ≠ [] := by
    rintro rfl
    cases h.cursor
  have hcursor : some c = paging.cursorAfter rows.length := h.cursor.trans (if_neg hne)
  have hlt : rows.length < paging.listing.length := by
    by_contra hge
    rw [cursorAfter_of_le (Nat.not_lt.mp hge)] at hcursor
    cases hcursor
  rw [cursorAfter_of_lt hlt] at hcursor
  exact ⟨List.length_pos_iff.mpr hne, hlt, Option.some.inj hcursor⟩

theorem Paging.Reached.dvd_of_lt {rows : List ρ} {cursor : Option κ}
    (h : paging.Reached rows cursor) (hlt : rows.length < paging.listing.length) :
    paging.limit ∣ rows.length := h.aligned.resolve_right (Nat.ne_of_lt hlt)

/-- The page that leads from one reached list to another is the one after its rows. -/
theorem Paging.Reached.page_eq {rows : List ρ} {cursor : Option κ} {page : Page ρ κ}
    (h : paging.Reached rows cursor) (hmore : paging.Reached (rows ++ page.data) page.next)
    (hne : page.data ≠ []) (hshort : page.data.length ≤ paging.limit) :
    rows.length < paging.listing.length ∧ page = paging.pageAt rows.length := by
  have hpos : 0 < page.data.length := List.length_pos_iff.mpr hne
  have htake := hmore.take
  have hcursor := hmore.cursor
  have haligned := hmore.aligned
  rw [if_neg (List.append_ne_nil_of_right_ne_nil rows hne)] at hcursor
  rw [List.length_append] at htake hcursor haligned
  have hlength := congrArg List.length htake
  rw [List.length_append, List.length_take] at hlength
  have hlt : rows.length < paging.listing.length := by omega
  have hdata : page.data = (paging.listing.drop rows.length).take page.data.length := by
    rw [List.take_add, ← h.take] at htake
    exact List.append_cancel_left htake
  refine ⟨hlt, ?_⟩
  -- a short page is the last one
  rcases haligned with hdvd | hall
  · have hlimit : page.data.length = paging.limit :=
      Nat.le_antisymm hshort (Nat.le_of_dvd hpos ((Nat.dvd_add_right (h.dvd_of_lt hlt)).mp hdvd))
    rw [hlimit] at hdata hcursor
    rw [Paging.pageAt, ← hdata, ← hcursor]
  · have hend : (paging.listing.drop rows.length).length ≤ page.data.length := by
      rw [List.length_drop]
      omega
    rw [List.take_of_length_le hend] at hdata
    rw [hall, cursorAfter_of_le (Nat.le_refl _)] at hcursor
    rw [Paging.pageAt, ← hdata, List.take_of_length_le hshort, cursorAfter_of_le (by omega),
      ← hcursor]

end Pages

section Served

variable {paging : Paging ρ κ} {serve : Option κ → Option (Page ρ κ)} {rows : List ρ}
  {cursor : Option κ} (hserves : paging.Serves serve) (hlimit : 0 < paging.limit)
include hserves hlimit

/-- By induction on the pages loaded. -/
theorem Loaded.reached (h : Loaded serve rows cursor) : paging.Reached rows cursor := by
  induction h with
  | nothing => exact ⟨rfl, rfl, Or.inl (Nat.dvd_zero _)⟩
  | first hpage =>
      rw [hserves.first] at hpage
      obtain rfl := Option.some.inj hpage
      have hfirst : paging.Reached (paging.listing.take paging.limit)
          (paging.cursorAfter paging.limit) := .of_pages (Nat.dvd_refl _) hlimit
      simpa only [Paging.pageAt, List.drop_zero, Nat.zero_add] using hfirst
  | @more rows _ _ _ hpage ih =>
      obtain ⟨hpos, hlt, rfl⟩ := ih.continues
      rw [hserves.next _ hpos hlt] at hpage
      obtain rfl := Option.some.inj hpage
      have hmore := Paging.Reached.of_pages (Nat.dvd_add (ih.dvd_of_lt hlt) (Nat.dvd_refl _))
        (Nat.add_pos_right rows.length hlimit)
      rwa [← take_append_pageAt, ← ih.take] at hmore

/-- So many pages, or all of them, are loaded. -/
theorem loaded_take (k : Nat) :
    Loaded serve (paging.listing.take (paging.limit * (k + 1)))
      (paging.cursorAfter (paging.limit * (k + 1))) := by
  induction k with
  | zero =>
      have hfirst := Loaded.first hserves.first
      simpa only [Paging.pageAt, List.drop_zero, Nat.zero_add, Nat.mul_one] using hfirst
  | succ k ih =>
      rcases Nat.lt_or_ge (paging.limit * (k + 1)) paging.listing.length with hlt | hge
      · rw [cursorAfter_of_lt hlt] at ih
        have hpos : 0 < paging.limit * (k + 1) := Nat.mul_pos hlimit (Nat.succ_pos k)
        have hmore := ih.more (hserves.next _ hpos hlt)
        rwa [take_append_pageAt] at hmore
      · have hge' : paging.listing.length ≤ paging.limit * (k + 1 + 1) :=
          Nat.le_trans hge (Nat.mul_le_mul_left _ (Nat.le_succ _))
        rw [List.take_of_length_le hge, cursorAfter_of_le hge] at ih
        rwa [List.take_of_length_le hge', cursorAfter_of_le hge']

theorem loaded_iff_reached : Loaded serve rows cursor ↔ paging.Reached rows cursor := by
  constructor
  · exact Loaded.reached hserves hlimit
  · intro h
    by_cases hnil : rows = []
    · rw [h.cursor, if_pos hnil, hnil]
      exact .nothing
    · rw [h.cursor, if_neg hnil]
      have hpos : 0 < rows.length := List.length_pos_iff.mpr hnil
      rcases h.aligned with ⟨k, hk⟩ | hall
      · cases k with
        | zero => exact absurd hk (Nat.ne_of_gt hpos)
        | succ k =>
            have hloaded := loaded_take hserves hlimit k
            rwa [← hk, ← h.take] at hloaded
      · have hle : paging.listing.length ≤ paging.limit * (paging.listing.length + 1) :=
          Nat.le_trans (Nat.le_succ _) (Nat.le_mul_of_pos_left _ hlimit)
        have hloaded := loaded_take hserves hlimit paging.listing.length
        rw [List.take_of_length_le hle, cursorAfter_of_le hle] at hloaded
        rw [hall, cursorAfter_of_le (Nat.le_refl _), h.take, hall, List.take_length]
        exact hloaded

/-- The cursor of a list stands for a page with rows. -/
theorem Loaded.next_page {c : κ} (h : Loaded serve rows (some c)) :
    ∃ page, serve (some c) = some page ∧ page.data ≠ [] ∧ page.data.length ≤ paging.limit := by
  obtain ⟨hpos, hlt, rfl⟩ := (h.reached hserves hlimit).continues
  exact ⟨paging.pageAt rows.length, hserves.next _ hpos hlt, pageAt_ne_nil hlimit hlt,
    length_pageAt_le⟩

/-- A page that is not empty may be appended exactly when it is the one the list's own next
request is answered by. -/
theorem loaded_append_iff (h : Loaded serve rows cursor) {page : Page ρ κ} (hne : page.data ≠ [])
    (hshort : page.data.length ≤ paging.limit) :
    Loaded serve (rows ++ page.data) page.next ↔
      (rows = [] ∨ cursor ≠ none) ∧ serve cursor = some page := by
  have hreached := h.reached hserves hlimit
  constructor
  · intro hmore
    obtain ⟨hlt, hpage⟩ := hreached.page_eq (hmore.reached hserves hlimit) hne hshort
    rw [hpage]
    by_cases hnil : rows = []
    · refine ⟨Or.inl hnil, ?_⟩
      rw [hreached.cursor, if_pos hnil, hnil]
      exact hserves.first
    · have hcursor : cursor = some (paging.cursorAt rows.length) := by
        rw [hreached.cursor, if_neg hnil, cursorAfter_of_lt hlt]
      rw [hcursor]
      exact ⟨Or.inr (Option.some_ne_none _), hserves.next _ (List.length_pos_iff.mpr hnil) hlt⟩
  · rintro ⟨hopen, hpage⟩
    cases cursor with
    | some c => exact h.more hpage
    | none =>
        obtain rfl := hopen.resolve_right (fun hnone => hnone rfl)
        exact .first hpage

theorem Loaded.nodup {α : Type} {f : ρ → α} (h : Loaded serve rows cursor)
    (hnodup : (paging.listing.map f).Nodup) : (rows.map f).Nodup := by
  rw [(h.reached hserves hlimit).take, List.map_take]
  exact hnodup.sublist (List.take_sublist _ _)

/-- A loaded list is one of another listing too exactly when it is empty or the listings
agree that far. -/
theorem Loaded.loaded_iff_agree {paging' : Paging ρ κ} {serve' : Option κ → Option (Page ρ κ)}
    (hserves' : paging'.Serves serve') (hsame : paging'.limit = paging.limit)
    (h : Loaded serve rows cursor) :
    Loaded serve' rows cursor ↔ rows = [] ∨ paging.Agree paging' rows.length := by
  have hreached := h.reached hserves hlimit
  rw [loaded_iff_reached hserves' (by rwa [hsame])]
  constructor
  · intro h'
    refine or_iff_not_imp_left.mpr (fun hne => ⟨hreached.take.symm.trans h'.take, ?_⟩)
    exact ((if_neg hne).symm.trans hreached.cursor.symm).trans (h'.cursor.trans (if_neg hne))
  · intro hagree
    by_cases hnil : rows = []
    · rw [hreached.cursor, if_pos hnil, hnil]
      exact ⟨rfl, rfl, Or.inl (Nat.dvd_zero _)⟩
    · obtain ⟨htake, hcursor⟩ := hagree.resolve_left hnil
      refine ⟨hreached.take.trans htake, ?_, ?_⟩
      · rw [hreached.cursor, if_neg hnil, if_neg hnil, hcursor]
      · rw [hsame]
        refine hreached.aligned.imp_right (fun hall => ?_)
        -- the other listing ends there too
        have hlength := congrArg List.length (hreached.take.trans htake)
        rw [List.length_take] at hlength
        rw [hall, cursorAfter_of_le (Nat.le_refl _), ← hall] at hcursor
        have hend := length_le_of_cursorAfter hcursor.symm
        omega

end Served

/-! ## A server -/

section ByKey

variable [DecidableEq κ] [Inhabited κ] (key : ρ → κ) (limit : Nat) (rows : List ρ)

/-- A listing whose cursors are the keys of the rows they come after. -/
def pagingByKey : Paging ρ κ :=
  ⟨rows, limit, fun n => (rows.map key).getD (n - 1) default⟩

/-- Its server; it refuses a cursor that is the key of no row. -/
def serveByKey : Option κ → Option (Page ρ κ)
  | none => some ((pagingByKey key limit rows).pageAt 0)
  | some c =>
      if c ∈ rows.map key then
        some ((pagingByKey key limit rows).pageAt ((rows.map key).idxOf c + 1))
      else none

theorem serves_serveByKey (hnodup : (rows.map key).Nodup) :
    (pagingByKey key limit rows).Serves (serveByKey key limit rows) where
  first := rfl
  next := fun n hpos hlt => by
    have hbefore : n - 1 < (rows.map key).length := by
      rw [List.length_map]
      exact Nat.lt_of_le_of_lt (Nat.sub_le n 1) hlt
    have hcursor : (pagingByKey key limit rows).cursorAt n = (rows.map key)[n - 1] :=
      List.getD_eq_getElem _ _ hbefore
    rw [hcursor, serveByKey, if_pos (List.getElem_mem hbefore), hnodup.idxOf_getElem,
      Nat.sub_add_cancel hpos]

end ByKey

end LuxLedger.Foundation
