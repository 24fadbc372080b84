/-
  Foundation/KeyedStore.lean --- a map that keeps its keys in the order of their first
  use, and what it holds after a run of updates.

  A run groups its events by key: the value under a key is the fold of the events that
  have it, whatever comes between them.
-/
import Mathlib.Data.List.Nodup
import Mathlib.Data.List.Induction

set_option autoImplicit false

namespace LuxLedger.Foundation

/-! ## Lists of keys with values -/

section Lookup

variable {κ σ : Type} {entries entries' : List (κ × σ)} {key : κ}

/-- Where no key occurs twice, a lookup finds exactly what is there. -/
theorem lookup_eq_some_iff_mem [BEq κ] [LawfulBEq κ] (h : (entries.map Prod.fst).Nodup)
    {value : σ} :
    entries.lookup key = some value ↔ (key, value) ∈ entries := by
  induction entries with
  | nil => simp
  | cons e rest ih =>
      obtain ⟨hfresh, hrest⟩ := List.nodup_cons.mp h
      rw [List.lookup_cons, List.mem_cons]
      by_cases hkey : key = e.1
      · have hnot : (key, value) ∉ rest := fun hmem =>
          hfresh (hkey ▸ List.mem_map_of_mem (f := Prod.fst) hmem)
        simp only [beq_iff_eq.mpr hkey, Option.some.injEq, hnot, or_false]
        constructor
        · rintro rfl
          exact Prod.ext hkey rfl
        · rintro rfl
          rfl
      · have hne : (key == e.1) = false := beq_eq_false_iff_ne.mpr hkey
        have hother : (key, value) ≠ e := fun heq => hkey (congrArg Prod.fst heq)
        simp only [hne, hother, false_or]
        exact ih hrest

/-- The order of the entries does not matter to a lookup. -/
theorem lookup_perm [BEq κ] [LawfulBEq κ] (h : (entries.map Prod.fst).Nodup)
    (hperm : entries.Perm entries') :
    entries.lookup key = entries'.lookup key := by
  have h' : (entries'.map Prod.fst).Nodup := (hperm.map Prod.fst).nodup_iff.mp h
  refine Option.ext fun value => ?_
  rw [lookup_eq_some_iff_mem h, lookup_eq_some_iff_mem h', hperm.mem_iff]

/-- The entry of a key is its only one. -/
theorem filter_key [DecidableEq κ] [BEq κ] [LawfulBEq κ]
    (h : (entries.map Prod.fst).Nodup) :
    entries.filter (fun e => e.1 = key) = ((entries.lookup key).map fun v => (key, v)).toList := by
  induction entries with
  | nil => rfl
  | cons e rest ih =>
      obtain ⟨hfresh, hrest⟩ := List.nodup_cons.mp h
      rw [List.lookup_cons, List.filter_cons]
      by_cases hkey : e.1 = key
      · have hnone : rest.filter (fun e => e.1 = key) = [] := by
          refine List.filter_eq_nil_iff.mpr fun f hf hfkey => hfresh ?_
          rw [hkey, ← of_decide_eq_true hfkey]
          exact List.mem_map_of_mem hf
        rw [if_pos (decide_eq_true hkey), hnone, beq_iff_eq.mpr hkey.symm, ← hkey]
        rfl
      · have hne : (key == e.1) = false := beq_eq_false_iff_ne.mpr fun heq => hkey heq.symm
        rw [if_neg (by simpa using hkey), ih hrest, hne]

end Lookup

/-! ## Stores -/

/-- Keys with their values, each key once. -/
structure KeyedStore (κ σ : Type) where
  entries : List (κ × σ)
  nodup : (entries.map Prod.fst).Nodup

namespace KeyedStore

variable {κ σ ε τ : Type} [DecidableEq κ]

/-- The store without entries. -/
def empty : KeyedStore κ σ := ⟨[], List.nodup_nil⟩

/-- The value of a key. -/
def get? (store : KeyedStore κ σ) (key : κ) : Option σ := store.entries.lookup key

/-- A key that is there keeps its place, a new one comes last. -/
def setEntry (entries : List (κ × σ)) (key : κ) (value : σ) : List (κ × σ) :=
  if key ∈ entries.map Prod.fst then
    entries.map fun e => if e.1 = key then (key, value) else e
  else entries ++ [(key, value)]

theorem nodup_setEntry {entries : List (κ × σ)} (h : (entries.map Prod.fst).Nodup) (key : κ)
    (value : σ) : ((setEntry entries key value).map Prod.fst).Nodup := by
  unfold setEntry
  split_ifs with hkey
  · have hsame : (entries.map fun e => if e.1 = key then (key, value) else e).map Prod.fst =
        entries.map Prod.fst := by
      rw [List.map_map]
      refine List.map_congr_left fun e _ => ?_
      rw [Function.comp_apply]
      split_ifs with he
      · exact he.symm
      · rfl
    rwa [hsame]
  · rw [List.map_append, List.map_singleton]
    refine List.nodup_append.mpr ⟨h, List.nodup_singleton _, fun a ha b hb heq => hkey ?_⟩
    rw [List.mem_singleton.mp hb] at heq
    rwa [heq] at ha

/-- The store with a value of a key. -/
def set (store : KeyedStore κ σ) (key : κ) (value : σ) : KeyedStore κ σ :=
  ⟨setEntry store.entries key value, nodup_setEntry store.nodup key value⟩

section Entries

variable {store : KeyedStore κ σ} {key other : κ} {value : σ}

theorem get?_eq_some_iff : store.get? key = some value ↔ (key, value) ∈ store.entries :=
  lookup_eq_some_iff_mem store.nodup

theorem mem_set_iff {e : κ × σ} :
    e ∈ (store.set key value).entries ↔ e = (key, value) ∨ (e.1 ≠ key ∧ e ∈ store.entries) := by
  unfold set setEntry
  dsimp only
  split_ifs with hkey
  · obtain ⟨f, hf, hfkey⟩ := List.mem_map.mp hkey
    rw [List.mem_map]
    constructor
    · rintro ⟨g, hg, rfl⟩
      split_ifs with hgkey
      · exact Or.inl rfl
      · exact Or.inr ⟨hgkey, hg⟩
    · rintro (rfl | ⟨hne, he⟩)
      · exact ⟨f, hf, if_pos hfkey⟩
      · exact ⟨e, he, if_neg hne⟩
  · rw [List.mem_append, List.mem_singleton]
    constructor
    · rintro (he | rfl)
      · exact Or.inr ⟨fun hekey => hkey (hekey ▸ List.mem_map_of_mem he), he⟩
      · exact Or.inl rfl
    · rintro (rfl | ⟨-, he⟩)
      · exact Or.inr rfl
      · exact Or.inl he

theorem get?_set_self : (store.set key value).get? key = some value :=
  get?_eq_some_iff.mpr (mem_set_iff.mpr (Or.inl rfl))

theorem get?_set_of_ne (h : other ≠ key) :
    (store.set key value).get? other = store.get? other := by
  refine Option.ext fun v => ?_
  rw [get?_eq_some_iff, get?_eq_some_iff, mem_set_iff]
  constructor
  · rintro (heq | ⟨-, hmem⟩)
    · exact absurd (congrArg Prod.fst heq) h
    · exact hmem
  · exact fun hmem => Or.inr ⟨h, hmem⟩

end Entries

/-! ## Runs -/

/-- `store.set(key, step(store.get(key)))`. -/
def update (store : KeyedStore κ σ) (key : κ) (step : Option σ → σ) : KeyedStore κ σ :=
  store.set key (step (store.get? key))

/-- The store after some events, each of which updates the value under its key. -/
def run (key : ε → κ) (step : ε → Option σ → σ) (events : List ε) : KeyedStore κ σ :=
  events.foldl (fun store e => store.update (key e) (step e)) empty

section Runs

variable {key : ε → κ} {step : ε → Option σ → σ}

theorem run_append_singleton (events : List ε) (e : ε) :
    run key step (events ++ [e]) = (run key step events).update (key e) (step e) :=
  List.foldl_concat ..

/-- Events with another key leave no trace in a value. -/
theorem get?_run (events : List ε) (k : κ) :
    (run key step events).get? k =
      (events.filter fun e => key e = k).foldl (fun s e => some (step e s)) none := by
  induction events using List.reverseRecOn with
  | nil => rfl
  | append_singleton events e ih =>
      rw [run_append_singleton, update, List.filter_append, List.foldl_append]
      by_cases hkey : key e = k
      · rw [← hkey] at ih ⊢
        have hself : [e].filter (fun f => key f = key e) = [e] :=
          List.filter_cons_of_pos (decide_eq_true rfl)
        rw [get?_set_self, hself, List.foldl_cons, List.foldl_nil, ih]
      · rw [get?_set_of_ne fun heq => hkey heq.symm, ih,
          List.filter_cons_of_neg (by simpa using hkey), List.filter_nil, List.foldl_nil]

/-- Every entry is there because of an event. -/
theorem exists_event {events : List ε} {entry : κ × σ}
    (h : entry ∈ (run key step events).entries) : ∃ e ∈ events, key e = entry.1 := by
  by_contra hnone
  have hget : (run key step events).get? entry.1 = some entry.2 := get?_eq_some_iff.mpr h
  have hempty : (events.filter fun e => key e = entry.1) = [] :=
    List.filter_eq_nil_iff.mpr fun e he hkey => hnone ⟨e, he, of_decide_eq_true hkey⟩
  rw [get?_run, hempty] at hget
  cases hget

end Runs

/-! ## Listings -/

/-- The values in some order. -/
def sorted (store : KeyedStore κ σ) (before : σ → σ → Bool) : List σ :=
  (store.entries.map Prod.snd).mergeSort before

/-- Of the sorted values, those that only the value under a key can be among. -/
theorem filter_sorted (store : KeyedStore κ σ) (before : σ → σ → Bool) {shows : σ → Bool} {key : κ}
    (h : ∀ e ∈ store.entries, e.1 ≠ key → shows e.2 = false) :
    (store.sorted before).filter shows = (store.get? key).toList.filter shows := by
  have hvalues : (store.entries.map Prod.snd).filter shows =
      (store.get? key).toList.filter shows := by
    have hkeyed : store.entries.filter (shows ∘ Prod.snd) =
        (store.entries.filter fun e => e.1 = key).filter (shows ∘ Prod.snd) := by
      rw [List.filter_filter]
      refine List.filter_congr fun e he => ?_
      by_cases hkey : e.1 = key
      · rw [decide_eq_true hkey, Bool.and_true]
      · rw [Function.comp_apply, h e he hkey, Bool.false_and]
    rw [List.filter_map, hkeyed, ← List.filter_map, filter_key store.nodup, get?]
    cases store.entries.lookup key <;> rfl
  have hperm : ((store.sorted before).filter shows).Perm
      ((store.get? key).toList.filter shows) := by
    rw [← hvalues]
    exact (List.mergeSort_perm _ _).filter _
  cases hget : store.get? key with
  | none =>
      rw [hget] at hperm
      exact hperm.eq_nil
  | some v =>
      rw [hget, Option.toList_some, List.filter_singleton] at hperm
      rw [Option.toList_some, List.filter_singleton]
      cases hv : shows v with
      | false =>
          rw [hv] at hperm
          exact hperm.eq_nil
      | true =>
          rw [hv] at hperm
          exact List.perm_singleton.mp hperm

/-- Values without rows add nothing to a listing. -/
theorem flatMap_filter_ne_nil (rows : σ → List τ) (values : List σ) :
    (values.filter fun s => !(rows s).isEmpty).flatMap rows = values.flatMap rows := by
  induction values with
  | nil => rfl
  | cons s rest ih =>
      rw [List.flatMap_cons, List.filter_cons, ← ih]
      cases hs : rows s with
      | nil => rfl
      | cons t ts =>
          rw [← hs, if_pos (by rw [hs]; rfl), List.flatMap_cons]

/-- Of a listing that shows the values in any order, what belongs to a key is what the value
under it shows. -/
theorem filter_flatMap_sorted (store : KeyedStore κ σ) (before : σ → σ → Bool)
    (rows : σ → List τ) (belongs : τ → Bool) (key : κ)
    (h : ∀ e ∈ store.entries, e.1 ≠ key → ∀ t ∈ rows e.2, belongs t = false) :
    ((store.sorted before).flatMap rows).filter belongs =
      ((store.get? key).map fun s => (rows s).filter belongs).getD [] := by
  have hother : ∀ e ∈ store.entries, e.1 ≠ key →
      (!((rows e.2).filter belongs).isEmpty) = false := by
    intro e he hne
    have hnone : (rows e.2).filter belongs = [] :=
      List.filter_eq_nil_iff.mpr fun t ht hbelongs => by simp [h e he hne t ht] at hbelongs
    rw [hnone]
    rfl
  rw [List.filter_flatMap, ← flatMap_filter_ne_nil, store.filter_sorted before hother,
    flatMap_filter_ne_nil]
  cases store.get? key with
  | none => rfl
  | some v => exact List.append_nil _

end KeyedStore

end LuxLedger.Foundation
