/-
  Javascript/Text.lean --- the string operations of JavaScript that the server and
  its tokens use.

  A string is a Lean `String`, so without lone surrogates.  Each operation is stated
  on the list of its characters, and comes with what it does to that list.
-/
import Mathlib.Data.List.DropRight
import Mathlib.Data.List.TakeWhile

set_option autoImplicit false

namespace LuxLedger.Javascript

/-! ## Searching and slicing -/

/-- `s.startsWith(head)`. -/
def startsWith (s head : String) : Bool := head.toList.isPrefixOf s.toList

theorem startsWith_iff {s head : String} :
    startsWith s head = true ↔ head.toList <+: s.toList := by
  rw [startsWith, List.isPrefixOf_iff_prefix]

theorem startsWith_append (head s : String) : startsWith (head ++ s) head = true := by
  rw [startsWith_iff, String.toList_append]
  exact List.prefix_append _ _

/-- `s.indexOf(c)` for a single character; `none` stands for `-1`. -/
def indexOf (s : String) (c : Char) : Option Nat := s.toList.findIdx? fun d => d = c

/-- `s.slice(0, stop)`. -/
def sliceTo (s : String) (stop : Nat) : String := String.ofList (s.toList.take stop)

/-- `s.slice(start)`. -/
def sliceFrom (s : String) (start : Nat) : String := String.ofList (s.toList.drop start)

theorem sliceFrom_append (head s : String) : sliceFrom (head ++ s) head.length = s := by
  rw [sliceFrom, String.toList_append, ← String.length_toList, List.drop_left, String.ofList_toList]

/-- The part of a string before the first occurrence of a character. -/
def cutAt (s : String) (c : Char) : String :=
  match indexOf s c with
  | none => s
  | some i => sliceTo s i

theorem toList_cutAt (s : String) (c : Char) :
    (cutAt s c).toList = s.toList.takeWhile fun d => d ≠ c := by
  have htake : (s.toList.takeWhile fun d => !decide (d = c)) =
      s.toList.take (s.toList.findIdx fun d => decide (d = c)) := by
    rw [List.takeWhile_eq_take_findIdx_not]
    simp only [Bool.not_not]
  unfold cutAt indexOf
  cases hfound : s.toList.findIdx? fun d => d = c with
  | none =>
      rw [List.findIdx?_eq_none_iff] at hfound
      symm
      rw [List.takeWhile_eq_self_iff]
      intro d hd
      simpa using hfound d hd
  | some i =>
      have hindex : s.toList.findIdx (fun d => decide (d = c)) = i := by
        rw [List.findIdx?_eq_some_iff_findIdx_eq] at hfound
        exact hfound.2
      simp only [sliceTo, String.toList_ofList, decide_not]
      rw [htake, hindex]

/-- Cutting does not reach into a head that is free of the character. -/
theorem startsWith_cutAt {s head : String} {c : Char} (hfree : c ∉ head.toList) :
    startsWith (cutAt s c) head = startsWith s head := by
  rw [Bool.eq_iff_iff, startsWith_iff, startsWith_iff, toList_cutAt]
  constructor
  · exact fun h => h.trans (List.takeWhile_prefix _)
  · rintro ⟨rest, hrest⟩
    rw [← hrest, List.takeWhile_append_of_pos]
    · exact List.prefix_append _ _
    · intro d hd
      simpa using fun heq : d = c => hfree (heq ▸ hd)

/-- `s.split(sep)` for a single character. -/
def split (s : String) (sep : Char) : List String := (s.toList.splitOn sep).map String.ofList

theorem split_of_not_mem {s : String} {sep : Char} (h : sep ∉ s.toList) : split s sep = [s] := by
  rw [split, List.splitOn_eq_singleton h, List.map_singleton, String.ofList_toList]

theorem split_append {s t between : String} {sep : Char} (h : sep ∉ s.toList)
    (hbetween : between.toList = [sep]) : split (s ++ between ++ t) sep = s :: split t sep := by
  rw [split, String.toList_append, String.toList_append, hbetween, List.append_assoc,
    List.singleton_append, List.splitOn_append_cons_self_of_not_mem h, List.map_cons,
    String.ofList_toList, split]

theorem intercalate_append {α : Type} {sep : List α} {xs ys : List (List α)} (hxs : xs ≠ [])
    (hys : ys ≠ []) :
    sep.intercalate (xs ++ ys) = sep.intercalate xs ++ sep ++ sep.intercalate ys := by
  induction xs with
  | nil => exact absurd rfl hxs
  | cons x rest ih =>
      cases rest with
      | nil =>
          rw [List.singleton_append, List.intercalate_cons_of_ne_nil hys,
            List.intercalate_singleton]
      | cons x' rest =>
          rw [List.cons_append, List.cons_append, List.intercalate_cons_cons, ← List.cons_append,
            ih (List.cons_ne_nil x' rest), List.intercalate_cons_cons]
          simp only [List.append_assoc]

theorem mem_of_mem_intercalate {α : Type} {sep : List α} {xs : List (List α)} {a : α}
    (h : a ∈ sep.intercalate xs) : a ∈ sep ∨ ∃ x ∈ xs, a ∈ x := by
  induction xs with
  | nil => exact absurd h List.not_mem_nil
  | cons x rest ih =>
      have hrest : (a ∈ sep ∨ ∃ y ∈ rest, a ∈ y) → a ∈ sep ∨ ∃ y ∈ x :: rest, a ∈ y :=
        Or.imp_right fun ⟨y, hy, ha⟩ => ⟨y, List.mem_cons_of_mem x hy, ha⟩
      cases rest with
      | nil =>
          rw [List.intercalate_singleton] at h
          exact Or.inr ⟨x, List.mem_cons_self, h⟩
      | cons x' rest =>
          rw [List.intercalate_cons_cons, List.mem_append, List.mem_append] at h
          rcases h with (hx | hsep) | htail
          · exact Or.inr ⟨x, List.mem_cons_self, hx⟩
          · exact Or.inl hsep
          · exact hrest (ih htail)

/-- The WhiteSpace and LineTerminator characters of ECMAScript. -/
def isWhiteSpace (c : Char) : Bool :=
  c.toNat ∈ [0x09, 0x0A, 0x0B, 0x0C, 0x0D, 0x20, 0xA0, 0x1680, 0x2028, 0x2029, 0x202F, 0x205F,
    0x3000, 0xFEFF] || (0x2000 ≤ c.toNat && c.toNat ≤ 0x200A)

/-- `s.trim()`. -/
def trim (s : String) : String :=
  String.ofList
    (((s.toList.dropWhile isWhiteSpace).reverse.dropWhile isWhiteSpace).reverse)

theorem trim_eq_self {s : String} (h : s.toList.all (fun c => !isWhiteSpace c) = true) :
    trim s = s := by
  have hkept : ∀ cs : List Char, cs.all (fun c => !isWhiteSpace c) = true →
      cs.dropWhile isWhiteSpace = cs := by
    intro cs hcs
    cases cs with
    | nil => rfl
    | cons c rest =>
        rw [List.all_cons, Bool.and_eq_true, Bool.not_eq_true'] at hcs
        rw [List.dropWhile_cons_of_neg (by simp [hcs.1])]
  rw [trim, hkept _ h, hkept _ (by rw [List.all_reverse]; exact h), List.reverse_reverse,
    String.ofList_toList]

/-- Trimming twice is trimming once. -/
theorem trim_trim (s : String) : trim (trim s) = trim s := by
  have hprefix : (s.toList.dropWhile isWhiteSpace).rdropWhile isWhiteSpace <+:
      s.toList.dropWhile isWhiteSpace := List.rdropWhile_prefix _ _
  have hfront : ((s.toList.dropWhile isWhiteSpace).rdropWhile isWhiteSpace).dropWhile
      isWhiteSpace = (s.toList.dropWhile isWhiteSpace).rdropWhile isWhiteSpace := by
    cases hcs : (s.toList.dropWhile isWhiteSpace).rdropWhile isWhiteSpace with
    | nil => rfl
    | cons c rest =>
        obtain ⟨more, hmore⟩ := hcs ▸ hprefix
        have hhead := List.head?_dropWhile_not isWhiteSpace s.toList
        rw [← hmore, List.cons_append, List.head?_cons] at hhead
        exact List.dropWhile_cons_of_neg (by simp [hhead])
  calc trim (trim s)
      = String.ofList (((String.ofList ((s.toList.dropWhile isWhiteSpace).rdropWhile
          isWhiteSpace)).toList.dropWhile isWhiteSpace).rdropWhile isWhiteSpace) := rfl
    _ = String.ofList ((s.toList.dropWhile isWhiteSpace).rdropWhile isWhiteSpace) := by
        rw [String.toList_ofList, hfront, List.rdropWhile_idempotent]
    _ = trim s := rfl

/-! ## Values of `JSON.parse` -/

/-- A parsed JSON value.  Numbers are exact. -/
inductive Json where
  | null
  | bool (value : Bool)
  | number (value : Rat)
  | string (value : String)
  | array (items : List Json)
  | object (fields : List (String × Json))

namespace Json

/-- Reading a property; `undefined` is `none`. -/
def field? (value : Json) (name : String) : Option Json :=
  match value with
  | .object fields => (fields.find? fun f => f.1 = name).map (·.2)
  | _ => none

/-- The property when it is a string. -/
def stringField? (value : Json) (name : String) : Option String :=
  match value.field? name with
  | some (.string s) => some s
  | _ => none

/-- The property when it is a number. -/
def numberField? (value : Json) (name : String) : Option Rat :=
  match value.field? name with
  | some (.number n) => some n
  | _ => none

end Json

end LuxLedger.Javascript
