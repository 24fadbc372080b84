/-
  Javascript/JsonValue.lean --- JSON values as JavaScript holds them, and the text that
  `JSON.stringify` gives them.

  Strings are sequences of code units.  An object is the list of its entries in the order
  of enumeration: array indices first, in ascending order, then the other keys in the
  order in which they were added.
-/
import LuxLedger.Javascript.BigInt
import LuxLedger.Javascript.Text

set_option autoImplicit false

namespace LuxLedger.Javascript

open JsString

/-! ## Values -/

/-- The code units of the text of a number. -/
def isNumberUnit (u : CodeUnit) : Bool := isDigit u || u ∈ units "+-.e"

/-- A number by the text that `Number::toString` gives it. -/
structure JsonNumber where
  text : JsString
  start : ∃ u rest, text = u :: rest ∧ (isDigit u = true ∨ u = minusSign)
  written : ∀ u ∈ text, isNumberUnit u = true
  deriving DecidableEq

/-- A JSON value. -/
inductive JsonValue where
  | null
  | boolean (value : Bool)
  | number (value : JsonNumber)
  | string (value : JsString)
  | array (elements : List JsonValue)
  | object (entries : List (JsString × JsonValue))

namespace JsonValue

/-- Induction over a value: a property of all parts is a property of the whole. -/
@[elab_as_elim]
theorem induction {P : JsonValue → Prop} (null : P .null) (boolean : ∀ b, P (.boolean b))
    (number : ∀ n, P (.number n)) (string : ∀ s, P (.string s))
    (array : ∀ elements, (∀ v ∈ elements, P v) → P (.array elements))
    (object : ∀ entries, (∀ e ∈ entries, P e.2) → P (.object entries)) :
    ∀ v, P v := by
  intro v
  refine JsonValue.rec (motive_1 := P) (motive_2 := fun vs => ∀ v ∈ vs, P v)
    (motive_3 := fun es => ∀ e ∈ es, P e.2) (motive_4 := fun e => P e.2)
    null boolean number string array object ?_ ?_ ?_ ?_ ?_ v
  · simp
  · intro head tail hhead htail
    simpa using ⟨hhead, htail⟩
  · simp
  · intro head tail hhead htail e he
    rcases List.mem_cons.mp he with rfl | he
    · exact hhead
    · exact htail e he
  · exact fun _ _ hvalue => hvalue

end JsonValue

/-! ## Objects -/

/-- `Object.entries`. -/
abbrev Entries : Type := List (JsString × JsonValue)

/-- The array index that a key is, if it is one. -/
def arrayIndex? (key : JsString) : Option Nat :=
  if naturalText (digitsValue key) = key ∧ digitsValue key < 4294967295 then
    some (digitsValue key)
  else none

/-- The key stands before an array index. -/
def indexBefore (i : Nat) (key : JsString) : Bool :=
  match arrayIndex? key with
  | some j => decide (j < i)
  | none => false

/-- `object[key] = value` on an own property. -/
def putEntry (entries : Entries) (key : JsString) (value : JsonValue) : Entries :=
  if key ∈ entries.map (·.1) then
    entries.map fun e => if e.1 = key then (key, value) else e
  else
    match arrayIndex? key with
    | none => entries ++ [(key, value)]
    | some i =>
        entries.takeWhile (fun e => indexBefore i e.1) ++
          (key, value) :: entries.dropWhile fun e => indexBefore i e.1

/-- `Object.fromEntries`. -/
def fromEntries (entries : Entries) : Entries :=
  entries.foldl (fun object e => putEntry object e.1 e.2) []

/-- One key of an object is enumerated before another. -/
def KeyBefore (key later : JsString) : Prop :=
  match arrayIndex? key, arrayIndex? later with
  | some i, some j => i < j
  | some _, none => True
  | none, some _ => False
  | none, none => key ≠ later

theorem KeyBefore.ne {key later : JsString} (h : KeyBefore key later) : key ≠ later := by
  rintro rfl
  unfold KeyBefore at h
  cases hindex : arrayIndex? key with
  | none => simp [hindex] at h
  | some i => simp [hindex] at h

/-- An entry put after all that are enumerated before it is the last one. -/
theorem putEntry_last {entries : Entries} {key : JsString} {value : JsonValue}
    (h : ∀ e ∈ entries, KeyBefore e.1 key) :
    putEntry entries key value = entries ++ [(key, value)] := by
  have hfresh : key ∉ entries.map (·.1) := by
    intro hmem
    obtain ⟨e, he, hkey⟩ := List.mem_map.mp hmem
    exact (h e he).ne hkey
  rw [putEntry, if_neg hfresh]
  cases hindex : arrayIndex? key with
  | none => rfl
  | some i =>
      have hall : ∀ e ∈ entries, indexBefore i e.1 = true := by
        intro e he
        have hbefore := h e he
        unfold KeyBefore at hbefore
        unfold indexBefore
        cases hother : arrayIndex? e.1 with
        | none => simp [hother, hindex] at hbefore
        | some j => simpa [hother, hindex] using hbefore
      have htake : entries.takeWhile (fun e => indexBefore i e.1) = entries :=
        List.takeWhile_eq_self_iff.mpr hall
      have hdrop : entries.dropWhile (fun e => indexBefore i e.1) = [] :=
        List.dropWhile_eq_nil_iff.mpr hall
      simp only [htake, hdrop]

/-- The entries of an object make the object again. -/
theorem fromEntries_of_pairwise {entries : Entries}
    (h : entries.Pairwise fun e f => KeyBefore e.1 f.1) : fromEntries entries = entries := by
  induction entries using List.reverseRecOn with
  | nil => rfl
  | append_singleton entries e ih =>
      obtain ⟨hbefore, -, hlast⟩ := List.pairwise_append.mp h
      have hprevious := ih hbefore
      unfold fromEntries at hprevious ⊢
      rw [List.foldl_append, hprevious, List.foldl_cons, List.foldl_nil]
      exact putEntry_last fun f hf => hlast f hf e (List.mem_singleton_self e)

/-- Every object of the value has its entries in the order of enumeration. -/
inductive JsonValue.Enumerated : JsonValue → Prop
  | null : Enumerated .null
  | boolean (b : Bool) : Enumerated (.boolean b)
  | number (n : JsonNumber) : Enumerated (.number n)
  | string (s : JsString) : Enumerated (.string s)
  | array {elements : List JsonValue} (parts : ∀ v ∈ elements, Enumerated v) :
      Enumerated (.array elements)
  | object {entries : Entries} (ordered : entries.Pairwise fun e f => KeyBefore e.1 f.1)
      (parts : ∀ e ∈ entries, Enumerated e.2) : Enumerated (.object entries)

/-- What `JSON.parse` returns. -/
abbrev ParsedJson : Type := { v : JsonValue // v.Enumerated }

/-! ## `JSON.stringify` -/

/-- The quotation mark. -/
def quoteMark : CodeUnit := 34

/-- The backslash. -/
def backslash : CodeUnit := 92

/-- A digit of a Unicode escape. -/
def hexUnit (d : Nat) : CodeUnit := if d < 10 then UInt16.ofNat (48 + d) else UInt16.ofNat (87 + d)

/-- `\uXXXX`. -/
def unicodeEscape (u : CodeUnit) : JsString :=
  [backslash, 117, hexUnit (u.toNat / 4096), hexUnit (u.toNat / 256 % 16),
    hexUnit (u.toNat / 16 % 16), hexUnit (u.toNat % 16)]

/-- A leading surrogate. -/
def isLeadSurrogate (u : CodeUnit) : Bool := 0xD800 ≤ u && u ≤ 0xDBFF

/-- A trailing surrogate. -/
def isTrailSurrogate (u : CodeUnit) : Bool := 0xDC00 ≤ u && u ≤ 0xDFFF

/-- The text of a code unit that is no half of a surrogate pair. -/
def escapeUnit (u : CodeUnit) : JsString :=
  if u = 8 then [backslash, 98]
  else if u = 9 then [backslash, 116]
  else if u = 10 then [backslash, 110]
  else if u = 12 then [backslash, 102]
  else if u = 13 then [backslash, 114]
  else if u = quoteMark ∨ u = backslash then [backslash, u]
  else if u < 32 ∨ isLeadSurrogate u ∨ isTrailSurrogate u then unicodeEscape u
  else [u]

/-- The text of a string between its quotes. -/
def quoteBody : JsString → JsString
  | u :: w :: rest =>
      if isLeadSurrogate u ∧ isTrailSurrogate w then u :: w :: quoteBody rest
      else escapeUnit u ++ quoteBody (w :: rest)
  | [u] => escapeUnit u
  | [] => []

/-- `JSON.stringify` of a string. -/
def quote (s : JsString) : JsString := quoteMark :: quoteBody s ++ [quoteMark]

mutual

/-- `JSON.stringify(value)`. -/
def stringify : JsonValue → JsString
  | .null => units "null"
  | .boolean b => if b then units "true" else units "false"
  | .number n => n.text
  | .string s => quote s
  | .array elements => units "[" ++ (units ",").intercalate (stringifyAll elements) ++ units "]"
  | .object entries => units "\x7b" ++ (units ",").intercalate (stringifyEntries entries) ++
      units "\x7d"

/-- The elements of an array, written. -/
def stringifyAll : List JsonValue → List JsString
  | [] => []
  | v :: rest => stringify v :: stringifyAll rest

/-- The entries of an object, written. -/
def stringifyEntries : List (JsString × JsonValue) → List JsString
  | [] => []
  | (k, v) :: rest => (quote k ++ units ":" ++ stringify v) :: stringifyEntries rest

end

theorem stringifyAll_eq_map (elements : List JsonValue) :
    stringifyAll elements = elements.map stringify := by
  induction elements with
  | nil => rfl
  | cons v rest ih => rw [stringifyAll, ih, List.map_cons]

theorem stringifyEntries_eq_map (entries : Entries) :
    stringifyEntries entries = entries.map fun e => quote e.1 ++ units ":" ++ stringify e.2 := by
  induction entries with
  | nil => rfl
  | cons e rest ih => rw [stringifyEntries, ih, List.map_cons]

/-! ### The text has no control character -/

/-- At or above the space. -/
def Printed (s : JsString) : Prop := ∀ u ∈ s, 32 ≤ u

instance (s : JsString) : Decidable (Printed s) :=
  decidable_of_iff (s.all (fun u => decide (32 ≤ u)) = true)
    (by simp only [List.all_eq_true, decide_eq_true_eq, Printed])

section Printed

variable {s t : JsString}

theorem Printed.append (hs : Printed s) (ht : Printed t) : Printed (s ++ t) :=
  List.forall_mem_append.mpr ⟨hs, ht⟩

theorem Printed.intercalate {sep : JsString} (hsep : Printed sep) {texts : List JsString}
    (h : ∀ t ∈ texts, Printed t) : Printed (sep.intercalate texts) := by
  intro u hu
  rcases mem_of_mem_intercalate hu with hmem | ⟨text, htext, hmem⟩
  · exact hsep u hmem
  · exact h text htext u hmem

theorem printed_hexUnit {d : Nat} (hd : d < 16) : 32 ≤ hexUnit d := by
  rw [hexUnit, UInt16.le_iff_toNat_le]
  split_ifs
  all_goals
    rw [UInt16.toNat_ofNat_of_lt' (by simp only [UInt16.size]; omega)]
    exact Nat.le_trans (by decide) (Nat.le_add_right _ d)

theorem printed_unicodeEscape (u : CodeUnit) : Printed (unicodeEscape u) := by
  have hlt : u.toNat < 65536 := u.toNat_lt
  have hhigh : u.toNat / 4096 < 16 := by omega
  simp only [Printed, unicodeEscape, List.forall_mem_cons, List.not_mem_nil, false_implies,
    implies_true, and_true]
  exact ⟨by decide, by decide, printed_hexUnit hhigh, printed_hexUnit (Nat.mod_lt _ (by decide)),
    printed_hexUnit (Nat.mod_lt _ (by decide)), printed_hexUnit (Nat.mod_lt _ (by decide))⟩

theorem printed_escapeUnit (u : CodeUnit) : Printed (escapeUnit u) := by
  have hletter : ∀ c : CodeUnit, 32 ≤ c → Printed [backslash, c] := fun c hc =>
    List.forall_mem_cons.mpr ⟨by decide, List.forall_mem_singleton.mpr hc⟩
  unfold escapeUnit
  split_ifs with _ _ _ _ _ hmark hescaped
  · exact hletter 98 (by decide)
  · exact hletter 116 (by decide)
  · exact hletter 110 (by decide)
  · exact hletter 102 (by decide)
  · exact hletter 114 (by decide)
  · refine hletter u ?_
    rcases hmark with rfl | rfl <;> decide
  · exact printed_unicodeEscape u
  · exact List.forall_mem_singleton.mpr (UInt16.not_lt.mp fun hlt => hescaped (Or.inl hlt))

theorem printed_quoteBody (s : JsString) : Printed (quoteBody s) := by
  have hsurrogate : ∀ u : CodeUnit, 0xD800 ≤ u → 32 ≤ u := fun u hu =>
    UInt16.le_trans (by decide) hu
  induction s using quoteBody.induct with
  | case1 u w rest hpair ih =>
      obtain ⟨hlead, htrail⟩ := hpair
      simp only [isLeadSurrogate, isTrailSurrogate, Bool.and_eq_true, decide_eq_true_eq]
        at hlead htrail
      rw [quoteBody, if_pos (by simp [isLeadSurrogate, isTrailSurrogate, hlead, htrail])]
      exact List.forall_mem_cons.mpr ⟨hsurrogate u hlead.1, List.forall_mem_cons.mpr
        ⟨UInt16.le_trans (by decide) htrail.1, ih⟩⟩
  | case2 u w rest hpair ih =>
      rw [quoteBody, if_neg hpair]
      exact (printed_escapeUnit u).append ih
  | case3 u => exact printed_escapeUnit u
  | case4 => exact List.forall_mem_nil _

theorem printed_quote (s : JsString) : Printed (quote s) :=
  Printed.append (List.forall_mem_cons.mpr ⟨by decide, printed_quoteBody s⟩)
    (List.forall_mem_singleton.mpr (by decide))

/-- The text of a value holds no control character. -/
theorem printed_stringify (v : JsonValue) : Printed (stringify v) := by
  have hcomma : Printed (units ",") := by decide +kernel
  induction v using JsonValue.induction with
  | null => decide +kernel
  | boolean b => cases b <;> decide +kernel
  | number n =>
      intro u hu
      have hunit := n.written u hu
      have hunits : units "+-.e" = [43, 45, 46, 101] := by decide +kernel
      simp only [isNumberUnit, isDigit, hunits, Bool.or_eq_true, Bool.and_eq_true,
        decide_eq_true_eq] at hunit
      rcases hunit with hdigit | hmark
      · exact UInt16.le_trans (by decide) hdigit.1
      · have hmarks : Printed [43, 45, 46, 101] := by decide
        exact hmarks u hmark
  | string s => exact printed_quote s
  | array elements ih =>
      rw [stringify, stringifyAll_eq_map]
      have hparts : Printed ((units ",").intercalate (elements.map stringify)) :=
        Printed.intercalate hcomma (List.forall_mem_map.mpr ih)
      exact (Printed.append (by decide +kernel) hparts).append (by decide +kernel)
  | object entries ih =>
      rw [stringify, stringifyEntries_eq_map]
      have hentry : ∀ e ∈ entries, Printed (quote e.1 ++ units ":" ++ stringify e.2) :=
        fun e he => ((printed_quote e.1).append (by decide +kernel)).append (ih e he)
      have hparts := Printed.intercalate hcomma (List.forall_mem_map.mpr hentry)
      exact (Printed.append (by decide +kernel) hparts).append (by decide +kernel)

end Printed

end LuxLedger.Javascript
