/-
  Javascript/TypeReading.lean --- what the reader of type expressions reads from each form
  of type that is written out.
-/
import LuxLedger.Javascript.TypeSyntax

set_option autoImplicit false

namespace LuxLedger.Javascript

open Foundation JsString

/-! ## Marks -/

section Marks

theorem units_space : units " " = [32] := by decide +kernel

theorem units_comma : units "," = [44] := by decide +kernel

theorem units_colon : units ": " = [58, 32] := by decide +kernel

theorem units_semicolon : units ";" = [59] := by decide +kernel

theorem units_greater : units ">" = [62] := by decide +kernel

theorem units_question : units "?" = [63] := by decide +kernel

theorem units_bar : units " | " = [32, 124, 32] := by decide +kernel

theorem units_openBrace : units "\x7b " = [123, 32] := by decide +kernel

theorem units_closeBrace : units " \x7d" = [32, 125] := by decide +kernel

theorem units_Array : units "Array<" = units "Array" ++ [60] := by decide +kernel

end Marks

/-! ## What may follow -/

/-- A unit that ends every token before it. -/
def isDelimiter (u : CodeUnit) : Bool := u ∈ [32, 10, 59, 62, 44, 125, 93]

/-- The rest starts with what ends a type, if with anything. -/
def Delimited (rest : JsString) : Prop := ∀ u ∈ rest.head?, isDelimiter u = true

/-- A unit that begins a token of a type. -/
def isOpening (u : CodeUnit) : Bool := !gap u && !isBar u && !isDelimiter u

/-- No further alternative follows. -/
def Ended (rest : JsString) : Prop := Delimited rest ∧ Reader.past gap isBar rest = none

section Following

variable {u : CodeUnit} {text rest : JsString}

theorem isDelimiter_cases (h : isDelimiter u = true) :
    u = 32 ∨ u = 10 ∨ u = 59 ∨ u = 62 ∨ u = 44 ∨ u = 125 ∨ u = 93 := by
  simpa only [isDelimiter, decide_eq_true_eq, List.mem_cons, List.not_mem_nil, or_false] using h

theorem isOpening_iff :
    isOpening u = true ↔ gap u = false ∧ isBar u = false ∧ isDelimiter u = false := by
  simp only [isOpening, Bool.and_eq_true, Bool.not_eq_true', and_assoc]

/-- No delimiter is a unit of a name or of a number, or opens a bracket. -/
theorem isDelimiter_other (h : isDelimiter u = true) :
    isNameUnit u = false ∧ isNumberUnit u = false ∧ u ≠ 91 := by
  rcases isDelimiter_cases h with rfl | rfl | rfl | rfl | rfl | rfl | rfl <;> decide +kernel

theorem delimited_nil : Delimited [] := fun u hu => by cases hu

theorem delimited_cons (h : isDelimiter u = true) : Delimited (u :: rest) := by
  intro w hw
  cases hw
  exact h

theorem ended_nil : Ended [] := ⟨delimited_nil, rfl⟩

/-- A mark that closes a type. -/
def isCloser (u : CodeUnit) : Bool := u ∈ [59, 62, 44, 125, 93]

theorem ended_cons (h : isCloser u = true) : Ended (u :: rest) := by
  have hcases : u = 59 ∨ u = 62 ∨ u = 44 ∨ u = 125 ∨ u = 93 := by
    simpa only [isCloser, decide_eq_true_eq, List.mem_cons, List.not_mem_nil, or_false] using h
  have hother : isDelimiter u = true ∧ gap u = false ∧ isBar u = false := by
    rcases hcases with rfl | rfl | rfl | rfl | rfl <;> decide
  exact ⟨delimited_cons hother.1, Reader.past_other hother.2.1 hother.2.2⟩

/-- Units of a kind are taken up to the first that is of another. -/
theorem span_append {kind : CodeUnit → Bool} (htext : Every kind text)
    (hrest : ∀ u ∈ rest.head?, kind u = false) :
    (text ++ rest).takeWhile kind = text ∧ (text ++ rest).dropWhile kind = rest := by
  rw [List.takeWhile_append_of_pos htext, List.dropWhile_append_of_pos htext]
  cases rest with
  | nil => exact ⟨List.append_nil text, rfl⟩
  | cons u rest =>
      have hu : kind u = false := hrest u rfl
      rw [List.takeWhile_cons_of_neg (by simp [hu]), List.dropWhile_cons_of_neg (by simp [hu])]
      exact ⟨List.append_nil text, rfl⟩

theorem arraySuffixes_delimited (type : TsType) (hrest : Delimited rest) :
    arraySuffixes type rest = (type, rest) := by
  match rest with
  | [] => rfl
  | [_] => rfl
  | u :: w :: rest =>
      have hu : u ≠ 91 := (isDelimiter_other (hrest u rfl)).2.2
      rw [arraySuffixes, if_neg fun h => hu h.1]

end Following

/-! ## Units that begin a token -/

section Starts

variable {u : CodeUnit} {name rest : JsString}

theorem gap_eq_false (hlow : 33 ≤ u) (hhigh : u ≤ 126) : gap u = false := by
  have hlow' : 33 ≤ u.toNat := UInt16.le_iff_toNat_le.mp hlow
  have hhigh' : u.toNat ≤ 126 := UInt16.le_iff_toNat_le.mp hhigh
  simp only [gap, JsString.isWhiteSpace, Bool.or_eq_false_iff, Bool.and_eq_false_iff,
    decide_eq_false_iff_not, List.mem_cons, List.not_mem_nil, or_false, not_or,
    UInt16.le_iff_toNat_le, ← UInt16.toNat_inj, UInt16.reduceToNat]
  omega

theorem isOpening_of_range (hlow : 33 ≤ u.toNat) (hhigh : u.toNat ≤ 122)
    (hother : u.toNat ≠ 59 ∧ u.toNat ≠ 62 ∧ u.toNat ≠ 44 ∧ u.toNat ≠ 93) : isOpening u = true := by
  rw [isOpening_iff]
  refine ⟨gap_eq_false (UInt16.le_iff_toNat_le.mpr hlow)
    (UInt16.le_iff_toNat_le.mpr (Nat.le_trans hhigh (by decide))), ?_⟩
  simp only [isBar, isDelimiter, decide_eq_false_iff_not, List.mem_cons, List.not_mem_nil,
    or_false, not_or, ← UInt16.toNat_inj, UInt16.reduceToNat]
  omega

theorem isNameStart_other (h : isNameStart u = true) :
    isOpening u = true ∧ u ≠ quoteMark ∧ u ≠ 123 ∧ u ≠ 91 ∧
      (isDigit u || u = minusSign) = false := by
  have hrange : (65 ≤ u.toNat ∧ u.toNat ≤ 90) ∨ (97 ≤ u.toNat ∧ u.toNat ≤ 122) ∨
      u.toNat = 95 := by
    simpa only [isNameStart, isLetter, Bool.or_eq_true, Bool.and_eq_true, decide_eq_true_eq,
      UInt16.le_iff_toNat_le, ← UInt16.toNat_inj, UInt16.reduceToNat, or_assoc] using h
  refine ⟨isOpening_of_range (by omega) (by omega) (by omega), ?_⟩
  simp only [quoteMark, isDigit, minusSign, ne_eq, decide_eq_false_iff_not,
    Bool.or_eq_false_iff, Bool.and_eq_false_iff, UInt16.le_iff_toNat_le, ← UInt16.toNat_inj,
    UInt16.reduceToNat]
  omega

theorem isNumberStart_other (h : isDigit u = true ∨ u = minusSign) :
    isOpening u = true ∧ u ≠ quoteMark ∧ u ≠ 123 ∧ u ≠ 91 := by
  have hrange : (48 ≤ u.toNat ∧ u.toNat ≤ 57) ∨ u.toNat = 45 := by
    simpa only [isDigit, minusSign, Bool.and_eq_true, decide_eq_true_eq, UInt16.le_iff_toNat_le,
      ← UInt16.toNat_inj, UInt16.reduceToNat] using h
  refine ⟨isOpening_of_range (by omega) (by omega) (by omega), ?_⟩
  simp only [quoteMark, ne_eq, ← UInt16.toNat_inj, UInt16.reduceToNat]
  omega

theorem IsTypeName.cons (h : IsTypeName name) :
    ∃ u rest, name = u :: rest ∧ isNameStart u = true ∧ Every isNameUnit rest := by
  obtain ⟨hstart, hunits⟩ := h
  cases name with
  | nil => cases hstart
  | cons u rest =>
      exact ⟨u, rest, rfl, by simpa using hstart, (List.forall_mem_cons.mp hunits).2⟩

theorem takes_readName (h : IsTypeName name) :
    Takes readName name name fun rest => ∀ u ∈ rest.head?, isNameUnit u = false := by
  obtain ⟨u, tail, rfl, hu, htail⟩ := h.cons
  intro rest hrest
  obtain ⟨htake, hdrop⟩ := span_append htail hrest
  have hgap : gap u = false := (isOpening_iff.mp (isNameStart_other hu).1).1
  simp only [readName, List.cons_append, List.dropWhile_cons, hgap, Bool.false_eq_true, if_false,
    hu, if_true, htake, hdrop]

theorem readName_blank (hu : gap u = true) : readName (u :: rest) = readName rest := by
  simp only [readName, List.dropWhile_cons, hu, if_true]

/-- A type that begins with a name is read by its name. -/
theorem readAtom_name (inner : Reader CodeUnit TsUnion) (h : IsTypeName name)
    (hrest : ∀ u ∈ rest.head?, isNameUnit u = false) :
    readAtom inner (name ++ rest) = readNamed inner name rest := by
  obtain ⟨u, tail, rfl, hu, htail⟩ := h.cons
  obtain ⟨htake, hdrop⟩ := span_append htail hrest
  obtain ⟨-, hquote, hbrace, hbracket, hnumber⟩ := isNameStart_other hu
  rw [List.cons_append, readAtom, if_neg hquote, if_neg hbrace, if_neg hbracket,
    if_neg (by rw [hnumber]; exact Bool.false_ne_true), if_pos hu, htake, hdrop]

end Starts

/-! ## Quoted strings -/

section Quoted

variable {u : CodeUnit} {text rest last others : JsString}

theorem hexDigit_hexUnit {d : Nat} (hd : d < 16) : hexDigit? (hexUnit d) = some d := by
  interval_cases d <;> rfl

theorem readUnit_unicodeEscape (u : CodeUnit) (rest : JsString) :
    readUnit (unicodeEscape u ++ rest) = some (u, rest) := by
  have hlt : u.toNat < 65536 := u.toNat_lt
  have hfirst := hexDigit_hexUnit (show u.toNat / 4096 < 16 by omega)
  have hsecond := hexDigit_hexUnit (Nat.mod_lt (u.toNat / 256) (show 0 < 16 by omega))
  have hthird := hexDigit_hexUnit (Nat.mod_lt (u.toNat / 16) (show 0 < 16 by omega))
  have hfourth := hexDigit_hexUnit (Nat.mod_lt u.toNat (show 0 < 16 by omega))
  have hvalue : u.toNat / 4096 * 4096 + u.toNat / 256 % 16 * 256 + u.toNat / 16 % 16 * 16 +
      u.toNat % 16 = u.toNat := by omega
  simp only [unicodeEscape, List.cons_append, List.nil_append, readUnit, if_true, readEscape,
    hfirst, hsecond, hthird, hfourth, Option.bind_eq_bind, Option.bind_some, hvalue,
    UInt16.ofNat_toNat]

theorem readUnit_plain (hslash : u ≠ backslash) (hquote : u ≠ quoteMark) (hfeed : u ≠ 10)
    (hreturn : u ≠ 13) : readUnit (u :: rest) = some (u, rest) := by
  rw [readUnit, if_neg hslash, if_neg (by simp [hquote, hfeed, hreturn])]

theorem readUnit_escapeUnit (u : CodeUnit) (rest : JsString) :
    readUnit (escapeUnit u ++ rest) = some (u, rest) := by
  unfold escapeUnit
  split_ifs with hback htab hfeed hform hreturn hmark hcontrol
  · rw [hback]
    rfl
  · rw [htab]
    rfl
  · rw [hfeed]
    rfl
  · rw [hform]
    rfl
  · rw [hreturn]
    rfl
  · rcases hmark with rfl | rfl <;> rfl
  · exact readUnit_unicodeEscape u rest
  · rw [not_or] at hmark
    exact readUnit_plain hmark.2 hmark.1 hfeed hreturn

/-- A surrogate stands for itself. -/
theorem readUnit_surrogate (hu : 0xD800 ≤ u) : readUnit (u :: rest) = some (u, rest) := by
  have hne : ∀ w : CodeUnit, w < 0xD800 → u ≠ w := by
    rintro w hw rfl
    exact UInt16.not_lt.mpr hu hw
  exact readUnit_plain (hne _ (by decide)) (hne _ (by decide)) (hne _ (by decide))
    (hne _ (by decide))

theorem readUnits_next {n : Nat} (hunit : readUnit text = some (u, rest))
    (hothers : readUnits n rest = some (others, last)) :
    readUnits (n + 1) text = some (u :: others, last) := by
  have hhead : text.head? ≠ some quoteMark := by
    intro hhead
    obtain ⟨tail, rfl⟩ : ∃ tail, text = quoteMark :: tail := by
      cases text with
      | nil => cases hhead
      | cons w tail => exact ⟨tail, by rw [Option.some.inj hhead]⟩
    simp [readUnit, quoteMark, backslash] at hunit
  simp only [readUnits, if_neg hhead, hunit, Option.bind_eq_bind, Option.bind_some, hothers]

theorem readUnits_quoteBody (s : JsString) {n : Nat} (hn : s.length < n) (rest : JsString) :
    readUnits n (quoteBody s ++ quoteMark :: rest) = some (s, rest) := by
  induction s using quoteBody.induct generalizing n with
  | case1 u w s hpair ih =>
      obtain ⟨m, rfl⟩ : ∃ m, n = m + 2 := ⟨n - 2, by simp only [List.length_cons] at hn; omega⟩
      have hlead : 0xD800 ≤ u := by
        have hunit := hpair.1
        simp only [isLeadSurrogate, Bool.and_eq_true, decide_eq_true_eq] at hunit
        exact hunit.1
      have htrail : 0xD800 ≤ w := by
        have hunit := hpair.2
        simp only [isTrailSurrogate, Bool.and_eq_true, decide_eq_true_eq] at hunit
        exact UInt16.le_trans (by decide) hunit.1
      have hlength : s.length < m := by
        simp only [List.length_cons] at hn
        omega
      rw [quoteBody, if_pos hpair]
      exact readUnits_next (readUnit_surrogate hlead)
        (readUnits_next (readUnit_surrogate htrail) (ih hlength))
  | case2 u w s hpair ih =>
      obtain ⟨m, rfl⟩ : ∃ m, n = m + 1 := ⟨n - 1, by simp only [List.length_cons] at hn; omega⟩
      have hlength : (w :: s).length < m := by
        simp only [List.length_cons] at hn ⊢
        omega
      rw [quoteBody, if_neg hpair, List.append_assoc]
      exact readUnits_next (readUnit_escapeUnit u _) (ih hlength)
  | case3 u =>
      obtain ⟨m, rfl⟩ : ∃ m, n = m + 2 :=
        ⟨n - 2, by simp only [List.length_singleton] at hn; omega⟩
      exact readUnits_next (readUnit_escapeUnit u _) rfl
  | case4 =>
      obtain ⟨m, rfl⟩ : ∃ m, n = m + 1 := ⟨n - 1, by simp only [List.length_nil] at hn; omega⟩
      rfl

theorem length_le_quoteBody (s : JsString) : s.length ≤ (quoteBody s).length := by
  have hunit : ∀ u, 1 ≤ (escapeUnit u).length := by
    intro u
    unfold escapeUnit unicodeEscape
    split_ifs <;> simp
  induction s using quoteBody.induct with
  | case1 u w s hpair ih =>
      rw [quoteBody, if_pos hpair]
      simp only [List.length_cons]
      omega
  | case2 u w s hpair ih =>
      have hu := hunit u
      rw [quoteBody, if_neg hpair]
      simp only [List.length_cons, List.length_append] at ih ⊢
      omega
  | case3 u => exact hunit u
  | case4 => exact Nat.le_refl 0

/-- A string literal is read as the string that was quoted. -/
theorem readQuoted_quote (s rest : JsString) :
    readQuoted (quoteBody s ++ quoteMark :: rest) = some (s, rest) := by
  refine readUnits_quoteBody s ?_ rest
  have hlength := length_le_quoteBody s
  rw [List.length_append]
  omega

end Quoted

/-! ## Written types -/

/-- The text is written for a type that is no union. -/
structure IsPrimary (text : JsString) (type : TsType) : Prop where
  starts : ∃ u rest, text = u :: rest ∧ isOpening u = true
  takes : ∀ depth, text.length ≤ depth →
    Takes (readPrimary (readUnion depth)) text type Delimited

/-- The text is written for the alternatives of a union. -/
inductive IsUnion : JsString → TsUnion → Prop
  | single {text : JsString} {type : TsType} (h : IsPrimary text type) : IsUnion text [type]
  | cons {text rest : JsString} {type : TsType} {types : TsUnion} (h : IsPrimary text type)
      (hrest : IsUnion rest types) : IsUnion (text ++ units " | " ++ rest) (type :: types)

section Written

variable {u : CodeUnit} {text rest name : JsString} {type : TsType} {types : TsUnion}

/-- A primary type is read behind a blank as well. -/
theorem readPrimary_blank (inner : Reader CodeUnit TsUnion) (hu : gap u = true) :
    readPrimary inner (u :: text) = readPrimary inner text := by
  simp only [readPrimary, List.dropWhile_cons, hu, if_true]

theorem isPrimary_of_atom (hopening : isOpening u = true)
    (h : ∀ depth, (u :: text).length ≤ depth →
      Takes (readAtom (readUnion depth)) (u :: text) type Delimited) :
    IsPrimary (u :: text) type := by
  refine ⟨⟨u, text, rfl, hopening⟩, ?_⟩
  intro depth hdepth rest hrest
  have hgap : gap u = false := (isOpening_iff.mp hopening).1
  have hatom := h depth hdepth rest hrest
  simp only [readPrimary, List.cons_append, List.dropWhile_cons, hgap, Bool.false_eq_true,
    if_false] at hatom ⊢
  simp only [hatom, Option.bind_eq_bind, Option.bind_some, arraySuffixes_delimited type hrest]

theorem IsUnion.starts (h : IsUnion text types) :
    ∃ u rest, text = u :: rest ∧ isOpening u = true := by
  cases h with
  | single h => exact h.starts
  | cons h hrest =>
      obtain ⟨u, tail, rfl, hu⟩ := h.starts
      exact ⟨u, tail ++ units " | " ++ _, rfl, hu⟩

/-- The reader takes all alternatives that are written. -/
theorem IsUnion.takes_separated (h : IsUnion text types) {depth n : Nat}
    (hdepth : text.length ≤ depth) (hn : text.length ≤ n) :
    Takes (Reader.separated gap isBar (readPrimary (readUnion depth)) (n + 1)) text types
      Ended := by
  induction h generalizing n with
  | single h =>
      intro rest hrest
      exact Reader.separated_last (h.takes depth hdepth rest hrest.1) hrest.2
  | @cons text tail type types h htail ih =>
      intro rest hrest
      simp only [units_bar, List.length_append, List.length_cons, List.length_nil] at hdepth hn
      obtain ⟨m, rfl⟩ : ∃ m, n = m + 1 := ⟨n - 1, by omega⟩
      have hothers := ih (by omega) (by omega : tail.length ≤ m) rest hrest
      have hfirst := h.takes depth (by omega) (32 :: 124 :: 32 :: (tail ++ rest))
        (delimited_cons (by decide))
      have hpast : Reader.past gap isBar (32 :: 124 :: 32 :: (tail ++ rest)) =
          some (32 :: (tail ++ rest)) := by
        rw [Reader.past_blank (by decide)]
        exact Reader.past_mark (by decide) (by decide)
      rw [units_bar, List.append_assoc, List.append_assoc]
      refine Reader.separated_next hfirst hpast ?_
      rw [Reader.separated_blank (readPrimary_blank _ (by decide))]
      exact hothers

theorem IsUnion.takes (h : IsUnion text types) {depth : Nat} (hdepth : text.length < depth) :
    Takes (readUnion depth) text types Ended := by
  obtain ⟨depth, rfl⟩ : ∃ d, depth = d + 1 := ⟨depth - 1, by omega⟩
  intro rest hrest
  rw [readUnion]
  refine h.takes_separated (by omega) ?_ rest hrest
  rw [List.length_append]
  omega

/-- A blank may stand in front. -/
theorem IsUnion.takes_blank (h : IsUnion text types) {depth : Nat} (hdepth : text.length < depth)
    (hrest : Ended rest) : readUnion depth (32 :: (text ++ rest)) = some (types, rest) := by
  obtain ⟨depth, rfl⟩ : ∃ d, depth = d + 1 := ⟨depth - 1, by omega⟩
  rw [readUnion, Reader.separated_blank (readPrimary_blank _ (by decide))]
  refine h.takes_separated (by omega) ?_ rest hrest
  rw [List.length_cons, List.length_append]
  omega

/-- A written type is read as what it was written for. -/
theorem IsUnion.readType (h : IsUnion text types) : readType text = some types := by
  have htake := h.takes (Nat.lt_succ_self text.length) [] ended_nil
  rw [List.append_nil] at htake
  simp only [Javascript.readType, htake, Option.bind_eq_bind, Option.bind_some, List.all_nil,
    if_true]

/-- Alternatives joined with alternatives. -/
theorem IsUnion.append {text' : JsString} {types' : TsUnion} (h : IsUnion text types)
    (h' : IsUnion text' types') : IsUnion (text ++ units " | " ++ text') (types ++ types') := by
  induction h with
  | single h => exact .cons h h'
  | cons h hrest ih =>
      have hjoined := IsUnion.cons h ih
      simpa only [List.append_assoc, List.cons_append] using hjoined

/-- Unions joined by bars are a union of all their alternatives. -/
theorem isUnion_join {ι : Type} {parts : List ι} (hne : parts ≠ []) {textOf : ι → JsString}
    {typesOf : ι → TsUnion} (h : ∀ i ∈ parts, IsUnion (textOf i) (typesOf i)) :
    IsUnion ((units " | ").intercalate (parts.map textOf)) (parts.flatMap typesOf) := by
  induction parts with
  | nil => exact absurd rfl hne
  | cons i parts ih =>
      obtain ⟨hi, htail⟩ := List.forall_mem_cons.mp h
      cases parts with
      | nil => simpa using hi
      | cons j parts =>
          have hjoined := hi.append (ih (List.cons_ne_nil j parts) htail)
          rw [List.map_cons, List.map_cons, List.intercalate_cons_cons, List.flatMap_cons]
          exact hjoined

/-! ### Names -/

/-- In front of a delimiter, a name is read to its end. -/
theorem not_name_of_delimited (h : Delimited rest) : ∀ u ∈ rest.head?, isNameUnit u = false :=
  fun u hu => (isDelimiter_other (h u hu)).1

/-- A name that no type arguments follow. -/
structure IsPlainName (name : JsString) : Prop where
  isName : IsTypeName name
  notArray : name ≠ units "Array"
  notRecord : name ≠ units "Record"

instance (name : JsString) : Decidable (IsPlainName name) :=
  decidable_of_iff (IsTypeName name ∧ name ≠ units "Array" ∧ name ≠ units "Record")
    ⟨fun h => ⟨h.1, h.2.1, h.2.2⟩, fun h => ⟨h.isName, h.notArray, h.notRecord⟩⟩

/-- A plain name is read as the type that it stands for. -/
theorem IsPlainName.readAtom (h : IsPlainName name) (htype : nameType name = some type)
    (inner : Reader CodeUnit TsUnion) (hrest : ∀ u ∈ rest.head?, isNameUnit u = false) :
    readAtom inner (name ++ rest) = some (type, rest) := by
  rw [readAtom_name inner h.isName hrest, readNamed, if_neg h.notArray, if_neg h.notRecord, htype,
    Option.map_some]

theorem isPrimary_name (hname : IsPlainName name) (htype : nameType name = some type) :
    IsPrimary name type := by
  have hread : ∀ depth, name.length ≤ depth →
      Takes (readAtom (readUnion depth)) name type Delimited := by
    exact fun depth _ rest hrest => hname.readAtom htype _ (not_name_of_delimited hrest)
  obtain ⟨u, tail, rfl, hu, -⟩ := hname.isName.cons
  exact isPrimary_of_atom (isNameStart_other hu).1 hread

theorem ne_of_not_reserved (h : name ∉ reservedNames) : ∀ word ∈ reservedNames, name ≠ word := by
  rintro word hword rfl
  exact h hword

theorem isPlainName_of_not_reserved (hname : IsTypeName name) (h : name ∉ reservedNames) :
    IsPlainName name :=
  ⟨hname, ne_of_not_reserved h _ (by decide +kernel), ne_of_not_reserved h _ (by decide +kernel)⟩

/-- A name that is not reserved names a declaration. -/
theorem nameType_of_not_reserved (h : name ∉ reservedNames) :
    nameType name = some (.named name) := by
  have hne := ne_of_not_reserved h
  rw [nameType, if_neg (hne _ (by decide +kernel)), if_neg (hne _ (by decide +kernel)),
    if_neg (hne _ (by decide +kernel)), if_neg (hne _ (by decide +kernel)),
    if_neg (hne _ (by decide +kernel)), if_neg (hne _ (by decide +kernel)), if_neg h]

/-- `Name[]`. -/
theorem isPrimary_suffixed (hname : IsPlainName name) (htype : nameType name = some type) :
    IsPrimary (name ++ units "[]") (.array [type]) := by
  have hsuffix : units "[]" = [91, 93] := by decide +kernel
  obtain ⟨u, tail, hcons, hu, -⟩ := hname.isName.cons
  have hopening := (isNameStart_other hu).1
  refine ⟨⟨u, tail ++ units "[]", by rw [hcons, List.cons_append], hopening⟩, ?_⟩
  intro depth _ rest hrest
  have hatom : readAtom (readUnion depth) (name ++ 91 :: 93 :: rest) =
      some (type, 91 :: 93 :: rest) := hname.readAtom htype _ (by rintro w ⟨⟩; decide)
  have hgap : gap u = false := (isOpening_iff.mp hopening).1
  rw [hcons, List.cons_append] at hatom
  rw [hsuffix, hcons, List.append_assoc, List.cons_append, List.cons_append, List.cons_append,
    List.nil_append, readPrimary, List.dropWhile_cons, hgap]
  simp only [Bool.false_eq_true, if_false, hatom, Option.bind_eq_bind, Option.bind_some,
    arraySuffixes, and_self, if_true, arraySuffixes_delimited _ hrest]

/-! ### Literals -/

theorem isPrimary_quote (s : JsString) : IsPrimary (quote s) (.stringLiteral s) := by
  have htext : quote s = quoteMark :: (quoteBody s ++ [quoteMark]) := rfl
  rw [htext]
  refine isPrimary_of_atom (by decide) ?_
  intro depth _ rest _
  have hquoted := readQuoted_quote s rest
  simp only [List.cons_append, List.append_assoc, List.nil_append, readAtom, if_true, hquoted,
    Option.bind_eq_bind, Option.bind_some]

theorem isPrimary_number (n : JsonNumber) : IsPrimary n.text (.numberLiteral n.text) := by
  obtain ⟨u, tail, htext, hu⟩ := n.start
  have hrun : Every isNumberUnit tail := fun w hw =>
    n.written w (by rw [htext]; exact List.mem_cons_of_mem u hw)
  obtain ⟨hopening, hquote, hbrace, hbracket⟩ := isNumberStart_other hu
  rw [htext]
  refine isPrimary_of_atom hopening ?_
  intro depth _ rest hrest
  obtain ⟨htake, hdrop⟩ := span_append hrun fun w hw => (isDelimiter_other (hrest w hw)).2.1
  have hdigit : (isDigit u || decide (u = minusSign)) = true := by simpa using hu
  rw [List.cons_append, readAtom, if_neg hquote, if_neg hbrace, if_neg hbracket, if_pos hdigit,
    htake, hdrop]

/-! ### Generic types -/

theorem pastMark_mark {mark : CodeUnit} (hgap : gap mark = false) (rest : JsString) :
    pastMark mark (mark :: rest) = some rest :=
  Reader.past_mark hgap (decide_eq_true rfl)

theorem pastMark_other {mark : CodeUnit} (hgap : gap u = false) (hne : u ≠ mark)
    (rest : JsString) : pastMark mark (u :: rest) = none :=
  Reader.past_other hgap (decide_eq_false hne)

/-- `Array<items>`. -/
theorem isPrimary_array (h : IsUnion text types) :
    IsPrimary (units "Array<" ++ text ++ units ">") (.array types) := by
  have hname : IsTypeName (units "Array") := by decide +kernel
  have hread : ∀ depth, (units "Array<" ++ text ++ units ">").length ≤ depth →
      Takes (readAtom (readUnion depth)) (units "Array<" ++ text ++ units ">") (.array types)
        Delimited := by
    intro depth hdepth rest hrest
    have hshorter : text.length < depth := by
      simp only [List.length_append, units_greater, List.length_singleton] at hdepth
      omega
    have hitems := h.takes hshorter (62 :: rest)
      (ended_cons (by decide))
    have htext : units "Array<" ++ text ++ units ">" ++ rest =
        units "Array" ++ 60 :: (text ++ 62 :: rest) := by
      rw [units_Array, units_greater]
      simp only [List.append_assoc, List.cons_append, List.nil_append]
    rw [htext, readAtom_name _ hname (by intro u hu; cases hu; decide), readNamed, if_pos rfl,
      pastMark_mark (by decide)]
    have hend : pastMark 62 (62 :: rest) = some rest := pastMark_mark (by decide) rest
    simp only [Option.bind_eq_bind, Option.bind_some, hitems, hend]
  exact isPrimary_of_atom (by decide) hread

/-- `Record<string, values>`. -/
theorem isPrimary_record (h : IsUnion text types) :
    IsPrimary (units "Record<string, " ++ text ++ units ">") (.object [] (some types)) := by
  have hopen : units "Record<string, " = units "Record" ++ 60 :: (units "string" ++ [44, 32]) := by
    decide +kernel
  have hname : IsTypeName (units "Record") := by decide +kernel
  have hkey : IsTypeName (units "string") := by decide +kernel
  have hread : ∀ depth, (units "Record<string, " ++ text ++ units ">").length ≤ depth →
      Takes (readAtom (readUnion depth)) (units "Record<string, " ++ text ++ units ">")
        (.object [] (some types)) Delimited := by
    intro depth hdepth rest hrest
    have hshorter : text.length < depth := by
      simp only [List.length_append, units_greater, List.length_singleton] at hdepth
      omega
    have hvalues : readUnion depth (32 :: (text ++ 62 :: rest)) = some (types, 62 :: rest) :=
      h.takes_blank hshorter (ended_cons (by decide))
    have htext : units "Record<string, " ++ text ++ units ">" ++ rest =
        units "Record" ++ 60 :: (units "string" ++ 44 :: 32 :: (text ++ 62 :: rest)) := by
      rw [hopen, units_greater]
      simp only [List.append_assoc, List.cons_append, List.nil_append]
    have hstring := takes_readName hkey (44 :: 32 :: (text ++ 62 :: rest))
      (by intro u hu; cases hu; decide)
    have hcomma : pastMark 44 (44 :: 32 :: (text ++ 62 :: rest)) =
        some (32 :: (text ++ 62 :: rest)) := pastMark_mark (by decide) _
    have hend : pastMark 62 (62 :: rest) = some rest := pastMark_mark (by decide) rest
    rw [htext, readAtom_name _ hname (by intro u hu; cases hu; decide), readNamed,
      if_neg (by decide +kernel), if_pos rfl, pastMark_mark (by decide)]
    simp only [Option.bind_eq_bind, Option.bind_some, hstring, hcomma, hvalues, hend, if_true]
  exact isPrimary_of_atom (by decide) hread

/-! ### Object types -/

/-- The text is written for a member of an object type. -/
structure IsMember (text : JsString) (member : TsMember) : Prop where
  starts : ∃ u rest, text = u :: rest ∧ isOpening u = true
  takes : ∀ depth, text.length ≤ depth →
    Takes (readMember (readUnion depth)) text member Ended

/-- The mark of an optional property. -/
def optionalMark (optional : Bool) : JsString := if optional then units "?" else []

/-- Behind the name of a property; a blank may stand behind the colon. -/
theorem readProperty_written (h : IsUnion text types) (name : JsString) (optional : Bool)
    {space : JsString} (hspace : space = [] ∨ space = [32]) {depth : Nat}
    (hdepth : text.length < depth) (hrest : Ended rest) :
    readProperty (readUnion depth) name
      (optionalMark optional ++ 58 :: (space ++ (text ++ rest))) =
        some (.property ⟨name, optional, types⟩, rest) := by
  have htype : readUnion depth (space ++ (text ++ rest)) = some (types, rest) := by
    rcases hspace with rfl | rfl
    · exact h.takes hdepth rest hrest
    · exact h.takes_blank hdepth hrest
  have hcolon : ∀ rest, pastMark 58 (58 :: rest) = some rest := pastMark_mark (by decide)
  cases optional with
  | false =>
      have hother : pastMark 63 (58 :: (space ++ (text ++ rest))) = none :=
        pastMark_other (by decide) (by decide) _
      simp only [readProperty, optionalMark, Bool.false_eq_true, if_false, List.nil_append, hother,
        Option.getD_none, hcolon, Option.bind_eq_bind, Option.bind_some, htype,
        Option.isSome_none]
  | true =>
      have hother : pastMark 63 (63 :: 58 :: (space ++ (text ++ rest))) =
          some (58 :: (space ++ (text ++ rest))) := pastMark_mark (by decide) _
      simp only [readProperty, optionalMark, if_true, units_question, List.cons_append,
        List.nil_append, hother, Option.getD_some, hcolon, Option.bind_eq_bind, Option.bind_some,
        htype, Option.isSome_some]

theorem isMember_property (h : IsUnion text types) (name : JsString) (optional : Bool)
    {space : JsString} (hspace : space = [] ∨ space = [32]) :
    IsMember (quote name ++ optionalMark optional ++ 58 :: (space ++ text))
      (.property ⟨name, optional, types⟩) := by
  have htext : quote name ++ optionalMark optional ++ 58 :: (space ++ text) =
      quoteMark :: (quoteBody name ++ quoteMark ::
        (optionalMark optional ++ 58 :: (space ++ text))) := by
    simp only [quote, List.append_assoc, List.cons_append, List.nil_append]
  rw [htext]
  refine ⟨⟨_, _, rfl, by decide⟩, ?_⟩
  intro depth hdepth rest hrest
  have hshorter : text.length < depth := by
    simp only [List.length_append, List.length_cons] at hdepth
    omega
  have hquoted := readQuoted_quote name
    (optionalMark optional ++ 58 :: (space ++ (text ++ rest)))
  have hproperty := readProperty_written h name optional hspace hshorter hrest
  have hgap : gap quoteMark = false := by decide
  simp only [List.cons_append, List.append_assoc] at hquoted ⊢
  simp only [readMember, List.dropWhile_cons, hgap, Bool.false_eq_true, if_false, if_true, hquoted,
    Option.bind_eq_bind, Option.bind_some, hproperty]

/-- `[key: string]: values`. -/
theorem isMember_index (h : IsUnion text types) :
    IsMember (units "[key: string]: " ++ text) (.index types) := by
  have hopen : units "[key: string]: " =
      91 :: (units "key" ++ 58 :: 32 :: (units "string" ++ [93, 58, 32])) := by decide +kernel
  have hparameter : IsTypeName (units "key") := by decide +kernel
  have hkey : IsTypeName (units "string") := by decide +kernel
  refine ⟨⟨91, _, by rw [hopen]; rfl, by decide⟩, ?_⟩
  intro depth hdepth rest hrest
  have hshorter : text.length < depth := by
    simp only [List.length_append, hopen, List.length_cons] at hdepth
    omega
  have hvalues := h.takes_blank hshorter hrest
  have hfirst := takes_readName hparameter
    (58 :: 32 :: (units "string" ++ 93 :: 58 :: 32 :: (text ++ rest)))
    (by intro u hu; cases hu; decide)
  have hsecond := takes_readName hkey (93 :: 58 :: 32 :: (text ++ rest))
    (by intro u hu; cases hu; decide)
  have hcolon : ∀ rest, pastMark 58 (58 :: rest) = some rest := pastMark_mark (by decide)
  have hbracket : ∀ rest, pastMark 93 (93 :: rest) = some rest := pastMark_mark (by decide)
  have hblank : ∀ rest, readName (32 :: rest) = readName rest := fun _ => readName_blank (by decide)
  have hgap : gap 91 = false := by decide
  have hne : (91 : CodeUnit) ≠ quoteMark := by decide
  rw [hopen]
  simp only [List.cons_append, List.append_assoc, List.nil_append]
  simp only [readMember, List.dropWhile_cons, hgap, Bool.false_eq_true, if_false, if_neg hne,
    if_true, readIndex, hfirst, Option.bind_eq_bind, Option.bind_some, hcolon, hblank, hsecond,
    hbracket, hvalues]

/-- The reader of an object type, behind its brace. -/
theorem isPrimary_of_members {body : JsString} {members : List TsMember}
    (hbody : ∀ depth, body.length < depth → ∀ rest, Reader.enclosed gap
      (fun u => u = 59 || u = 44) (fun u => u = 125) (readMember (readUnion depth))
      ((body ++ rest).length + 1) (body ++ rest) = some (members, rest))
    (htype : objectType members = some type) : IsPrimary (123 :: body) type := by
  refine isPrimary_of_atom (by decide) ?_
  intro depth hdepth rest _
  have hmembers := hbody depth (Nat.lt_of_lt_of_le (Nat.lt_succ_self _) hdepth) rest
  have hquote : (123 : CodeUnit) ≠ quoteMark := by decide
  simp only [List.cons_append, readAtom, if_neg hquote, if_true, hmembers, Option.bind_eq_bind,
    Option.bind_some, htype]

theorem IsMember.item {member : TsMember} (h : IsMember text member) {depth : Nat}
    (hdepth : text.length ≤ depth) :
    Reader.Item gap (fun u => u = 125) (readMember (readUnion depth)) Ended (text, member) := by
  obtain ⟨u, tail, htext, hu⟩ := h.starts
  obtain ⟨hgap, -, hdelimiter⟩ := isOpening_iff.mp hu
  have hclose : u ≠ 125 := by
    rintro rfl
    exact absurd hdelimiter (by decide)
  exact ⟨⟨u, tail, htext, hgap, decide_eq_false hclose⟩, h.takes depth hdepth⟩

/-- `{ member; member; }`. -/
theorem isPrimary_object {fields : List (JsString × TsMember)} (hne : fields ≠ [])
    (h : ∀ f ∈ fields, IsMember f.1 f.2) (htype : objectType (fields.map (·.2)) = some type) :
    IsPrimary (units "\x7b " ++ (units " ").intercalate (fields.map fun f => f.1 ++ units ";") ++
      units " \x7d") type := by
  have htext : units "\x7b " ++ (units " ").intercalate (fields.map fun f => f.1 ++ units ";") ++
      units " \x7d" = 123 :: (fields.flatMap (fun f => 32 :: f.1 ++ [59]) ++ [32, 125]) := by
    have hmap : (fields.map fun f => f.1 ++ [59]) ≠ [] := fun hnil =>
      hne (List.map_eq_nil_iff.mp hnil)
    rw [units_openBrace, units_space, units_semicolon, units_closeBrace, List.cons_append,
      List.cons_append, List.singleton_append, Reader.cons_intercalate hmap, List.flatMap_map]
    rfl
  rw [htext]
  refine isPrimary_of_members ?_ htype
  intro depth hdepth rest
  have hflat : fields.flatMap (fun f => 32 :: f.1 ++ [59]) =
      (fields.map fun f => 32 :: f.1 ++ [59]).flatten := List.flatMap_def ..
  have hitems : ∀ f ∈ fields, Reader.Item gap (fun u => u = 125)
      (readMember (readUnion depth)) Ended f := by
    intro f hf
    have hle := (List.infix_of_mem_flatten (List.mem_map_of_mem
      (f := fun f : JsString × TsMember => 32 :: f.1 ++ [59]) hf)).length_le
    refine (h f hf).item ?_
    rw [List.length_append, hflat] at hdepth
    simp only [List.length_append, List.length_cons, List.length_nil] at hle hdepth
    omega
  have hcount : fields.length ≤ (fields.flatMap fun f => 32 :: f.1 ++ [59]).length := by
    have hnonempty : ∀ t ∈ fields.map fun f => 32 :: f.1 ++ [59], t ≠ [] :=
      List.forall_mem_map.mpr fun f _ => List.cons_ne_nil 32 _
    have hle := Reader.length_le_flatten hnonempty
    rwa [List.length_map, ← hflat] at hle
  rw [List.append_assoc]
  refine Reader.enclosed_terminated (by decide) (by decide) (by decide) ?_ ?_ hitems ?_ rest
  · exact fun rest => ended_cons (by decide)
  · intro text
    have hgap : gap 32 = true := by decide
    simp only [readMember, List.dropWhile_cons, hgap, if_true]
  · simp only [List.length_append, List.length_cons]
    omega

/-- `{ member }`. -/
theorem isPrimary_lastMember {member : TsMember} (h : IsMember text member)
    (htype : objectType [member] = some type) :
    IsPrimary (units "\x7b " ++ text ++ units " \x7d") type := by
  have htext : units "\x7b " ++ text ++ units " \x7d" = 123 :: 32 :: (text ++ [32, 125]) := by
    rw [units_openBrace, units_closeBrace]
    simp only [List.cons_append, List.nil_append]
  rw [htext]
  refine isPrimary_of_members ?_ htype
  intro depth hdepth rest
  rw [List.length_cons, List.length_append] at hdepth
  have hitem := h.item (show text.length ≤ depth by omega)
  have hfollow : Reader.past gap isBar (32 :: 125 :: rest) = none := by
    rw [Reader.past_blank (by decide)]
    exact Reader.past_other (by decide) (by decide)
  have hended : Ended (32 :: 125 :: rest) := ⟨delimited_cons (by decide), hfollow⟩
  have hread : readMember (readUnion depth) (32 :: (text ++ 32 :: 125 :: rest)) =
      some (member, 32 :: 125 :: rest) := by
    have htake := hitem.takes (32 :: 125 :: rest) hended
    have hgap : gap 32 = true := by decide
    simpa only [readMember, List.dropWhile_cons, hgap, if_true] using htake
  have hopened : Reader.past gap (fun u => u = 125) (32 :: (text ++ 32 :: 125 :: rest)) = none := by
    rw [Reader.past_blank (by decide)]
    exact hitem.past_close _
  have hlast : Reader.past gap (fun u => u = 125) (32 :: 125 :: rest) = some rest := by
    rw [Reader.past_blank (by decide)]
    exact Reader.past_mark (by decide) (by decide)
  simp only [List.cons_append, List.append_assoc, List.nil_append]
  exact Reader.enclosed_last hopened hread hlast

/-- `{member,member}`. -/
theorem isPrimary_braces {fields : List (JsString × TsMember)}
    (h : ∀ f ∈ fields, IsMember f.1 f.2) (htype : objectType (fields.map (·.2)) = some type) :
    IsPrimary (units "\x7b" ++ (units ",").intercalate (fields.map (·.1)) ++ units "\x7d")
      type := by
  have hopen : units "\x7b" = [123] := by decide +kernel
  have hclose : units "\x7d" = [125] := by decide +kernel
  rw [hopen, units_comma, hclose, List.append_assoc, List.singleton_append]
  refine isPrimary_of_members ?_ htype
  intro depth hdepth rest
  rw [List.length_append, List.length_singleton] at hdepth
  have hitems : ∀ f ∈ fields, Reader.Item gap (fun u => u = 125)
      (readMember (readUnion depth)) Ended f := by
    intro f hf
    have hle : f.1.length ≤ ([44].intercalate (fields.map (·.1))).length :=
      Reader.le_intercalate_of_mem (List.mem_map_of_mem hf)
    exact (h f hf).item (by omega)
  have hnonempty : ∀ t ∈ fields.map (·.1), t ≠ [] := by
    refine List.forall_mem_map.mpr fun f hf hnil => ?_
    obtain ⟨u, tail, htext, -⟩ := (h f hf).starts
    rw [htext] at hnil
    cases hnil
  have hcount : fields.length ≤ ([44].intercalate (fields.map (·.1))).length := by
    rw [← List.length_map]
    exact Reader.length_le_intercalate hnonempty
  rw [List.append_assoc, List.singleton_append]
  refine Reader.enclosed_intercalate (by decide) (by decide) ?_ hitems ?_ rest
  · exact fun rest => ⟨ended_cons (by decide), ended_cons (by decide)⟩
  · rw [List.length_append]
    omega

/-- `[part,part]`. -/
theorem isPrimary_tuple {parts : List (JsString × TsUnion)} (h : ∀ p ∈ parts, IsUnion p.1 p.2) :
    IsPrimary (units "[" ++ (units ",").intercalate (parts.map (·.1)) ++ units "]")
      (.tuple (parts.map (·.2))) := by
  have hopen : units "[" = [91] := by decide +kernel
  have hclose : units "]" = [93] := by decide +kernel
  rw [hopen, units_comma, hclose, List.append_assoc, List.singleton_append]
  refine isPrimary_of_atom (by decide) ?_
  intro depth hdepth rest _
  simp only [List.length_cons, List.length_append, List.length_nil] at hdepth
  have hitems : ∀ p ∈ parts, Reader.Item gap (fun u => u = 93) (readUnion depth) Ended p := by
    intro p hp
    have hle : p.1.length ≤ ([44].intercalate (parts.map (·.1))).length :=
      Reader.le_intercalate_of_mem (List.mem_map_of_mem hp)
    obtain ⟨u, tail, htext, hu⟩ := (h p hp).starts
    obtain ⟨hgap, -, hdelimiter⟩ := isOpening_iff.mp hu
    have hother : u ≠ 93 := by
      rintro rfl
      exact absurd hdelimiter (by decide)
    exact ⟨⟨u, tail, htext, hgap, decide_eq_false hother⟩, (h p hp).takes (by omega)⟩
  have hnonempty : ∀ t ∈ parts.map (·.1), t ≠ [] := by
    refine List.forall_mem_map.mpr fun p hp hnil => ?_
    obtain ⟨u, tail, htext, -⟩ := (h p hp).starts
    rw [htext] at hnil
    cases hnil
  have hcount : parts.length ≤ ([44].intercalate (parts.map (·.1))).length := by
    rw [← List.length_map]
    exact Reader.length_le_intercalate hnonempty
  have hread : Reader.enclosed gap (fun u => u = 44) (fun u => u = 93) (readUnion depth)
      (([44].intercalate (parts.map (·.1)) ++ 93 :: rest).length + 1)
      ([44].intercalate (parts.map (·.1)) ++ 93 :: rest) = some (parts.map (·.2), rest) := by
    refine Reader.enclosed_intercalate (by decide) (by decide) ?_ hitems ?_ rest
    · exact fun rest => ⟨ended_cons (by decide), ended_cons (by decide)⟩
    · rw [List.length_append]
      omega
  have hquote : (91 : CodeUnit) ≠ quoteMark := by decide
  have hbrace : (91 : CodeUnit) ≠ 123 := by decide
  simp only [List.cons_append, List.append_assoc, List.nil_append, readAtom, if_neg hquote,
    if_neg hbrace, if_true, hread, Option.bind_eq_bind, Option.bind_some]

end Written

end LuxLedger.Javascript
