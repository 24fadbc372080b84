/-
  Contract/NullText.lean --- where the text of a generated type mentions null.

  `nullable` adds ` | null` to a type only if the text that is printed so far does not
  contain it anywhere.  Whether it does can be told from the schema.
-/
import LuxLedger.Contract.Generator
import LuxLedger.Javascript.TypeReading

set_option autoImplicit false

namespace LuxLedger.Contract

open Javascript JsString

/-! ## Parts of texts -/

section Infix

variable {α : Type} {p a b : List α} {x : α}

theorem prefix_append_cons (hx : x ∉ p) : p <+: a ++ x :: b ↔ p <+: a := by
  constructor
  · intro h
    induction a generalizing p with
    | nil =>
        rcases List.prefix_cons_iff.mp h with rfl | ⟨t, rfl, -⟩
        · exact List.nil_prefix
        · exact absurd List.mem_cons_self hx
    | cons y a ih =>
        rcases List.prefix_cons_iff.mp h with rfl | ⟨t, rfl, ht⟩
        · exact List.nil_prefix
        · have hrest : x ∉ t := fun hmem => hx (List.mem_cons_of_mem y hmem)
          exact List.cons_prefix_cons.mpr ⟨rfl, ih hrest ht⟩
  · exact fun h => h.trans (List.prefix_append a (x :: b))

/-- A unit that the part does not have divides a text. -/
theorem infix_append_cons (hx : x ∉ p) : p <:+: a ++ x :: b ↔ p <:+: a ∨ p <:+: b := by
  rw [List.infix_append_iff_ne_nil, List.infix_cons_iff]
  constructor
  · rintro (h | (h | h) | ⟨first, last, -, hlast, rfl, -, hprefix⟩)
    · exact Or.inl h
    · rcases List.prefix_cons_iff.mp h with rfl | ⟨t, rfl, -⟩
      · exact Or.inl (List.nil_infix)
      · exact absurd List.mem_cons_self hx
    · exact Or.inr h
    · rcases List.prefix_cons_iff.mp hprefix with rfl | ⟨t, rfl, -⟩
      · exact absurd rfl hlast
      · exact absurd (List.mem_append_right first List.mem_cons_self) hx
  · rintro (h | h)
    · exact Or.inl h
    · exact Or.inr (Or.inl (Or.inr h))

end Infix

/-- What `nullable` adds. -/
abbrev nullSuffix : JsString := units " | null"

theorem nullSuffix_eq : nullSuffix = [32, 124, 32, 110, 117, 108, 108] := by decide +kernel

theorem units_null : units "null" = [110, 117, 108, 108] := by decide +kernel

theorem not_infix_nil : ¬ nullSuffix <:+: [] := by decide +kernel

section Bars

variable {a b : JsString}

/-- The suffix begins with a bar between two texts, or lies in one of them. -/
theorem infix_bar (hb : ∀ u ∈ b.head?, isBar u = false) :
    nullSuffix <:+: a ++ units " | " ++ b ↔
      nullSuffix <:+: a ∨ units "null" <+: b ∨ nullSuffix <:+: b := by
  have hbar : ∀ t, ¬ 124 :: t <+: b := by
    intro t ht
    cases b with
    | nil => simp at ht
    | cons u b =>
        obtain ⟨rfl, -⟩ := List.cons_prefix_cons.mp ht
        exact absurd (hb 124 rfl) (by decide)
  have hright : nullSuffix <:+: 32 :: 124 :: 32 :: b ↔
      units "null" <+: b ∨ nullSuffix <:+: b := by
    have hsp : (32 : CodeUnit) ≠ 124 := by decide
    rw [nullSuffix_eq, units_null, List.infix_cons_iff, List.infix_cons_iff, List.infix_cons_iff]
    simp only [List.cons_prefix_cons, true_and, hsp, false_and, false_or, hbar]
  have hcross : ∀ first last : JsString, first ≠ [] → last ≠ [] → nullSuffix = first ++ last →
      ¬ last <+: 32 :: 124 :: 32 :: b := by
    intro first last hfirst hlast heq hprefix
    rw [nullSuffix_eq] at heq
    cases first with
    | nil => exact hfirst rfl
    | cons u first =>
      have hsuffix : last <:+ [124, 32, 110, 117, 108, 108] := by
        rw [List.cons_append, List.cons.injEq] at heq
        exact ⟨first, heq.2.symm⟩
      simp only [List.suffix_cons_iff, List.suffix_nil] at hsuffix
      rcases hsuffix with rfl | rfl | rfl | rfl | rfl | rfl | rfl
      all_goals simp [List.cons_prefix_cons] at hprefix hlast
  rw [units_bar, List.append_assoc, List.infix_append_iff_ne_nil]
  constructor
  · rintro (h | h | ⟨first, last, hfirst, hlast, heq, -, hprefix⟩)
    · exact Or.inl h
    · exact Or.inr (hright.mp h)
    · exact absurd hprefix (hcross first last hfirst hlast heq)
  · rintro (h | h)
    · exact Or.inl h
    · exact Or.inr (Or.inl (hright.mpr h))

/-- A space in front of a type begins no suffix. -/
theorem infix_space (hb : ∀ u ∈ b.head?, isBar u = false) :
    nullSuffix <:+: 32 :: b ↔ nullSuffix <:+: b := by
  rw [List.infix_cons_iff]
  refine or_iff_right ?_
  rw [nullSuffix_eq, List.cons_prefix_cons]
  rintro ⟨-, hprefix⟩
  cases b with
  | nil => simp at hprefix
  | cons u b =>
      obtain ⟨rfl, -⟩ := List.cons_prefix_cons.mp hprefix
      exact absurd (hb 124 rfl) (by decide)

end Bars

/-! ## What a text says about null -/

/-- A text that begins a type. -/
def Begins (text : JsString) : Prop := ∃ u rest, text = u :: rest ∧ isBar u = false

theorem Begins.head {text : JsString} (h : Begins text) : ∀ u ∈ text.head?, isBar u = false := by
  obtain ⟨u, rest, rfl, hu⟩ := h
  rintro w ⟨⟩
  exact hu

theorem Begins.append {text : JsString} (h : Begins text) (rest : JsString) :
    Begins (text ++ rest) := by
  obtain ⟨u, tail, rfl, hu⟩ := h
  exact ⟨u, tail ++ rest, rfl, hu⟩

/-- Whether a text begins with `null`, and whether it contains ` | null`. -/
structure NullText where
  leading : Bool
  mentions : Bool

namespace NullText

/-- What the text of a type shows of null. -/
def ofText (text : JsString) : NullText :=
  ⟨(units "null").isPrefixOf text, includes text nullSuffix⟩

/-- What a union shows, from what its members show. -/
def join : List NullText → NullText
  | [] => ⟨false, false⟩
  | first :: others =>
      ⟨first.leading, (first :: others).any (·.mentions) || others.any (·.leading)⟩

/-- A text that begins with something else and mentions null if a part does. -/
def within (mentions : Bool) : NullText := ⟨false, mentions⟩

/-- With what `nullable` adds, if the text does not mention null already. -/
def orNull (nullable : Bool) (text : NullText) : NullText :=
  ⟨text.leading, text.mentions || nullable⟩

/-- The text is as described. -/
structure Describes (description : NullText) (text : JsString) : Prop where
  leading : units "null" <+: text ↔ description.leading = true
  mentions : nullSuffix <:+: text ↔ description.mentions = true

theorem describes_ofText (text : JsString) : (ofText text).Describes text :=
  ⟨List.isPrefixOf_iff_prefix.symm, decide_eq_true_iff.symm⟩

section Join

variable {ι : Type} {textOf : ι → JsString} {nullOf : ι → NullText}

theorem begins_join {i : ι} {others : List ι} (h : Begins (textOf i)) :
    Begins (Contract.join ((i :: others).map textOf)) := by
  cases others with
  | nil => simpa [Contract.join] using h
  | cons j others =>
      rw [Contract.join, List.map_cons, List.map_cons, List.intercalate_cons_cons]
      exact (h.append _).append _

theorem describes_join {parts : List ι} (hbegins : ∀ i ∈ parts, Begins (textOf i))
    (h : ∀ i ∈ parts, (nullOf i).Describes (textOf i)) :
    (join (parts.map nullOf)).Describes (Contract.join (parts.map textOf)) := by
  induction parts with
  | nil =>
      have hnone : (join []).Describes (Contract.join []) :=
        ⟨by decide +kernel, by decide +kernel⟩
      exact hnone
  | cons i parts ih =>
      obtain ⟨hi, hparts⟩ := List.forall_mem_cons.mp h
      cases parts with
      | nil => simpa [join, Contract.join] using hi
      | cons j parts =>
          have hrest := ih (fun k hk => hbegins k (List.mem_cons_of_mem i hk)) hparts
          have hhead : Begins (Contract.join ((j :: parts).map textOf)) :=
            begins_join (hbegins j (by simp))
          have htext : Contract.join ((i :: j :: parts).map textOf) =
              textOf i ++ units " | " ++ Contract.join ((j :: parts).map textOf) := by
            rw [Contract.join, Contract.join, List.map_cons, List.map_cons,
              List.intercalate_cons_cons]
          have hspace : (32 : CodeUnit) ∉ units "null" := by decide +kernel
          constructor
          · rw [htext, units_bar, List.append_assoc, List.cons_append, prefix_append_cons hspace]
            exact hi.leading
          · rw [htext, infix_bar hhead.head, hi.mentions, hrest.leading, hrest.mentions]
            simp only [join, List.map_cons, List.any_cons, Bool.or_eq_true]
            tauto

end Join

section Nested

variable {text name : JsString} {mentions : Bool}

theorem describes_orNull {description : NullText} (h : description.Describes text)
    (nullable : Bool) :
    (description.orNull nullable).Describes (Contract.orNull nullable text) := by
  unfold Contract.orNull
  split_ifs with hadd
  · obtain ⟨hnullable, -⟩ := (Bool.and_eq_true _ _).mp hadd
    have hsuffix : units " | null" = 32 :: [124, 32, 110, 117, 108, 108] := nullSuffix_eq
    constructor
    · rw [hsuffix, prefix_append_cons (by decide +kernel)]
      exact h.leading
    · refine iff_of_true List.infix_append_right ?_
      rw [orNull, hnullable, Bool.or_true]
  · refine ⟨h.leading, h.mentions.trans ?_⟩
    rw [Bool.and_eq_true, not_and, Bool.not_eq_true', Bool.not_eq_false, includes,
      decide_eq_true_eq, h.mentions] at hadd
    simpa only [orNull, Bool.or_eq_true, iff_self_or] using hadd

theorem describes_array (h : nullSuffix <:+: text ↔ mentions = true) :
    (within mentions).Describes (units "Array<" ++ text ++ units ">") := by
  have htext : units "Array<" ++ text ++ units ">" = units "Array" ++ 60 :: (text ++ 62 :: []) := by
    rw [units_Array, units_greater]
    simp only [List.append_assoc, List.cons_append, List.nil_append]
  have hname : ¬ nullSuffix <:+: units "Array" := by decide +kernel
  rw [htext]
  constructor
  · rw [prefix_append_cons (by decide +kernel)]
    exact iff_of_false (by decide +kernel) Bool.false_ne_true
  · rw [infix_append_cons (by decide +kernel), infix_append_cons (by decide +kernel)]
    simp only [hname, not_infix_nil, false_or, or_false]
    exact h

theorem infix_semicolon : nullSuffix <:+: text ++ units ";" ↔ nullSuffix <:+: text := by
  rw [units_semicolon, infix_append_cons (by decide +kernel)]
  exact or_iff_left not_infix_nil

/-- What stands between braces mentions null where one of the fields does. -/
theorem infix_braces {texts : List JsString} (hne : texts ≠ [])
    (h : ∀ f ∈ texts, ∃ g, f = g ++ units ";" ∧ Begins g) :
    nullSuffix <:+: units "\x7b " ++ (units " ").intercalate texts ++ units " \x7d" ↔
      ∃ f ∈ texts, nullSuffix <:+: f := by
  have htext : units "\x7b " ++ (units " ").intercalate texts ++ units " \x7d" =
      [] ++ 123 :: (texts.flatMap (fun f => 32 :: f) ++ [32, 125]) := by
    rw [units_openBrace, units_space, units_closeBrace, List.cons_append, List.cons_append,
      List.singleton_append, Foundation.Reader.cons_intercalate hne]
    rfl
  rw [htext, infix_append_cons (by decide +kernel), or_iff_right not_infix_nil]
  clear htext hne
  induction texts with
  | nil => exact iff_of_false (by decide +kernel) (by simp)
  | cons f texts ih =>
      obtain ⟨⟨g, rfl, hg⟩, htexts⟩ := List.forall_mem_cons.mp h
      have hcut : ((g ++ units ";") :: texts).flatMap (fun f => 32 :: f) ++ [32, 125] =
          (32 :: g) ++ 59 :: (texts.flatMap (fun f => 32 :: f) ++ [32, 125]) := by
        rw [units_semicolon, List.flatMap_cons]
        simp only [List.append_assoc, List.cons_append, List.nil_append]
      rw [hcut, infix_append_cons (by decide +kernel), infix_space hg.head]
      simp only [ih htexts, List.mem_cons, exists_eq_or_imp, infix_semicolon]

theorem infix_field (schema : Schema) (htext : Begins text)
    (h : nullSuffix <:+: text ↔ mentions = true) :
    nullSuffix <:+: field schema name text ↔
      (includes (literal (.string name)) nullSuffix || mentions) = true := by
  have hmark : nullSuffix <:+: literal (.string name) ++
      (if name ∈ schema.required then [] else units "?") ↔
        nullSuffix <:+: literal (.string name) := by
    split_ifs
    · rw [List.append_nil]
    · rw [units_question, infix_append_cons (by decide +kernel)]
      exact or_iff_left not_infix_nil
  rw [field, infix_semicolon, units_colon, List.append_assoc, List.cons_append,
    List.singleton_append, infix_append_cons (by decide +kernel), hmark, infix_space htext.head, h,
    Bool.or_eq_true, includes, decide_eq_true_eq]

theorem infix_keyField (htext : Begins text) (h : nullSuffix <:+: text ↔ mentions = true) :
    nullSuffix <:+: keyField text ↔ mentions = true := by
  have hkey : units "[key: string]: " = units "[key" ++ 58 :: (units " string]" ++ [58, 32]) := by
    decide +kernel
  have hfirst : ¬ nullSuffix <:+: units "[key" := by decide +kernel
  have hsecond : ¬ nullSuffix <:+: units " string]" := by decide +kernel
  rw [keyField, infix_semicolon, hkey, List.append_assoc, List.cons_append, List.append_assoc,
    List.cons_append, List.singleton_append, infix_append_cons (by decide +kernel),
    infix_append_cons (by decide +kernel), or_iff_right hfirst, or_iff_right hsecond,
    infix_space htext.head, h]

end Nested

end NullText

/-! ## What the type of a schema says about null -/

open NullText

/-- The key of a property is printed in quotes, and may hold the suffix itself. -/
def mentionsDeclared (parts : Parts NullText) : Bool :=
  parts.fields.any fun f => includes (literal (.string f.1)) nullSuffix || f.2.mentions

/-- Some field of an object type shows null. -/
def mentionsFields (schema : Schema) (parts : Parts NullText) : Bool :=
  mentionsDeclared parts ||
    match schema.additionalProperties with
    | some (.inr _) => parts.fields.isEmpty && parts.additional.any (·.mentions)
    | _ => false

/-- What a schema of one type shows. -/
def singleNull (schema : Schema) (parts : Parts NullText) (t : Option SimpleType) : NullText :=
  if t = some .array then within (parts.items.any (·.mentions))
  else if t = some .object ∨ schema.properties.isSome then within (mentionsFields schema parts)
  else ⟨t = some .null, false⟩

/-- What the type shows before null is added. -/
def resultNull (schema : Schema) (parts : Parts NullText) : NullText :=
  if !schema.enum.isEmpty then NullText.join (schema.enum.map fun v => ofText (literal v))
  else if !schema.oneOf.isEmpty || !schema.anyOf.isEmpty then
    NullText.join (if schema.oneOf.isEmpty then parts.anyOf else parts.oneOf)
  else
    match schema.type with
    | .list first others =>
        NullText.join ((first :: others).map fun t => singleNull schema parts (some t))
    | .one t => singleNull schema parts (some t)
    | .absent => singleNull schema parts none

/-- What the type of a schema shows, from what those of its parts show. -/
def nullTextWith (schema : Schema) (parts : Parts NullText) : NullText :=
  match schema.ref with
  | some (u :: path) => ofText (lastSegment (u :: path))
  | _ => (resultNull schema parts).orNull schema.nullable

/-- What the type of a schema shows of null. -/
def nullText : Schema → NullText := Schema.fold nullTextWith

/-- The text that is printed for the schema contains ` | null` before `nullable` is seen to. -/
def Schema.mentionsNull (schema : Schema) : Bool :=
  (resultNull schema (schema.parts.map nullText)).mentions

end LuxLedger.Contract
