/-
  Contract/Declarations.lean --- the generated file as a module: what the reader reads from
  it.
-/
import LuxLedger.Contract.Translation

set_option autoImplicit false

namespace LuxLedger.Contract

open Javascript JsString Foundation

/-! ## Lines of a module -/

section Lines

variable {n : Nat} {u : CodeUnit} {name text rest : JsString} {types : TsUnion}

theorem readLines_gap (hu : gap u = true) : readLines n (u :: rest) = readLines n rest := by
  cases n with
  | zero => rfl
  | succ n => simp only [readLines, List.dropWhile_cons, hu, if_true]

/-- A comment reaches to the end of its line. -/
theorem readLines_comment (htext : 10 ∉ text) :
    readLines (n + 1) (47 :: 47 :: (text ++ 10 :: rest)) = readLines n rest := by
  have hstart : (47 :: 47 :: (text ++ 10 :: rest)).dropWhile gap =
      47 :: 47 :: (text ++ 10 :: rest) := List.dropWhile_cons_of_neg (by decide)
  have hdrop : (47 :: (text ++ 10 :: rest)).dropWhile (fun w => w ≠ 10) = 10 :: rest := by
    have hunits : ∀ w ∈ 47 :: text, decide (w ≠ 10) = true :=
      List.forall_mem_cons.mpr ⟨by decide, fun w hw => decide_eq_true fun heq => htext (heq ▸ hw)⟩
    rw [← List.cons_append, List.dropWhile_append_of_pos hunits,
      List.dropWhile_cons_of_neg (by decide)]
  have hfeed : gap 10 = true := by decide
  simp only [readLines, hstart, List.head?_cons, and_self, if_true, hdrop, readLines_gap hfeed]

/-- A declaration without the semicolon behind it. -/
def declarationText (name text : JsString) : JsString :=
  units "export type " ++ name ++ units " = " ++ text

/-- A declaration is read with its semicolon. -/
theorem readDeclaration_written (hname : IsTypeName name) (h : IsUnion text types)
    (rest : JsString) :
    readDeclaration (declarationText name text ++ 59 :: rest) = some ((name, types), rest) := by
  have hwords : units "export type " = units "export" ++ 32 :: (units "type" ++ [32]) := by
    decide +kernel
  have hequals : units " = " = [32, 61, 32] := by decide +kernel
  have htext : declarationText name text ++ 59 :: rest =
      units "export" ++ 32 :: (units "type" ++ 32 :: (name ++ 32 :: 61 :: 32 ::
        (text ++ 59 :: rest))) := by
    rw [declarationText, hwords, hequals]
    simp only [List.append_assoc, List.cons_append, List.nil_append]
  have hname' : ∀ {word : JsString} {after : JsString}, IsTypeName word →
      readName (word ++ 32 :: after) = some (word, 32 :: after) := fun hword =>
    takes_readName hword _ (by rintro w ⟨⟩; decide)
  have hblank : ∀ rest, readName (32 :: rest) = readName rest := fun _ => readName_blank (by decide)
  have hmark : pastMark 61 (32 :: 61 :: 32 :: (text ++ 59 :: rest)) =
      some (32 :: (text ++ 59 :: rest)) := by
    rw [pastMark, Reader.past_blank (by decide)]
    exact Reader.past_mark (by decide) (by decide)
  have htype : readUnion ((32 :: (text ++ 59 :: rest)).length + 1) (32 :: (text ++ 59 :: rest)) =
      some (types, 59 :: rest) := by
    refine h.takes_blank ?_ (ended_cons (by decide))
    simp only [List.length_cons, List.length_append]
    omega
  have hend : pastMark 59 (59 :: rest) = some rest := pastMark_mark (by decide) rest
  rw [htext, readDeclaration, hname' (by decide +kernel)]
  simp only [Option.bind_eq_bind, Option.bind_some, hblank, hname' hname,
    hname' (show IsTypeName (units "type") by decide +kernel), hmark, htype, hend, and_self,
    if_true]

/-- A declaration on a line. -/
theorem readLines_declaration (hname : IsTypeName name) (h : IsUnion text types) :
    readLines (n + 1) (declarationText name text ++ 59 :: 10 :: rest) =
      (readLines n rest).map fun others => (name, types) :: others := by
  have hread := readDeclaration_written hname h (10 :: rest)
  have hwords : units "export type " = 101 :: units "xport type " := by decide +kernel
  obtain ⟨tail, htail⟩ : ∃ tail, declarationText name text ++ 59 :: 10 :: rest = 101 :: tail := by
    rw [declarationText, hwords]
    exact ⟨_, rfl⟩
  have hgap : gap 101 = false := by decide
  have hslash : ¬ ((101 : CodeUnit) = 47 ∧ tail.head? = some 47) := fun h =>
    absurd h.1 (by decide)
  rw [htail] at hread ⊢
  simp only [readLines, List.dropWhile_cons, hgap, Bool.false_eq_true, if_false, if_neg hslash,
    hread, Option.bind_eq_bind, Option.bind_some, readLines_gap (show gap 10 = true by decide)]
  cases readLines n rest <;> rfl

end Lines

/-! ## The generated file -/

/-- The declaration of `Json`, which is printed as it stands. -/
theorem isUnion_jsonUnion : IsUnion
    (units "null | boolean | number | string | Json[] | \x7b [key: string]: Json \x7d")
    jsonUnion := by
  have htext : units "null | boolean | number | string | Json[] | \x7b [key: string]: Json \x7d" =
      units "null" ++ units " | " ++ (units "boolean" ++ units " | " ++ (units "number" ++
        units " | " ++ (units "string" ++ units " | " ++ ((units "Json" ++ units "[]") ++
          units " | " ++ (units "\x7b " ++ keyText (units "Json") ++ units " \x7d"))))) := by
    decide +kernel
  have hjson : nameType (units "Json") = some (.named (units "Json")) :=
    nameType_of_not_reserved (by decide +kernel)
  rw [htext]
  refine .cons (isPrimary_name (by decide +kernel) rfl)
    (.cons (isPrimary_name (by decide +kernel) rfl)
      (.cons (isPrimary_name (by decide +kernel) rfl)
        (.cons (isPrimary_name (by decide +kernel) rfl) (.cons ?_ (.single ?_)))))
  · exact isPrimary_suffixed (by decide +kernel) hjson
  · exact isPrimary_lastMember (isMember_index isUnion_json) rfl

/-- What the generated file declares. -/
def declarations (contract : ApiContract) : TsDeclarations :=
  (units "Json", jsonUnion) :: contract.components.map fun c => (c.1, translate c.2)

section Output

variable {contract : ApiContract}

theorem isSchemaPath_of_has {schema : Schema} (h : contract.Has schema) :
    ∀ path ∈ schema.refs, IsSchemaPath path := by
  intro path hpath
  obtain ⟨c, hc, hwithin⟩ := h
  obtain ⟨d, hd, rfl⟩ := List.mem_map.mp (contract.resolved c hc path (hwithin.refs path hpath))
  obtain ⟨hname, hfree⟩ := contract.declarable d hd
  exact ⟨d.1, rfl, hname, fun hmem => hfree (List.mem_cons_of_mem _ hmem)⟩

/-- The type of every schema of the contract is printed. -/
theorem printed_of_has {schema : Schema} (h : contract.Has schema) : Printed schema :=
  printed_of_refs schema (isSchemaPath_of_has h)

theorem has_component {c : JsString × Schema} (hc : c ∈ contract.components) :
    contract.Has c.2 := ⟨c, hc, .self c.2⟩

theorem readLines_components {components : List (JsString × Schema)}
    (h : ∀ c ∈ components, IsTypeName c.1 ∧ Printed c.2) {n : Nat} (hn : components.length < n) :
    readLines n (components.flatMap fun c =>
      units "export type " ++ c.1 ++ units " = " ++ type c.2 ++ units ";\n") =
        some (components.map fun c => (c.1, translate c.2)) := by
  have hend : units ";\n" = [59, 10] := by decide +kernel
  induction components generalizing n with
  | nil =>
      obtain ⟨m, rfl⟩ : ∃ m, n = m + 1 := ⟨n - 1, by simp only [List.length_nil] at hn; omega⟩
      rfl
  | cons c components ih =>
      obtain ⟨m, rfl⟩ : ∃ m, n = m + 1 := ⟨n - 1, by simp only [List.length_cons] at hn; omega⟩
      obtain ⟨⟨hname, hprinted⟩, hrest⟩ := List.forall_mem_cons.mp h
      have hlength : components.length < m := by
        simp only [List.length_cons] at hn
        omega
      have hline : ∀ tail, units "export type " ++ c.1 ++ units " = " ++ type c.2 ++ units ";\n" ++
          tail = declarationText c.1 (type c.2) ++ 59 :: 10 :: tail := by
        intro tail
        rw [declarationText, hend]
        simp only [List.append_assoc, List.cons_append, List.nil_append]
      rw [List.flatMap_cons, hline, readLines_declaration hname hprinted.isUnion, ih hrest hlength]
      rfl

/-- Every line of the file is a comment or a declaration. -/
theorem readLines_output (contract : ApiContract) :
    readLines ((output contract).length + 1) (output contract) =
      some (declarations contract) := by
  have hcomment :
      units "// Generated from openapi/openapi.yaml. Run npm run generate:api; do not edit.\n" =
        47 :: 47 :: (units " Generated from openapi/openapi.yaml. " ++
          units "Run npm run generate:api; do not edit." ++ [10]) := by decide +kernel
  have hfree : 10 ∉ units " Generated from openapi/openapi.yaml. " ++
      units "Run npm run generate:api; do not edit." := by decide +kernel
  have hheader : units "export type Json = null | boolean | number | string | Json[] | " ++
      units "\x7b [key: string]: Json \x7d;\n" = declarationText (units "Json")
        (units "null | boolean | number | string | Json[] | \x7b [key: string]: Json \x7d") ++
          [59, 10] := by decide +kernel
  have hprinted : ∀ c ∈ contract.components, IsTypeName c.1 ∧ Printed c.2 := fun c hc =>
    ⟨(contract.declarable c hc).1, printed_of_has (has_component hc)⟩
  obtain ⟨lines, hlines⟩ : ∃ lines, lines = contract.components.flatMap fun c =>
    units "export type " ++ c.1 ++ units " = " ++ type c.2 ++ units ";\n" := ⟨_, rfl⟩
  have hcount : contract.components.length ≤ lines.length := by
    have hword : units "export type " ≠ [] := by decide +kernel
    have hnonempty : ∀ t ∈ contract.components.map (fun c =>
        units "export type " ++ c.1 ++ units " = " ++ type c.2 ++ units ";\n"), t ≠ [] := by
      refine List.forall_mem_map.mpr fun c _ hnil => ?_
      simp only [List.append_eq_nil_iff] at hnil
      exact hword hnil.1.1.1.1
    have hle := Reader.length_le_flatten hnonempty
    rwa [List.length_map, ← List.flatMap_def, ← hlines] at hle
  have htext : output contract = 47 :: 47 :: (units " Generated from openapi/openapi.yaml. " ++
      units "Run npm run generate:api; do not edit." ++ 10 :: (declarationText (units "Json")
        (units "null | boolean | number | string | Json[] | \x7b [key: string]: Json \x7d") ++
          59 :: 10 :: lines)) := by
    rw [output, hcomment, hheader, ← hlines]
    simp only [List.append_assoc, List.cons_append, List.nil_append]
  obtain ⟨m, hm⟩ : ∃ m, (output contract).length + 1 = m + 2 := by
    rw [htext]
    exact ⟨_, rfl⟩
  have hlength : contract.components.length < m := by
    rw [htext] at hm
    simp only [List.length_cons, List.length_append] at hm
    omega
  rw [hm, htext, readLines_comment hfree,
    readLines_declaration (by decide +kernel) isUnion_jsonUnion, hlines,
    readLines_components hprinted hlength]
  rfl

/-- The generated file is read as the declarations of `Json` and of every schema. -/
theorem readModule_output (contract : ApiContract) :
    readModule (output contract) = some (declarations contract) := by
  have hname : ∀ c ∈ contract.components, c.1 ≠ units "Json" ∧ c.1 ∉ reservedNames := by
    intro c hc
    have hfree := (contract.declarable c hc).2
    rw [List.mem_cons, not_or] at hfree
    exact hfree
  have hnodup : ((declarations contract).map (·.1)).Nodup := by
    rw [declarations, List.map_cons, List.map_map, List.nodup_cons]
    refine ⟨?_, contract.distinct⟩
    intro hmem
    obtain ⟨c, hc, heq⟩ := List.mem_map.mp hmem
    exact (hname c hc).1 heq
  have hfree : ∀ name ∈ (declarations contract).map (·.1), name ∉ reservedNames := by
    rw [declarations, List.map_cons, List.map_map]
    refine List.forall_mem_cons.mpr ⟨by decide +kernel, List.forall_mem_map.mpr ?_⟩
    exact fun c hc => (hname c hc).2
  rw [readModule, readLines_output]
  simp only [Option.bind_eq_bind, Option.bind_some]
  rw [if_pos ⟨hnodup, hfree⟩]

end Output

end LuxLedger.Contract
