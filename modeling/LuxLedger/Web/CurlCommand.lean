/-
  Web/CurlCommand.lean --- the command that the console offers to copy.

  Source: `apps/web/src/api.ts`, `shellSingleQuote` and `requestToCurl`.
-/
import LuxLedger.Foundation.ShellWords
import LuxLedger.Web.RequestJournal

set_option autoImplicit false

namespace LuxLedger.Web

open Javascript JsString Foundation Foundation.Shell

/-! ## `requestToCurl` -/

/-- The serialisation of an origin; no scheme, host or port has a NUL. -/
abbrev Origin : Type := { text : JsString // (0 : CodeUnit) ∉ text }

/-- The method, written. -/
def Method.text : Method → JsString
  | .get => units "GET"
  | .post => units "POST"

/-- `shellSingleQuote`. -/
def shellSingleQuote (value : JsString) : JsString :=
  units "'" ++ value.replaceAll 39 (units "'\"'\"'") ++ units "'"

/-- The path is one of the ledger API. -/
def isApiPath (path : JsString) : Bool := (units "/v1/").isPrefixOf path

/-- The lines of the command, before they are joined. -/
def curlLines (operation : DemoRequest) (origin : Origin) : List JsString :=
  [units "curl -X " ++ operation.method.text ++ units " " ++
      shellSingleQuote (origin.1 ++ operation.path)] ++
    (if isApiPath operation.path then [units "  -H \"Authorization: Bearer $ACCESS_TOKEN\""]
      else []) ++
    match operation.body with
    | none => []
    | some body => [units "  -H 'content-type: application/json'",
        units "  --data " ++ shellSingleQuote (stringify body)]

/-- `requestToCurl`. -/
def requestToCurl (operation : DemoRequest) (origin : Origin) : JsString :=
  (units " \\\n").intercalate (curlLines operation origin)

/-! ## The words of the command -/

/-- A value that the shell takes as it is. -/
def verbatim (value : JsString) : List Piece := value.map fun u => .literal u true

/-- An option or the name of the program. -/
def bare (value : JsString) : List Piece := value.map fun u => .literal u false

/-- The header with the credential, which only the shell knows. -/
def authorization : List Piece :=
  verbatim (units "Authorization: Bearer ") ++ [.parameter (units "ACCESS_TOKEN") true]

/-- The words behind the program name, as they are quoted. -/
def curlPieces (operation : DemoRequest) (origin : Origin) : List (List Piece) :=
  [bare (units "-X"), bare operation.method.text, verbatim (origin.1 ++ operation.path)] ++
    (if isApiPath operation.path then [bare (units "-H"), authorization] else []) ++
    match operation.body with
    | none => []
    | some body => [bare (units "-H"), verbatim (units "content-type: application/json"),
        bare (units "--data"), verbatim (stringify body)]

/-- The words behind the program name, as the program receives them. -/
def curlArguments (env : JsString → JsString) (operation : DemoRequest) (origin : Origin) :
    List JsString :=
  [units "-X", operation.method.text, origin.1 ++ operation.path] ++
    (if isApiPath operation.path then
      [units "-H", units "Authorization: Bearer " ++ env (units "ACCESS_TOKEN")] else []) ++
    match operation.body with
    | none => []
    | some body => [units "-H", units "content-type: application/json", units "--data",
        stringify body]

/-! ## What the shell reads -/

theorem shellSingleQuote_eq (value : JsString) : shellSingleQuote value = singleQuoted value := by
  have hmark : units "'" = [singleQuote] := by decide +kernel
  have hreplacement : units "'\"'\"'" =
      [singleQuote, doubleQuote, singleQuote, doubleQuote, singleQuote] := by decide +kernel
  rw [shellSingleQuote, hmark, hreplacement]
  rfl

theorem not_mem_stringify (v : JsonValue) : (0 : CodeUnit) ∉ stringify v := fun hmem =>
  absurd (printed_stringify v 0 hmem) (by decide)

/-- A blank in the line, and the end of a line that the next one continues. -/
theorem separates_blank : Separates [32] := fun _ _ => rfl

theorem separates_continuation : Separates (units " \\\n  ") := fun _ _ => rfl

/-- A word that needs no quotes. -/
def bareWord (separator : JsString) (separates : Separates separator) (value : JsString)
    (ordinary : value ≠ [] ∧ Every isOrdinary value) : WordText :=
  ⟨separator, value, bare value, separates, readsAs_ordinary ordinary.1 ordinary.2⟩

/-- A word in single quotes. -/
def quotedWord (value : JsString) (nulFree : (0 : CodeUnit) ∉ value) : WordText :=
  ⟨[32], singleQuoted value, verbatim value, separates_blank, readsAs_singleQuoted nulFree⟩

theorem readsAs_authorization :
    ReadsAs (units "\"Authorization: Bearer $ACCESS_TOKEN\"") authorization := by
  have htext : units "\"Authorization: Bearer $ACCESS_TOKEN\"" =
      doubleQuote :: (units "Authorization: Bearer " ++
        dollarSign :: (units "ACCESS_TOKEN" ++ [doubleQuote])) := by decide +kernel
  rw [htext]
  exact readsAs_doubleQuoted (by decide +kernel) (by decide +kernel)

/-- The word `-H`. -/
def optionWord : WordText :=
  bareWord (units " \\\n  ") separates_continuation (units "-H") (by decide +kernel)

/-- The words of the line with the credential. -/
def authorizationWords : List WordText :=
  [optionWord, ⟨[32], _, authorization, separates_blank, readsAs_authorization⟩]

/-- The words of the two lines with the body. -/
def bodyWords (body : JsonValue) : List WordText :=
  [optionWord, quotedWord (units "content-type: application/json") (by decide +kernel),
    bareWord (units " \\\n  ") separates_continuation (units "--data") (by decide +kernel),
    quotedWord (stringify body) (not_mem_stringify body)]

section Command

variable {operation : DemoRequest} {origin : Origin}

theorem ordinary_method (method : Method) :
    method.text ≠ [] ∧ Every isOrdinary method.text := by
  cases method <;> decide +kernel

/-- The words behind the program name, as they stand in the text. -/
def curlWords (operation : DemoRequest) (origin : Origin)
    (h : (0 : CodeUnit) ∉ origin.1 ++ operation.path) : List WordText :=
  [bareWord [32] separates_blank (units "-X") (by decide +kernel),
      bareWord [32] separates_blank operation.method.text (ordinary_method _),
      quotedWord (origin.1 ++ operation.path) h] ++
    (if isApiPath operation.path then authorizationWords else []) ++
    match operation.body with
    | none => []
    | some body => bodyWords body

theorem curlWords_pieces (h : (0 : CodeUnit) ∉ origin.1 ++ operation.path) :
    (curlWords operation origin h).map (·.pieces) = curlPieces operation origin := by
  rw [curlWords, curlPieces, List.map_append, List.map_append]
  congr 1
  · congr 1
    split_ifs <;> rfl
  · cases operation.body <;> rfl

theorem requestToCurl_eq (h : (0 : CodeUnit) ∉ origin.1 ++ operation.path) :
    requestToCurl operation origin =
      units "curl" ++ wordsText (curlWords operation origin h) := by
  have hcurl : units "curl -X " = units "curl" ++ [32] ++ units "-X" ++ [32] := by decide +kernel
  have hblank : units " " = [32] := by decide +kernel
  have hheader : units "  -H \"Authorization: Bearer $ACCESS_TOKEN\"" =
      units "  " ++ units "-H" ++ [32] ++ units "\"Authorization: Bearer $ACCESS_TOKEN\"" := by
    decide +kernel
  have htype : units "  -H 'content-type: application/json'" =
      units "  " ++ units "-H" ++ [32] ++
        singleQuoted (units "content-type: application/json") := by
    decide +kernel
  have hdata : units "  --data " = units "  " ++ units "--data" ++ [32] := by decide +kernel
  have hbreak : units " \\\n  " = units " \\\n" ++ units "  " := by decide +kernel
  rw [requestToCurl, curlLines, curlWords]
  simp only [shellSingleQuote_eq, hcurl, hheader, htype, hdata]
  cases isApiPath operation.path <;> cases operation.body
  all_goals
    simp only [Bool.false_eq_true, if_false, if_true, List.cons_append, List.nil_append,
      List.append_nil, List.intercalate_cons_cons, List.intercalate_singleton, wordsText,
      authorizationWords, bodyWords, optionWord, bareWord, quotedWord, List.flatMap_cons,
      List.flatMap_nil, List.append_assoc, hblank, hbreak]

end Command

/-! ## The command is exact -/

/-- The shell reads one simple command, and the program receives these words. -/
structure ExactCommand (operation : DemoRequest) (origin : Origin) : Prop where
  /-- nothing of the path or the body is outside quotes or begins another token -/
  tokens : shellTokens (requestToCurl operation origin) =
    some ((bare (units "curl") :: curlPieces operation origin).map ShellToken.word)
  words : ∀ env, simpleCommand env (requestToCurl operation origin) =
    some (units "curl" :: curlArguments env operation origin)

section Values

variable {env : JsString → JsString}

theorem wordValue_bare {value : JsString} (h : Every isOrdinary value) :
    wordValue env (bare value) = some value :=
  wordValue_literals fun u hu => Or.inr (h u hu)

theorem wordValue_authorization : wordValue env authorization =
    some (units "Authorization: Bearer " ++ env (units "ACCESS_TOKEN")) :=
  wordValue_append (wordValue_quoted _) (wordValue_parameter _)

theorem mapM_wordValue_append {ps qs : List (List Piece)} {vs ws : List JsString}
    (hp : ps.mapM (wordValue env) = some vs) (hq : qs.mapM (wordValue env) = some ws) :
    (ps ++ qs).mapM (wordValue env) = some (vs ++ ws) := by
  rw [List.mapM_append, hp, hq]
  rfl

theorem mapM_wordValue_cons {p : List Piece} {ps : List (List Piece)} {v : JsString}
    {vs : List JsString} (hp : wordValue env p = some v)
    (hps : ps.mapM (wordValue env) = some vs) :
    (p :: ps).mapM (wordValue env) = some (v :: vs) := by
  rw [List.mapM_cons, hp, hps]
  rfl

/-- The program receives what the quoting protects. -/
theorem mapM_curlPieces (operation : DemoRequest) (origin : Origin) :
    (curlPieces operation origin).mapM (wordValue env) =
      some (curlArguments env operation origin) := by
  have hoption : wordValue env (bare (units "-H")) = some (units "-H") :=
    wordValue_bare (by decide +kernel)
  refine mapM_wordValue_append (mapM_wordValue_append ?_ ?_) ?_
  · exact mapM_wordValue_cons (wordValue_bare (by decide +kernel)) <|
      mapM_wordValue_cons (wordValue_bare (ordinary_method _).2) <|
        mapM_wordValue_cons (wordValue_quoted _) rfl
  · split_ifs
    · exact mapM_wordValue_cons hoption (mapM_wordValue_cons wordValue_authorization rfl)
    · rfl
  · cases operation.body with
    | none => rfl
    | some body =>
        exact mapM_wordValue_cons hoption <| mapM_wordValue_cons (wordValue_quoted _) <|
          mapM_wordValue_cons (wordValue_bare (by decide +kernel)) <|
            mapM_wordValue_cons (wordValue_quoted _) rfl

end Values

theorem requestToCurl_exact (origin : Origin) (operation : DemoRequest)
    (hpath : (0 : CodeUnit) ∉ operation.path) : ExactCommand operation origin := by
  have hurl : (0 : CodeUnit) ∉ origin.1 ++ operation.path := fun hmem =>
    (List.mem_append.mp hmem).elim origin.2 hpath
  have hordinary : Every isOrdinary (units "curl") := by decide +kernel
  have htokens := shellTokens_words (readsAs_ordinary (by decide +kernel) hordinary)
    (curlWords operation origin hurl)
  rw [← requestToCurl_eq, curlWords_pieces] at htokens
  refine ⟨htokens, fun env => ?_⟩
  have hname : wordValue env (bare (units "curl")) = some (units "curl") :=
    wordValue_bare hordinary
  have hvalues := mapM_wordValue_cons hname (mapM_curlPieces operation origin)
  have hreserved : some (units "curl") ∉ reservedWords.map some := by decide +kernel
  exact simpleCommand_of_tokens htokens hvalues (List.cons_ne_nil _ _) hreserved

/-- A path with a quote, a line break and an attempt at a second command. -/
theorem requestToCurl_exact_sample :
    ExactCommand ⟨.post, units "/v1/'; rm $HOME #\n`x`", some (.string (units "it's"))⟩
      ⟨units "http://localhost", by decide +kernel⟩ :=
  requestToCurl_exact ⟨units "http://localhost", by decide +kernel⟩
    ⟨.post, units "/v1/'; rm $HOME #\n`x`", some (.string (units "it's"))⟩ (by decide +kernel)

end LuxLedger.Web
