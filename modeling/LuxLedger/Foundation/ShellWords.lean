/-
  Foundation/ShellWords.lean --- how a POSIX shell cuts a line into tokens, and what the
  words of a simple command stand for.

  The lexer works on code units; all units that mean something to the shell are ASCII, so
  it sees the same as a shell that reads the encoded text.  Of the expansions only that of
  a quoted `$NAME` is interpreted.  A text that asks for another one has no reading.
-/
import LuxLedger.Javascript.CodeUnits

set_option autoImplicit false

namespace LuxLedger.Foundation

open Javascript JsString

/-! ## Tokens -/

/-- A part of a word: a code unit, or the expansion of a parameter. -/
inductive Piece where
  | literal (u : CodeUnit) (quoted : Bool)
  | parameter (name : JsString) (quoted : Bool)
  deriving DecidableEq

/-- A token of a command line. -/
inductive ShellToken where
  | word (pieces : List Piece)
  /-- a newline or a unit of a control or redirection operator -/
  | operator (u : CodeUnit)
  deriving DecidableEq

/-- Where in its quoting the lexer is. -/
inductive Mode where
  | plain
  | escaped
  | single
  | double
  | doubleEscaped
  /-- behind a dollar sign, outside or inside double quotes -/
  | name (quoted : Bool) (read : JsString)
  | comment
  deriving DecidableEq

namespace Shell

/-- The single quote. -/
def singleQuote : CodeUnit := 39

/-- The double quote. -/
def doubleQuote : CodeUnit := 34

/-- The backslash. -/
def escapeMark : CodeUnit := 92

/-- The dollar sign. -/
def dollarSign : CodeUnit := 36

/-- The backquote. -/
def backquote : CodeUnit := 96

/-- The newline. -/
def newline : CodeUnit := 10

/-- A space or a tab. -/
def isBlank (u : CodeUnit) : Bool := u ∈ [32, 9]

/-- `; & | < > ( )`. -/
def isOperator (u : CodeUnit) : Bool := u ∈ units ";&|<>()"

/-- Behind a dollar sign: a positional or special parameter, `${`, `$(` or `$'`. -/
def isOtherExpansion (u : CodeUnit) : Bool :=
  (48 ≤ u && u ≤ 57) || u ∈ units "@*#?-$!\x7b('"

/-- A unit that stands for itself outside quotes, wherever in a word. -/
def isOrdinary (u : CodeUnit) : Bool := isNameUnit u || u ∈ units "-./:,+@%"

/-- A unit that stands for itself inside double quotes. -/
def isInert (u : CodeUnit) : Bool :=
  u ≠ 0 && u ≠ doubleQuote && u ≠ escapeMark && u ≠ dollarSign && u ≠ backquote

end Shell

open Shell

/-- The tokens read, the word that is being read and the quoting it is in. -/
structure Lexer where
  done : List ShellToken
  word : Option (List Piece)
  mode : Mode
  deriving DecidableEq

namespace Lexer

variable (lexer : Lexer)

/-- Add a piece to the word, which it may begin. -/
def push (piece : Piece) (mode : Mode) : Lexer :=
  ⟨lexer.done, some (lexer.word.getD [] ++ [piece]), mode⟩

/-- An opening quote begins a word even if nothing is quoted. -/
def openQuote (mode : Mode) : Lexer := ⟨lexer.done, some (lexer.word.getD []), mode⟩

/-- End the word, if there is one. -/
def close : Lexer :=
  match lexer.word with
  | none => ⟨lexer.done, none, .plain⟩
  | some pieces => ⟨lexer.done ++ [.word pieces], none, .plain⟩

/-- The lexer after an operator. -/
def operator (u : CodeUnit) : Lexer := ⟨lexer.close.done ++ [.operator u], none, .plain⟩

/-- A unit outside quotes. -/
def plainStep (u : CodeUnit) : Option Lexer :=
  if u = singleQuote then some (lexer.openQuote .single)
  else if u = doubleQuote then some (lexer.openQuote .double)
  else if u = escapeMark then some { lexer with mode := .escaped }
  else if u = dollarSign then some { lexer with mode := .name false [] }
  else if u = backquote then none
  else if isBlank u then some lexer.close
  else if u = newline ∨ isOperator u then some (lexer.operator u)
  else if u = 35 ∧ lexer.word = none then some { lexer with mode := .comment }
  else some (lexer.push (.literal u false) .plain)

/-- A unit inside double quotes. -/
def doubleStep (u : CodeUnit) : Option Lexer :=
  if u = doubleQuote then some { lexer with mode := .plain }
  else if u = escapeMark then some { lexer with mode := .doubleEscaped }
  else if u = dollarSign then some { lexer with mode := .name true [] }
  else if u = backquote then none
  else some (lexer.push (.literal u true) .double)

/-- Add what a dollar sign and the name behind it stand for. -/
def pushName (quoted : Bool) (read : JsString) : Lexer :=
  lexer.push (if read = [] then .literal dollarSign quoted else .parameter read quoted)
    (if quoted then .double else .plain)

/-- A unit behind a dollar sign.  A backslash there may be a line continuation within the name,
which is not interpreted. -/
def nameStep (quoted : Bool) (read : JsString) (u : CodeUnit) : Option Lexer :=
  if isNameStart u ∨ (read ≠ [] ∧ isNameUnit u) then
    some { lexer with mode := .name quoted (read ++ [u]) }
  else if u = escapeMark ∨ (read = [] ∧ isOtherExpansion u) then none
  else if quoted then (lexer.pushName quoted read).doubleStep u
  else (lexer.pushName quoted read).plainStep u

/-- One code unit of the text; a shell text has no NUL. -/
def step (u : CodeUnit) : Option Lexer :=
  if u = 0 then none
  else
    match lexer.mode with
    | .plain => lexer.plainStep u
    | .escaped =>
        if u = newline then some { lexer with mode := .plain }
        else some (lexer.push (.literal u true) .plain)
    | .single =>
        if u = singleQuote then some { lexer with mode := .plain }
        else some (lexer.push (.literal u true) .single)
    | .double => lexer.doubleStep u
    | .doubleEscaped =>
        if u = newline then some { lexer with mode := .double }
        else if u ∈ [dollarSign, backquote, doubleQuote, escapeMark] then
          some (lexer.push (.literal u true) .double)
        else some ((lexer.push (.literal escapeMark true) .double).push (.literal u true) .double)
    | .name quoted read => lexer.nameStep quoted read u
    | .comment => if u = newline then some (lexer.operator u) else some lexer

/-- Read a text. -/
def run (text : JsString) : Option Lexer := text.foldlM step lexer

/-- The end of the text; an open quote has no reading. -/
def finish : Option (List ShellToken) :=
  match lexer.mode with
  | .plain | .comment => some lexer.close.done
  | .name false read => some (lexer.pushName false read).close.done
  | _ => none

theorem run_append (text rest : JsString) :
    lexer.run (text ++ rest) = (lexer.run text).bind fun next => next.run rest :=
  List.foldlM_append

theorem run_cons (u : CodeUnit) (rest : JsString) :
    lexer.run (u :: rest) = (lexer.step u).bind fun next => next.run rest :=
  List.foldlM_cons

theorem run_nil : lexer.run [] = some lexer := rfl

end Lexer

/-- The tokens of a text. -/
def shellTokens (text : JsString) : Option (List ShellToken) :=
  (Lexer.run ⟨[], none, .plain⟩ text).bind Lexer.finish

/-- A continued line, a second command and a comment. -/
example : shellTokens (units "a\\\nb; 'c\n'#d #e") =
    some [.word [.literal 97 false, .literal 98 false], .operator 59,
      .word [.literal 99 true, .literal 10 true, .literal 35 false, .literal 100 false]] := by
  decide +kernel

/-! ## Words -/

/-- What a piece of a word stands for; unquoted, a parameter would be split into fields and a
unit such as `*` or `~` would ask for an expansion. -/
def Piece.value (env : JsString → JsString) : Piece → Option JsString
  | .literal u quoted => if quoted ∨ isOrdinary u then some [u] else none
  | .parameter name quoted => if quoted then some (env name) else none

/-- The value of a word, if the shell gives it one. -/
def wordValue (env : JsString → JsString) (pieces : List Piece) : Option JsString :=
  (pieces.mapM (Piece.value env)).map List.flatten

/-- The words by which a command would not be a simple one. -/
def reservedWords : List JsString :=
  ["!", "\x7b", "\x7d", "case", "do", "done", "elif", "else", "esac", "fi", "for", "if", "in",
    "then", "until", "while"].map units

/-- The pieces of a word. -/
def ShellToken.pieces? : ShellToken → Option (List Piece)
  | .word pieces => some pieces
  | .operator _ => none

/-- The words of a text that is exactly one simple command, with the values they have. -/
def simpleCommand (env : JsString → JsString) (text : JsString) : Option (List JsString) := do
  let tokens ← shellTokens text
  let words ← tokens.mapM ShellToken.pieces?
  let values ← words.mapM (wordValue env)
  if values = [] ∨ values.head? ∈ reservedWords.map some then none else some values

section Values

variable {env : JsString → JsString}

theorem wordValue_append {ps qs : List Piece} {v w : JsString}
    (hp : wordValue env ps = some v) (hq : wordValue env qs = some w) :
    wordValue env (ps ++ qs) = some (v ++ w) := by
  obtain ⟨vs, hvs, rfl⟩ := Option.map_eq_some_iff.mp hp
  obtain ⟨ws, hws, rfl⟩ := Option.map_eq_some_iff.mp hq
  rw [wordValue, List.mapM_append, hvs, hws]
  exact congrArg some List.flatten_append

theorem wordValue_literals {text : JsString} {quoted : Bool}
    (h : ∀ u ∈ text, quoted = true ∨ isOrdinary u = true) :
    wordValue env (text.map fun u => .literal u quoted) = some text := by
  induction text with
  | nil => rfl
  | cons u rest ih =>
      have hu : wordValue env [.literal u quoted] = some [u] := by
        rw [wordValue, List.mapM_cons, List.mapM_nil, Piece.value,
          if_pos (h u List.mem_cons_self)]
        rfl
      exact wordValue_append hu (ih fun v hv => h v (List.mem_cons_of_mem u hv))

theorem wordValue_quoted (text : JsString) :
    wordValue env (text.map fun u => .literal u true) = some text :=
  wordValue_literals fun _ _ => Or.inl rfl

theorem wordValue_parameter (name : JsString) :
    wordValue env [.parameter name true] = some (env name) := by
  rw [wordValue, List.mapM_cons, List.mapM_nil]
  exact congrArg some (List.append_nil _)

end Values

/-! ## Texts of words -/

/-- The text continues a word, or begins one, with these pieces. -/
def ReadsAs (text : JsString) (pieces : List Piece) : Prop :=
  ∀ done word, Lexer.run ⟨done, word, .plain⟩ text =
    some ⟨done, some (word.getD [] ++ pieces), .plain⟩

theorem ReadsAs.append {text rest : JsString} {ps qs : List Piece} (h : ReadsAs text ps)
    (hrest : ReadsAs rest qs) : ReadsAs (text ++ rest) (ps ++ qs) := by
  intro done word
  rw [Lexer.run_append, h, Option.bind_some, hrest, Option.getD_some, List.append_assoc]

section Ordinary

variable {u : CodeUnit}

theorem step_ordinary (done : List ShellToken) (word : Option (List Piece))
    (hu : isOrdinary u = true) :
    Lexer.step ⟨done, word, .plain⟩ u =
      some ⟨done, some (word.getD [] ++ [.literal u false]), .plain⟩ := by
  have hne : ∀ v, isOrdinary v = false → u ≠ v := by
    rintro v hv rfl
    rw [hv] at hu
    cases hu
  have hblank : isBlank u = false := by
    simp [isBlank, hne 32 (by decide +kernel), hne 9 (by decide +kernel)]
  have hoperator : isOperator u = false := by
    have hunits : units ";&|<>()" = [59, 38, 124, 60, 62, 40, 41] := by decide +kernel
    have hnone : Every (fun v => !isOrdinary v) [59, 38, 124, 60, 62, 40, 41] := by
      decide +kernel
    rw [isOperator, hunits]
    exact decide_eq_false fun hmem => hne u (Bool.not_eq_true' _ ▸ hnone u hmem) rfl
  rw [Lexer.step, if_neg (hne 0 (by decide +kernel))]
  dsimp only
  rw [Lexer.plainStep, if_neg (hne _ (by decide +kernel)), if_neg (hne _ (by decide +kernel)),
    if_neg (hne _ (by decide +kernel)), if_neg (hne _ (by decide +kernel)),
    if_neg (hne _ (by decide +kernel)), if_neg (by simp [hblank]),
    if_neg (by simpa [hoperator] using hne newline (by decide +kernel)),
    if_neg (fun h => hne 35 (by decide +kernel) h.1)]
  rfl

end Ordinary

/-- Ordinary units are a word outside quotes. -/
theorem readsAs_ordinary {text : JsString} (hne : text ≠ [])
    (h : Every isOrdinary text) :
    ReadsAs text (text.map fun u => .literal u false) := by
  have hrun : ∀ rest : JsString, Every isOrdinary rest → ∀ done pieces,
      Lexer.run ⟨done, some pieces, .plain⟩ rest =
        some ⟨done, some (pieces ++ rest.map fun u => .literal u false), .plain⟩ := by
    intro rest hrest
    induction rest with
    | nil =>
        intro done pieces
        rw [List.map_nil, List.append_nil, Lexer.run_nil]
    | cons u rest ih =>
        intro done pieces
        rw [Lexer.run_cons, step_ordinary done _ (hrest u List.mem_cons_self), Option.bind_some,
          ih fun v hv => hrest v (List.mem_cons_of_mem u hv)]
        simp only [Option.getD_some, List.map_cons, List.append_assoc, List.singleton_append]
  obtain ⟨u, rest, rfl⟩ := List.exists_cons_of_ne_nil hne
  intro done word
  rw [Lexer.run_cons, step_ordinary done _ (h u List.mem_cons_self), Option.bind_some,
    hrun rest fun v hv => h v (List.mem_cons_of_mem u hv)]
  simp only [List.map_cons, List.append_assoc, List.singleton_append]

/-! ## Quoting -/

/-- What stands between single quotes: each apostrophe is written between double quotes. -/
def singleQuotedBody (value : JsString) : JsString :=
  value.replaceAll singleQuote [singleQuote, doubleQuote, singleQuote, doubleQuote, singleQuote]

/-- The value between single quotes. -/
def singleQuoted (value : JsString) : JsString :=
  singleQuote :: singleQuotedBody value ++ [singleQuote]

/-- The lexer inside single quotes: the induction over the value goes through the quoting states
that an apostrophe is written in, and is back inside the quotes behind it. -/
theorem run_single {value : JsString} (h : (0 : CodeUnit) ∉ value) (done : List ShellToken)
    (pieces : List Piece) :
    Lexer.run ⟨done, some pieces, .single⟩ (singleQuotedBody value ++ [singleQuote]) =
      some ⟨done, some (pieces ++ value.map fun u => .literal u true), .plain⟩ := by
  induction value generalizing pieces with
  | nil =>
      rw [List.map_nil, List.append_nil]
      rfl
  | cons u rest ih =>
      obtain ⟨hu, hrest⟩ := not_or.mp fun hmem => h (List.mem_cons.mpr hmem)
      have hnext := ih hrest (pieces ++ [.literal u true])
      rw [List.append_assoc, List.singleton_append] at hnext
      rw [singleQuotedBody, replaceAll, List.flatMap_cons, ← replaceAll, ← singleQuotedBody,
        List.append_assoc, List.map_cons, ← hnext]
      split_ifs with hquote
      · subst hquote
        rw [Lexer.run_append]
        rfl
      · rw [List.singleton_append, Lexer.run_cons, Lexer.step, if_neg fun h0 => hu h0.symm]
        dsimp only
        rw [if_neg hquote, Option.bind_some]
        rfl

theorem readsAs_singleQuoted {value : JsString} (h : (0 : CodeUnit) ∉ value) :
    ReadsAs (singleQuoted value) (value.map fun u => .literal u true) := by
  intro done word
  exact run_single h done (word.getD [])

/-- Units inside double quotes that stand for themselves. -/
theorem run_inert {text : JsString} (h : Every isInert text) (done : List ShellToken)
    (pieces : List Piece) :
    Lexer.run ⟨done, some pieces, .double⟩ text =
      some ⟨done, some (pieces ++ text.map fun u => .literal u true), .double⟩ := by
  induction text generalizing pieces with
  | nil =>
      rw [List.map_nil, List.append_nil]
      rfl
  | cons u rest ih =>
      have hu := h u List.mem_cons_self
      simp only [isInert, Bool.and_eq_true, decide_eq_true_eq, and_assoc] at hu
      obtain ⟨hzero, hquote, hbackslash, hdollar, hbackquote⟩ := hu
      rw [Lexer.run_cons, Lexer.step, if_neg hzero]
      dsimp only
      rw [Lexer.doubleStep, if_neg hquote, if_neg hbackslash, if_neg hdollar,
        if_neg hbackquote, Option.bind_some]
      have hnext := ih (fun v hv => h v (List.mem_cons_of_mem u hv)) (pieces ++ [.literal u true])
      rw [List.append_assoc, List.singleton_append] at hnext
      exact hnext

/-- The rest of a name. -/
theorem run_name {rest : JsString} (h : Every isNameUnit rest)
    (done : List ShellToken) (pieces : List Piece) {read : JsString} (hread : read ≠ []) :
    Lexer.run ⟨done, some pieces, .name true read⟩ rest =
      some ⟨done, some pieces, .name true (read ++ rest)⟩ := by
  induction rest generalizing read with
  | nil =>
      rw [List.append_nil]
      rfl
  | cons u rest ih =>
      have hu := h u List.mem_cons_self
      have hzero : u ≠ 0 := by
        rintro rfl
        exact absurd hu (by decide)
      rw [Lexer.run_cons, Lexer.step, if_neg hzero]
      dsimp only
      rw [Lexer.nameStep, if_pos (Or.inr ⟨hread, hu⟩), Option.bind_some,
        ih (fun v hv => h v (List.mem_cons_of_mem u hv)) (by simp), List.append_assoc,
        List.singleton_append]

/-- A name as a parameter has it. -/
def IsName (name : JsString) : Prop :=
  name.head?.any isNameStart = true ∧ Every isNameUnit name

instance (name : JsString) : Decidable (IsName name) :=
  inferInstanceAs (Decidable (_ ∧ _))

theorem run_parameter {name : JsString} (h : IsName name) (done : List ShellToken)
    (pieces : List Piece) :
    Lexer.run ⟨done, some pieces, .double⟩ (dollarSign :: (name ++ [doubleQuote])) =
      some ⟨done, some (pieces ++ [.parameter name true]), .plain⟩ := by
  obtain ⟨hstart, hname⟩ := h
  cases name with
  | nil => cases hstart
  | cons first rest =>
      have hzero : first ≠ 0 := by
        rintro rfl
        simp [isNameStart, isLetter] at hstart
      have hfirst : Lexer.step ⟨done, some pieces, .name true []⟩ first =
          some ⟨done, some pieces, .name true [first]⟩ := by
        rw [Lexer.step, if_neg hzero]
        dsimp only
        rw [Lexer.nameStep, if_pos (Or.inl (by simpa using hstart)), List.nil_append]
      have hrest := run_name (fun u hu => hname u (List.mem_cons_of_mem first hu)) done pieces
        (List.cons_ne_nil first [])
      have hdollar : Lexer.step ⟨done, some pieces, .double⟩ dollarSign =
          some ⟨done, some pieces, .name true []⟩ := rfl
      rw [Lexer.run_cons, hdollar, Option.bind_some, List.cons_append, Lexer.run_cons, hfirst,
        Option.bind_some, Lexer.run_append, hrest, Option.bind_some, List.singleton_append]
      rfl

/-- Double quotes around inert text with a parameter at its end. -/
theorem readsAs_doubleQuoted {text name : JsString} (htext : Every isInert text)
    (hname : IsName name) :
    ReadsAs (doubleQuote :: (text ++ dollarSign :: (name ++ [doubleQuote])))
      ((text.map fun u => .literal u true) ++ [.parameter name true]) := by
  intro done word
  have hopen : Lexer.step ⟨done, word, .plain⟩ doubleQuote =
      some ⟨done, some (word.getD []), .double⟩ := rfl
  rw [Lexer.run_cons, hopen, Option.bind_some, Lexer.run_append, run_inert htext,
    Option.bind_some, run_parameter hname, List.append_assoc]

/-! ## Commands -/

/-- The text ends a word and begins none. -/
def Separates (text : JsString) : Prop :=
  ∀ done pieces, Lexer.run ⟨done, some pieces, .plain⟩ text =
    some ⟨done ++ [.word pieces], none, .plain⟩

/-- A word behind what separates it from the word before. -/
structure WordText where
  separator : JsString
  text : JsString
  pieces : List Piece
  separates : Separates separator
  reads : ReadsAs text pieces

/-- The words, written. -/
def wordsText (words : List WordText) : JsString := words.flatMap fun w => w.separator ++ w.text

theorem run_wordsText (words : List WordText) (done : List ShellToken) (pieces : List Piece) :
    (Lexer.run ⟨done, some pieces, .plain⟩ (wordsText words)).bind Lexer.finish =
      some (done ++ .word pieces :: words.map fun w => .word w.pieces) := by
  induction words generalizing done pieces with
  | nil => rfl
  | cons w rest ih =>
      rw [wordsText, List.flatMap_cons, ← wordsText, Lexer.run_append, Lexer.run_append,
        w.separates, Option.bind_some, w.reads, Option.bind_some, Option.getD_none,
        List.nil_append, ih, List.map_cons, List.append_assoc, List.singleton_append]

/-- Words with separators between them are the tokens of their text. -/
theorem shellTokens_words {text : JsString} {pieces : List Piece} (h : ReadsAs text pieces)
    (words : List WordText) :
    shellTokens (text ++ wordsText words) =
      some ((pieces :: words.map (·.pieces)).map ShellToken.word) := by
  rw [shellTokens, Lexer.run_append, h, Option.bind_some, Option.getD_none, List.nil_append,
    run_wordsText, List.nil_append, List.map_cons, List.map_map]
  rfl

/-- One simple command, word by word. -/
theorem simpleCommand_of_tokens {env : JsString → JsString} {text : JsString}
    {words : List (List Piece)} {values : List JsString}
    (htokens : shellTokens text = some (words.map ShellToken.word))
    (hvalues : words.mapM (wordValue env) = some values) (hne : values ≠ [])
    (hplain : values.head? ∉ reservedWords.map some) :
    simpleCommand env text = some values := by
  have hwords : (words.map ShellToken.word).mapM ShellToken.pieces? = some words := by
    have hpure := List.mapM_pure (m := Option) (l := words) (f := id)
    rw [List.map_id] at hpure
    rw [List.mapM_map]
    exact hpure
  simp only [simpleCommand, htokens, hwords, hvalues, Option.bind_eq_bind, Option.bind_some]
  exact if_neg (not_or.mpr ⟨hne, hplain⟩)

end LuxLedger.Foundation
