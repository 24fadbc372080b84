/-
  Foundation/Exposition.lean --- the text format in which metrics are exposed to
  Prometheus, version 0.0.4: a reader of its lines, and that it reads back what is
  written with escaped label values.

  A line is blank, a comment, or a sample: a metric name, labels in braces unless there
  are none, a value and possibly a timestamp.  Samples are read without interpreting their
  values and without the grouping into families that `# TYPE` comments announce.
-/
import LuxLedger.Javascript.CodeUnits
import LuxLedger.Javascript.Text

set_option autoImplicit false

namespace LuxLedger.Foundation

open Javascript JsString

/-- A line of the page that has a value. -/
structure Sample where
  name : JsString
  labels : List (JsString × JsString)
  value : JsString
  deriving DecidableEq

namespace Exposition

/-- The line feed. -/
def lineFeed : CodeUnit := 10

/-- The quotation mark. -/
def quotation : CodeUnit := 34

/-- The backslash. -/
def escapeUnit : CodeUnit := 92

/-- A space or a tab. -/
def isBlank (u : CodeUnit) : Bool := u = 32 || u = 9

/-- A colon may stand in the name of a metric, not in that of a label. -/
def isMetricStart (u : CodeUnit) : Bool := isNameStart u || u = 58

/-- What a metric name may contain. -/
def isMetricUnit (u : CodeUnit) : Bool := isNameUnit u || u = 58

/-! ## Reading a line -/

/-- What the reader of a sample expects next. -/
inductive Stage where
  | name
  /-- behind the name; braces may still follow -/
  | named
  | labelStart
  | labelName (read : JsString)
  /-- behind the equals sign -/
  | opening (label : JsString)
  | quoted (label read : JsString)
  | escape (label read : JsString)
  | labelEnd
  /-- behind the braces -/
  | labelled
  | value (read : JsString)
  | timestamp (value : JsString)
  deriving DecidableEq

/-- A line that is being read. -/
structure LineReader where
  name : JsString
  labels : List (JsString × JsString)
  stage : Stage
  deriving DecidableEq

/-- The unit that an escape stands for. -/
def unescape (u : CodeUnit) : Option CodeUnit :=
  if u = escapeUnit then some escapeUnit
  else if u = quotation then some quotation
  else if u = 110 then some lineFeed
  else none

namespace LineReader

variable (reader : LineReader)

/-- Read a unit of the line. -/
def step (u : CodeUnit) : Option LineReader :=
  match reader.stage with
  | .name =>
      if isMetricUnit u ∧ (reader.name ≠ [] ∨ isMetricStart u) then
        some { reader with name := reader.name ++ [u] }
      else if reader.name = [] then if isBlank u then some reader else none
      else if u = 123 then some { reader with stage := .labelStart }
      else if isBlank u then some { reader with stage := .named }
      else none
  | .named =>
      if isBlank u then some reader
      else if u = 123 then some { reader with stage := .labelStart }
      else some { reader with stage := .value [u] }
  | .labelStart =>
      if isBlank u then some reader
      else if u = 125 then some { reader with stage := .labelled }
      else if isNameStart u then some { reader with stage := .labelName [u] }
      else none
  | .labelName read =>
      if isNameUnit u then some { reader with stage := .labelName (read ++ [u]) }
      else if u = 61 then some { reader with stage := .opening read }
      else none
  | .opening label =>
      if isBlank u then some reader
      else if u = quotation then some { reader with stage := .quoted label [] }
      else none
  | .quoted label read =>
      if u = quotation then
        some { reader with labels := reader.labels ++ [(label, read)], stage := .labelEnd }
      else if u = escapeUnit then some { reader with stage := .escape label read }
      else some { reader with stage := .quoted label (read ++ [u]) }
  | .escape label read =>
      (unescape u).map fun v => { reader with stage := .quoted label (read ++ [v]) }
  | .labelEnd =>
      if isBlank u then some reader
      else if u = 44 then some { reader with stage := .labelStart }
      else if u = 125 then some { reader with stage := .labelled }
      else none
  | .labelled =>
      if isBlank u then some reader else some { reader with stage := .value [u] }
  | .value read =>
      if isBlank u then some { reader with stage := .timestamp read }
      else some { reader with stage := .value (read ++ [u]) }
  | .timestamp _ =>
      if isBlank u ∨ u = 45 ∨ (48 ≤ u ∧ u ≤ 57) then some reader else none

/-- Read a text. -/
def run (text : JsString) : Option LineReader := text.foldlM step reader

/-- The sample of the line, if it is over where it may be. -/
def finish : Option Sample :=
  match reader.stage with
  | .value read | .timestamp read => some ⟨reader.name, reader.labels, read⟩
  | _ => none

theorem run_append (text rest : JsString) :
    reader.run (text ++ rest) = (reader.run text).bind fun next => next.run rest :=
  List.foldlM_append

theorem run_cons (u : CodeUnit) (rest : JsString) :
    reader.run (u :: rest) = (reader.step u).bind fun next => next.run rest :=
  List.foldlM_cons

theorem run_nil : reader.run [] = some reader := rfl

end LineReader

/-- The sample on a line. -/
def readSample (line : JsString) : Option Sample :=
  (LineReader.run ⟨[], [], .name⟩ line).bind LineReader.finish

/-! ## Writing a line -/

/-- A label value between its quotes. -/
def escaped (value : JsString) : JsString :=
  value.flatMap fun u =>
    if u = escapeUnit then [escapeUnit, escapeUnit]
    else if u = lineFeed then [escapeUnit, 110]
    else if u = quotation then [escapeUnit, quotation]
    else [u]

/-- A label, written. -/
def labelText (label : JsString × JsString) : JsString :=
  label.1 ++ 61 :: quotation :: (escaped label.2 ++ [quotation])

/-- Labels, written. -/
def labelsText (labels : List (JsString × JsString)) : JsString :=
  if labels = [] then [] else 123 :: ([44].intercalate (labels.map labelText) ++ [125])

/-- A sample, written. -/
def sampleText (sample : Sample) : JsString :=
  sample.name ++ labelsText sample.labels ++ 32 :: sample.value

/-- A name that begins with one kind of unit and goes on with another. -/
def IsNameOf (start unit : CodeUnit → Bool) (name : JsString) : Prop :=
  name.head?.any start = true ∧ Every unit name

instance (start unit : CodeUnit → Bool) (name : JsString) : Decidable (IsNameOf start unit name) :=
  inferInstanceAs (Decidable (_ ∧ _))

/-- A unit of a number, as far as the reader cares. -/
def isValueUnit (u : CodeUnit) : Bool := !isBlank u && u ≠ lineFeed && u ≠ 123

/-- What can be written as a value. -/
def IsValue (value : JsString) : Prop := value ≠ [] ∧ Every isValueUnit value

instance (value : JsString) : Decidable (IsValue value) :=
  inferInstanceAs (Decidable (_ ∧ _))

/-- A sample that can be written; nothing is asked of the label values. -/
structure Writable (sample : Sample) : Prop where
  name : IsNameOf isMetricStart isMetricUnit sample.name
  labels : ∀ label ∈ sample.labels, IsNameOf isNameStart isNameUnit label.1
  value : IsValue sample.value

section ReadBack

theorem isBlank_eq_false {unit : CodeUnit → Bool} {u : CodeUnit} (hu : unit u = true)
    (hspace : unit 32 = false) (htab : unit 9 = false) : isBlank u = false := by
  cases hblank : isBlank u with
  | false => rfl
  | true =>
      simp only [isBlank, Bool.or_eq_true, decide_eq_true_eq] at hblank
      rcases hblank with rfl | rfl
      · rw [hspace] at hu
        exact hu.symm
      · rw [htab] at hu
        exact hu.symm

variable {name label : JsString} {labels : List (JsString × JsString)}

theorem run_metricName (h : IsNameOf isMetricStart isMetricUnit name) :
    LineReader.run ⟨[], [], .name⟩ name = some ⟨name, [], .name⟩ := by
  obtain ⟨hstart, hunits⟩ := h
  have hrun : ∀ (rest read : JsString), read ≠ [] → Every isMetricUnit rest →
      LineReader.run ⟨read, [], .name⟩ rest = some ⟨read ++ rest, [], .name⟩ := by
    intro rest
    induction rest with
    | nil =>
        intro read _ _
        rw [List.append_nil, LineReader.run_nil]
    | cons u rest ih =>
        intro read hread hrest
        have hnext := ih (read ++ [u]) (by simp) fun v hv => hrest v (List.mem_cons_of_mem u hv)
        rw [List.append_assoc, List.singleton_append] at hnext
        rw [LineReader.run_cons, LineReader.step]
        dsimp only
        rw [if_pos ⟨hrest u List.mem_cons_self, Or.inl hread⟩, Option.bind_some, hnext]
  cases name with
  | nil => cases hstart
  | cons first rest =>
      have hfirst : isMetricStart first = true := by simpa using hstart
      rw [LineReader.run_cons, LineReader.step]
      dsimp only
      rw [if_pos ⟨hunits first List.mem_cons_self, Or.inr hfirst⟩, Option.bind_some,
        hrun rest _ (by simp) fun v hv => hunits v (List.mem_cons_of_mem first hv)]
      rfl

theorem run_labelName (h : IsNameOf isNameStart isNameUnit label) :
    LineReader.run ⟨name, labels, .labelStart⟩ label =
      some ⟨name, labels, .labelName label⟩ := by
  obtain ⟨hstart, hunits⟩ := h
  have hrun : ∀ (rest read : JsString), Every isNameUnit rest →
      LineReader.run ⟨name, labels, .labelName read⟩ rest =
        some ⟨name, labels, .labelName (read ++ rest)⟩ := by
    intro rest
    induction rest with
    | nil =>
        intro read _
        rw [List.append_nil, LineReader.run_nil]
    | cons u rest ih =>
        intro read hrest
        have hnext := ih (read ++ [u]) fun v hv => hrest v (List.mem_cons_of_mem u hv)
        rw [List.append_assoc, List.singleton_append] at hnext
        rw [LineReader.run_cons, LineReader.step]
        dsimp only
        rw [if_pos (hrest u List.mem_cons_self), Option.bind_some, hnext]
  cases label with
  | nil => cases hstart
  | cons first rest =>
      have hfirst : isNameStart first = true := by simpa using hstart
      have hblank := isBlank_eq_false hfirst (by decide) (by decide)
      have hbrace : first ≠ 125 := by
        rintro rfl
        exact absurd hfirst (by decide)
      rw [LineReader.run_cons, LineReader.step]
      dsimp only
      rw [hblank, if_neg Bool.false_ne_true, if_neg hbrace, if_pos hfirst, Option.bind_some,
        hrun rest _ fun v hv => hunits v (List.mem_cons_of_mem first hv)]
      rfl

/-- The reader undoes the escapes, whatever the value holds. -/
theorem run_escaped (value read : JsString) :
    LineReader.run ⟨name, labels, .quoted label read⟩ (escaped value) =
      some ⟨name, labels, .quoted label (read ++ value)⟩ := by
  induction value generalizing read with
  | nil =>
      rw [List.append_nil]
      rfl
  | cons u rest ih =>
      have hnext := ih (read ++ [u])
      rw [List.append_assoc, List.singleton_append] at hnext
      rw [escaped, List.flatMap_cons, ← escaped, LineReader.run_append, ← hnext]
      split_ifs with hescape hline hquote
      · rw [hescape]
        rfl
      · rw [hline]
        rfl
      · rw [hquote]
        rfl
      · rw [LineReader.run_cons, LineReader.step]
        dsimp only
        rw [if_neg hquote, if_neg hescape, Option.bind_some]
        rfl

theorem run_labelText {pair : JsString × JsString} (h : IsNameOf isNameStart isNameUnit pair.1) :
    LineReader.run ⟨name, labels, .labelStart⟩ (labelText pair) =
      some ⟨name, labels ++ [pair], .labelEnd⟩ := by
  have hquote : LineReader.run ⟨name, labels, .labelName pair.1⟩ [61, quotation] =
      some ⟨name, labels, .quoted pair.1 []⟩ := rfl
  have hopen : labelText pair =
      pair.1 ++ ([61, quotation] ++ (escaped pair.2 ++ [quotation])) := rfl
  rw [hopen, LineReader.run_append, run_labelName h, Option.bind_some, LineReader.run_append,
    hquote, Option.bind_some, LineReader.run_append, run_escaped, Option.bind_some]
  rfl

theorem run_labels {pairs : List (JsString × JsString)} (hne : pairs ≠ [])
    (h : ∀ pair ∈ pairs, IsNameOf isNameStart isNameUnit pair.1) :
    LineReader.run ⟨name, labels, .labelStart⟩ ([44].intercalate (pairs.map labelText)) =
      some ⟨name, labels ++ pairs, .labelEnd⟩ := by
  induction pairs generalizing labels with
  | nil => exact absurd rfl hne
  | cons pair rest ih =>
      have hpair := @run_labelText name labels pair (h pair List.mem_cons_self)
      cases rest with
      | nil =>
          rw [List.map_singleton, List.intercalate_singleton]
          exact hpair
      | cons next rest =>
          have hcomma : LineReader.run ⟨name, labels ++ [pair], .labelEnd⟩ [44] =
              some ⟨name, labels ++ [pair], .labelStart⟩ := rfl
          have hrest := @ih (labels ++ [pair]) (List.cons_ne_nil next rest)
            fun p hp => h p (List.mem_cons_of_mem pair hp)
          rw [List.append_assoc, List.singleton_append] at hrest
          rw [List.map_cons, List.map_cons, List.intercalate_cons_cons, ← List.map_cons,
            LineReader.run_append, LineReader.run_append, hpair, Option.bind_some, hcomma,
            Option.bind_some, hrest]

theorem run_value {value : JsString} (h : IsValue value) {stage : Stage}
    (hstage : stage = .named ∨ stage = .labelled) :
    LineReader.run ⟨name, labels, stage⟩ value = some ⟨name, labels, .value value⟩ := by
  obtain ⟨hne, hunits⟩ := h
  have hunit : ∀ u ∈ value, isBlank u = false ∧ u ≠ 123 := by
    intro u hu
    have hu := hunits u hu
    simp only [isValueUnit, Bool.and_eq_true, Bool.not_eq_true', decide_eq_true_eq] at hu
    exact ⟨hu.1.1, hu.2⟩
  have hrun : ∀ (rest read : JsString), (∀ u ∈ rest, isBlank u = false) →
      LineReader.run ⟨name, labels, .value read⟩ rest =
        some ⟨name, labels, .value (read ++ rest)⟩ := by
    intro rest
    induction rest with
    | nil =>
        intro read _
        rw [List.append_nil, LineReader.run_nil]
    | cons u rest ih =>
        intro read hrest
        have hnext := ih (read ++ [u]) fun v hv => hrest v (List.mem_cons_of_mem u hv)
        rw [List.append_assoc, List.singleton_append] at hnext
        rw [LineReader.run_cons, LineReader.step]
        dsimp only
        rw [hrest u List.mem_cons_self, if_neg Bool.false_ne_true, Option.bind_some, hnext]
  obtain ⟨first, rest, rfl⟩ := List.exists_cons_of_ne_nil hne
  obtain ⟨hblank, hbrace⟩ := hunit first List.mem_cons_self
  have hfirst : LineReader.step ⟨name, labels, stage⟩ first =
      some ⟨name, labels, .value [first]⟩ := by
    rcases hstage with rfl | rfl
    · simp only [LineReader.step, hblank, Bool.false_eq_true, if_false, hbrace]
    · simp only [LineReader.step, hblank, Bool.false_eq_true, if_false]
  rw [LineReader.run_cons, hfirst, Option.bind_some,
    hrun rest _ fun v hv => (hunit v (List.mem_cons_of_mem first hv)).1]
  rfl

/-- What is written is read back. -/
theorem readSample_sampleText {sample : Sample} (h : Writable sample) :
    readSample (sampleText sample) = some sample := by
  obtain ⟨name, labels, value⟩ := sample
  obtain ⟨hname, hlabels, hvalue⟩ := h
  have hblank : name ++ labelsText labels ++ 32 :: value =
      name ++ ((labelsText labels ++ [32]) ++ value) := by
    simp only [List.append_assoc, List.singleton_append]
  obtain ⟨stage, hstage, hrun⟩ : ∃ stage, (stage = Stage.named ∨ stage = Stage.labelled) ∧
      LineReader.run ⟨name, [], .name⟩ (labelsText labels ++ [32]) =
        some ⟨name, labels, stage⟩ := by
    obtain ⟨first, rest, hcons⟩ : ∃ first rest, name = first :: rest := by
      cases name with
      | nil => exact absurd hname.1 Bool.false_ne_true
      | cons first rest => exact ⟨first, rest, rfl⟩
    unfold labelsText
    split_ifs with hnil
    · refine ⟨.named, Or.inl rfl, ?_⟩
      rw [hnil, hcons]
      rfl
    · refine ⟨.labelled, Or.inr rfl, ?_⟩
      have hopen : LineReader.step ⟨name, [], .name⟩ 123 = some ⟨name, [], .labelStart⟩ := by
        rw [hcons]
        rfl
      rw [List.cons_append, LineReader.run_cons, hopen, Option.bind_some, List.append_assoc,
        LineReader.run_append, run_labels hnil hlabels, Option.bind_some, List.nil_append]
      rfl
  rw [readSample, sampleText, hblank, LineReader.run_append, run_metricName hname,
    Option.bind_some, LineReader.run_append, hrun, Option.bind_some, run_value hvalue hstage]
  rfl

end ReadBack

/-! ## Pages -/

/-- A blank line or a comment. -/
def isSkipped (line : JsString) : Bool :=
  match line.dropWhile isBlank with
  | [] => true
  | u :: _ => u = 35

/-- The samples of a page, whose last line is ended by a line feed. -/
def readPage (text : JsString) : Option (List Sample) :=
  let lines := text.splitOn lineFeed
  if lines.getLast? = some [] then
    (lines.dropLast.filter fun line => !isSkipped line).mapM readSample
  else none

/-- A line of a page. -/
inductive PageLine where
  | comment (text : JsString)
  | sample (sample : Sample)

namespace PageLine

/-- The line, written. -/
def text : PageLine → JsString
  | .comment text => 35 :: text
  | .sample s => sampleText s

/-- The sample of the line. -/
def sample? : PageLine → Option Sample
  | .comment _ => none
  | .sample s => some s

/-- The line can be written. -/
def Valid : PageLine → Prop
  | .comment text => lineFeed ∉ text
  | .sample s => Writable s

end PageLine

/-- The lines joined, with a line feed behind the last. -/
def pageText (lines : List PageLine) : JsString :=
  [lineFeed].intercalate (lines.map PageLine.text) ++ [lineFeed]

section Pages

variable {sample : Sample} {line : PageLine} {lines : List PageLine}

theorem lineFeed_not_mem_escaped (value : JsString) : lineFeed ∉ escaped value := by
  intro hmem
  obtain ⟨u, -, hu⟩ := List.mem_flatMap.mp hmem
  split_ifs at hu with hescape hline hquote
  · exact absurd hu (by decide)
  · exact absurd hu (by decide)
  · exact absurd hu (by decide)
  · exact hline (List.mem_singleton.mp hu).symm

theorem IsNameOf.lineFeed_not_mem {start unit : CodeUnit → Bool} {name : JsString}
    (h : IsNameOf start unit name) (hunit : unit lineFeed = false) : lineFeed ∉ name := fun hmem =>
  absurd (h.2 lineFeed hmem) (by rw [hunit]; exact Bool.false_ne_true)

theorem lineFeed_not_mem_labelsText {labels : List (JsString × JsString)}
    (h : ∀ label ∈ labels, IsNameOf isNameStart isNameUnit label.1) :
    lineFeed ∉ labelsText labels := by
  unfold labelsText
  split_ifs
  · exact List.not_mem_nil
  · intro hmem
    rcases List.mem_cons.mp hmem with hbrace | hmem
    · exact absurd hbrace (by decide)
    rcases List.mem_append.mp hmem with hmem | hbrace
    · rcases mem_of_mem_intercalate hmem with hcomma | ⟨text, htext, hmem⟩
      · exact absurd hcomma (by decide)
      obtain ⟨label, hlabel, rfl⟩ := List.mem_map.mp htext
      rcases List.mem_append.mp hmem with hname | hmem
      · exact (h label hlabel).lineFeed_not_mem (by decide) hname
      · simp only [List.mem_cons, List.mem_append, List.not_mem_nil, or_false] at hmem
        rcases hmem with hequals | hquote | hvalue | hquote
        · exact absurd hequals (by decide)
        · exact absurd hquote (by decide)
        · exact lineFeed_not_mem_escaped label.2 hvalue
        · exact absurd hquote (by decide)
    · exact absurd hbrace (by decide)

/-- The text of a sample stays on its line. -/
theorem lineFeed_not_mem_sampleText (h : Writable sample) : lineFeed ∉ sampleText sample := by
  intro hmem
  rw [sampleText, List.mem_append, List.mem_append, List.mem_cons] at hmem
  rcases hmem with (hname | hlabels) | hblank | hvalue
  · exact h.name.lineFeed_not_mem (by decide) hname
  · exact lineFeed_not_mem_labelsText h.labels hlabels
  · exact absurd hblank (by decide)
  · exact absurd (h.value.2 lineFeed hvalue) (by decide)

theorem isSkipped_sampleText (h : Writable sample) : isSkipped (sampleText sample) = false := by
  obtain ⟨hstart, -⟩ := h.name
  rw [sampleText]
  cases hname : sample.name with
  | nil =>
      rw [hname] at hstart
      cases hstart
  | cons first rest =>
      rw [hname] at hstart
      have hfirst : isMetricStart first = true := by simpa using hstart
      have hblank := isBlank_eq_false hfirst (by decide) (by decide)
      have hcomment : first ≠ 35 := by
        rintro rfl
        exact absurd hfirst (by decide)
      rw [isSkipped, List.cons_append, List.cons_append,
        List.dropWhile_cons_of_neg (by simp [hblank])]
      exact decide_eq_false hcomment

theorem PageLine.Valid.lineFeed_not_mem (h : line.Valid) : lineFeed ∉ line.text := by
  cases line with
  | comment text => exact List.not_mem_cons_of_ne_of_not_mem (by decide) h
  | sample sample => exact lineFeed_not_mem_sampleText h

/-- A page holds the samples that were written to it, in their order. -/
theorem readPage_pageText (hne : lines ≠ []) (h : ∀ line ∈ lines, line.Valid) :
    readPage (pageText lines) = some (lines.filterMap PageLine.sample?) := by
  have hfree : ∀ text ∈ lines.map PageLine.text ++ [[]], lineFeed ∉ text := by
    intro text htext
    rcases List.mem_append.mp htext with htext | hlast
    · obtain ⟨line, hline, rfl⟩ := List.mem_map.mp htext
      exact (h line hline).lineFeed_not_mem
    · rw [List.mem_singleton.mp hlast]
      exact List.not_mem_nil
  have hjoined : pageText lines = [lineFeed].intercalate (lines.map PageLine.text ++ [[]]) := by
    rw [intercalate_append (by simpa using hne) (List.cons_ne_nil _ _),
      List.intercalate_singleton, List.append_nil, pageText]
  have hsplit : (pageText lines).splitOn lineFeed = lines.map PageLine.text ++ [[]] := by
    rw [hjoined, List.splitOn_intercalate lineFeed hfree (by simp)]
  rw [readPage, hsplit]
  simp only [List.getLast?_concat, if_true, List.dropLast_concat]
  clear hfree hjoined hsplit hne
  induction lines with
  | nil => rfl
  | cons line rest ih =>
      have hrest := ih fun l hl => h l (List.mem_cons_of_mem line hl)
      have hline := h line List.mem_cons_self
      rw [List.map_cons, List.filter_cons, List.filterMap_cons]
      cases line with
      | comment text => exact hrest
      | sample sample =>
          have hkept : (!isSkipped (PageLine.sample sample).text) = true := by
            rw [PageLine.text, isSkipped_sampleText hline]
            rfl
          have hread : readSample (PageLine.sample sample).text = some sample :=
            readSample_sampleText hline
          rw [if_pos hkept, List.mapM_cons, hread, hrest]
          rfl

end Pages

end Exposition

end LuxLedger.Foundation
