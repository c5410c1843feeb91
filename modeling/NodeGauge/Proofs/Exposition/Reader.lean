/-
Module: NodeGauge.Proofs.Exposition.Reader
Purpose: A reader of the text form of pages.  It takes lines that end in a line feed, tells comments
  from samples, and reads a sample character by character; every page whose names are names reads
  back as its lines.
Main exports: Exposition.Reading, Exposition.Stage, Exposition.Line, Exposition.readPage,
  Exposition.readSamples, Exposition.Family.IsReadable, Exposition.readPage_render
-/
import NodeGauge.Exposition.Page
import NodeGauge.Proofs.Number.Numeral

namespace NodeGauge.Exposition

/-! ### Names -/

/-- A character that may start the key of a label. -/
def isKeyStart (c : Char) : Bool := c.isAlpha || c == '_'

/-- A character that may stand in the key of a label. -/
def isKeyChar (c : Char) : Bool := isKeyStart c || Numeral.isDigit c

/-- A character that may stand in the name of a metric. -/
def isMetricChar (c : Char) : Bool := isKeyChar c || c == ':'

/-- A key of a label: letters, digits and underscores, and no digit at its front. -/
def isLabelName : Text → Bool
  | [] => false
  | c :: cs => isKeyStart c && cs.all isKeyChar

/-- A name of a metric, which may hold colons too. -/
def isMetricName : Text → Bool
  | [] => false
  | c :: cs => (isKeyStart c || c == ':') && cs.all isMetricChar

theorem isKeyChar_of_mem {key : Text} (isName : isLabelName key = true) :
    ∀ c ∈ key, isKeyChar c = true := by
  cases key with
  | nil => simp
  | cons c cs =>
      simp only [isLabelName, Bool.and_eq_true, List.all_eq_true] at isName
      intro d member
      rcases List.mem_cons.1 member with rfl | later
      · simp [isKeyChar, isName.1]
      · exact isName.2 d later

theorem isMetricChar_of_mem {name : Text} (isName : isMetricName name = true) :
    ∀ c ∈ name, isMetricChar c = true := by
  cases name with
  | nil => simp
  | cons c cs =>
      simp only [isMetricName, Bool.and_eq_true, List.all_eq_true] at isName
      intro d member
      rcases List.mem_cons.1 member with rfl | later
      · rcases Bool.or_eq_true_iff.1 isName.1 with start | colon
        · simp [isMetricChar, isKeyChar, start]
        · simp [isMetricChar, colon]
      · exact isName.2 d later

theorem not_mem_of_isMetricName {name : Text} (isName : isMetricName name = true) {c : Char}
    (other : isMetricChar c = false) : c ∉ name := by
  intro member
  rw [isMetricChar_of_mem isName c member] at other
  exact Bool.noConfusion other

/-! ### Samples, character by character -/

/-- A sample as a reader sees it: its metric, its labels in their order, and its value. -/
structure Reading where
  metric : Text
  labels : List Label
  value : Nat
deriving Repr, DecidableEq

/-- Where a reader stands in the line of a sample, with what it has read so far. -/
inductive Stage where
  /-- In the name of the metric. -/
  | metric (name : Text)
  /-- Between braces, where a key or the end of the labels may come. -/
  | braces (metric : Text) (labels : List Label)
  /-- In the key of a label. -/
  | key (metric : Text) (labels : List Label) (key : Text)
  /-- Behind the key and the equals sign. -/
  | assigned (metric : Text) (labels : List Label) (key : Text)
  /-- Inside the quotes of a value. -/
  | quoted (metric : Text) (labels : List Label) (key value : Text)
  /-- Inside the quotes, behind the escape mark. -/
  | escape (metric : Text) (labels : List Label) (key value : Text)
  /-- Behind the quotes of a value. -/
  | behind (metric : Text) (labels : List Label)
  /-- Behind the closing brace. -/
  | labelled (metric : Text) (labels : List Label)
  /-- In the number. -/
  | number (metric : Text) (labels : List Label) (digits : Text)
deriving Repr, DecidableEq

namespace Stage

/-- The stage behind one more character, if the character may stand there. -/
def step : Stage → Char → Option Stage
  | metric name, c =>
      if c = '\x7b' then some (braces name [])
      else if c = ' ' then some (number name [] [])
      else if isMetricChar c then some (metric (name ++ [c]))
      else none
  | braces m ls, c =>
      if c = '\x7d' then some (labelled m ls)
      else if isKeyChar c then some (key m ls [c])
      else none
  | key m ls k, c =>
      if c = '=' then if isLabelName k then some (assigned m ls k) else none
      else if isKeyChar c then some (key m ls (k ++ [c]))
      else none
  | assigned m ls k, c => if c = '"' then some (quoted m ls k []) else none
  | quoted m ls k v, c =>
      match c with
      | '"' => some (behind m (ls ++ [⟨k, v⟩]))
      | '\\' => some (escape m ls k v)
      | '\n' => none
      | c => some (quoted m ls k (v ++ [c]))
  | escape m ls k v, c =>
      match c with
      | '\\' => some (quoted m ls k (v ++ ['\\']))
      | '"' => some (quoted m ls k (v ++ ['"']))
      | 'n' => some (quoted m ls k (v ++ ['\n']))
      | _ => none
  | behind m ls, c =>
      if c = ',' then some (braces m ls)
      else if c = '\x7d' then some (labelled m ls)
      else none
  | labelled m ls, c => if c = ' ' then some (number m ls []) else none
  | number m ls ds, c => if Numeral.isDigit c then some (number m ls (ds ++ [c])) else none

/-- The stage behind a text. -/
def run : Stage → Text → Option Stage
  | s, [] => some s
  | s, c :: rest => (s.step c).bind fun next => run next rest

/-- The sample of a line that ends at this stage. -/
def finish : Stage → Option Reading
  | number m ls ds =>
      if isMetricName m && !ds.isEmpty then some ⟨m, ls, Numeral.value ds⟩ else none
  | _ => none

end Stage

/-- Read the line of a sample. -/
def readSample (line : Text) : Option Reading := ((Stage.metric []).run line).bind Stage.finish

/-! ### Lines and pages -/

/-- A line of the text form. -/
inductive Line where
  | blank
  | comment (text : Text)
  /-- What a metric means. -/
  | help (metric text : Text)
  /-- How a metric behaves. -/
  | type (metric : Text) (kind : Kind)
  | sample (reading : Reading)
deriving Repr, DecidableEq

/-- The kind of a word. -/
def Kind.ofWord? (word : Text) : Option Kind := [counter, gauge].find? (·.word = word)

/-- Read what stands behind the mark of a comment. -/
def readComment : Text → Option Line
  | ' ' :: 'H' :: 'E' :: 'L' :: 'P' :: ' ' :: rest => do
      let (metric, text) ← Text.cut ' ' rest
      if isMetricName metric then some (.help metric text) else none
  | ' ' :: 'T' :: 'Y' :: 'P' :: 'E' :: ' ' :: rest => do
      let (metric, word) ← Text.cut ' ' rest
      let kind ← Kind.ofWord? word
      if isMetricName metric then some (.type metric kind) else none
  | text => some (.comment text)

/-- Read a line without its line feed. -/
def readLine : Text → Option Line
  | [] => some .blank
  | '#' :: rest => readComment rest
  | line => (readSample line).map .sample

/-- The lines of a text, each of which must end in a line feed. -/
def lines? (s : Text) : Option (List Text) :=
  let pieces := s.splitOn '\n'
  if pieces.getLast? = some [] then some pieces.dropLast else none

/-- Read a page, line by line. -/
def readPage (s : Text) : Option (List Line) := do
  let lines ← lines? s
  lines.mapM readLine

/-- The sample on a line, if there is one. -/
def Line.reading? : Line → Option Reading
  | sample reading => some reading
  | _ => none

/-- Read the samples of a page, past its comments. -/
def readSamples (s : Text) : Option (List Reading) :=
  (readPage s).map fun lines => lines.filterMap Line.reading?

/-! ### Running over what is written -/

/-- A proper front of an escaped character is empty or the escape mark alone. -/
theorem eq_of_prefix_escaped {front : Text} {c : Char} (isFront : front <+: escaped c) :
    front = [] ∨ front = ['\\'] ∨ front = escaped c := by
  rw [escaped.eq_def] at isFront ⊢
  split at isFront
  all_goals
    simp only [List.prefix_cons_iff, List.prefix_nil] at isFront
  · rcases isFront with rfl | ⟨_, rfl, rfl | ⟨_, rfl, rfl⟩⟩ <;> simp
  · rcases isFront with rfl | ⟨_, rfl, rfl | ⟨_, rfl, rfl⟩⟩ <;> simp
  · rcases isFront with rfl | ⟨_, rfl, rfl | ⟨_, rfl, rfl⟩⟩ <;> simp
  · rcases isFront with rfl | ⟨_, rfl, rfl⟩ <;> simp

namespace Stage

theorem run_append (s : Stage) (front back : Text) :
    s.run (front ++ back) = (s.run front).bind fun next => next.run back := by
  induction front generalizing s with
  | nil => rfl
  | cons c front ih =>
      simp only [List.cons_append, run]
      cases step : s.step c with
      | none => rfl
      | some next => simpa using ih next

theorem run_of_run {s next : Stage} {front : Text} (here : s.run front = some next) (back : Text) :
    s.run (front ++ back) = next.run back := by
  rw [run_append, here, Option.bind_some]

theorem run_cons {s next : Stage} {c : Char} (here : s.step c = some next) (back : Text) :
    s.run (c :: back) = next.run back := by
  rw [run, here, Option.bind_some]

/-- A stage that takes in a text piece by piece, each piece for one character, holds the characters
at the end. -/
theorem run_flatMap (stage : Text → Stage) {write : Char → Text} {s : Text}
    (one : ∀ c ∈ s, ∀ t, (stage t).run (write c) = some (stage (t ++ [c]))) (t : Text) :
    (stage t).run (s.flatMap write) = some (stage (t ++ s)) := by
  induction s generalizing t with
  | nil => simp [run]
  | cons c s ih =>
      have first := one c List.mem_cons_self t
      have rest := ih (fun d member => one d (List.mem_cons_of_mem _ member)) (t ++ [c])
      rw [List.flatMap_cons, run_of_run first, rest, List.append_assoc, List.singleton_append]

theorem run_chars (stage : Text → Stage) {s : Text}
    (one : ∀ c ∈ s, ∀ t, (stage t).step c = some (stage (t ++ [c]))) (t : Text) :
    (stage t).run s = some (stage (t ++ s)) := by
  have pieces : (stage t).run (s.flatMap fun c => [c]) = some (stage (t ++ s)) := by
    apply run_flatMap stage
    intro c member t
    rw [run_cons (one c member t), run]
  simpa using pieces

section

variable (m : Text) (ls : List Label)

theorem run_metric {name : Text} (isName : isMetricName name = true) :
    (metric []).run name = some (metric name) := by
  apply run_chars metric
  intro c member t
  have inName := isMetricChar_of_mem isName c member
  have noBrace : c ≠ '\x7b' := by
    rintro rfl
    exact absurd inName (by decide)
  have noSpace : c ≠ ' ' := by
    rintro rfl
    exact absurd inName (by decide)
  simp [step, noBrace, noSpace, inName]

theorem run_key {k : Text} (isName : isLabelName k = true) :
    (braces m ls).run (k ++ ['=']) = some (assigned m ls k) := by
  cases k with
  | nil => exact absurd isName (by decide)
  | cons c cs =>
      have parts := isName
      simp only [isLabelName, Bool.and_eq_true, List.all_eq_true] at parts
      have start : (braces m ls).step c = some (key m ls [c]) := by
        have noBrace : c ≠ '\x7d' := by
          rintro rfl
          exact absurd parts.1 (by decide)
        simp [step, noBrace, isKeyChar, parts.1]
      have rest : (key m ls [c]).run cs = some (key m ls (c :: cs)) := by
        apply run_chars (key m ls)
        intro d member t
        have inKey := parts.2 d member
        have noSign : d ≠ '=' := by
          rintro rfl
          exact absurd inKey (by decide)
        simp [step, noSign, inKey]
      have sign : (key m ls (c :: cs)).step '=' = some (assigned m ls (c :: cs)) := by
        simp [step, isName]
      rw [List.cons_append, run_cons start, run_of_run rest, run_cons sign, run]

theorem run_escaped (k t : Text) (c : Char) :
    (quoted m ls k t).run (escaped c) = some (quoted m ls k (t ++ [c])) := by
  rw [escaped.eq_def]
  split
  · rfl
  · rfl
  · rfl
  · next noMark noQuote noFeed =>
      have here : (quoted m ls k t).step c = some (quoted m ls k (t ++ [c])) := by
        rw [step.eq_def]
        split <;> simp_all
      rw [run_cons here, run]

/-- An escaped value is taken in character by character, and leaves the reader inside the quotes. -/
theorem run_quoted (k v t : Text) :
    (quoted m ls k t).run (v.flatMap escaped) = some (quoted m ls k (t ++ v)) := by
  apply run_flatMap (quoted m ls k)
  intro c _ t
  exact run_escaped m ls k t c

/-- The stage is inside the quotes of the value for this key. -/
def IsInside (k : Text) (s : Stage) : Prop :=
  ∃ v, s = quoted m ls k v ∨ s = escape m ls k v

theorem isInside_of_prefix_escaped {k t front : Text} {c : Char} (isFront : front <+: escaped c) :
    ∃ s, (quoted m ls k t).run front = some s ∧ IsInside m ls k s := by
  rcases eq_of_prefix_escaped isFront with rfl | rfl | rfl
  · exact ⟨_, rfl, t, Or.inl rfl⟩
  · exact ⟨_, rfl, t, Or.inr rfl⟩
  · exact ⟨_, run_escaped m ls k t c, _, Or.inl rfl⟩

/-- Nowhere in an escaped value does the reader leave the quotes. -/
theorem isInside_of_prefix {k v t front : Text} (isFront : front <+: v.flatMap escaped) :
    ∃ s, (quoted m ls k t).run front = some s ∧ IsInside m ls k s := by
  induction v generalizing t front with
  | nil =>
      obtain rfl : front = [] := List.prefix_nil.1 isFront
      exact ⟨_, rfl, t, Or.inl rfl⟩
  | cons c v ih =>
      rw [List.flatMap_cons] at isFront
      rcases List.prefix_or_prefix_of_prefix isFront (List.prefix_append _ _) with early | late
      · exact isInside_of_prefix_escaped m ls early
      · obtain ⟨more, rfl⟩ := late
        rw [run_of_run (run_escaped m ls k t c)]
        exact ih ((List.prefix_append_right_inj _).1 isFront)

theorem run_label {l : Label} (isName : isLabelName l.key = true) :
    (braces m ls).run l.render = some (behind m (ls ++ [l])) := by
  have split : l.render = (l.key ++ ['=']) ++ '"' :: (l.value.flatMap escaped ++ ['"']) := by
    simp [Label.render]
  have opening : (assigned m ls l.key).step '"' = some (quoted m ls l.key []) := rfl
  have closing : (quoted m ls l.key l.value).step '"' = some (behind m (ls ++ [l])) := rfl
  rw [split, run_of_run (run_key m ls isName), run_cons opening, run_of_run (run_quoted m ls _ _ _),
    List.nil_append, run_cons closing, run]

theorem run_labels {labels : List Label} (areNames : ∀ l ∈ labels, isLabelName l.key = true) :
    (braces m ls).run ([','].intercalate (labels.map Label.render) ++ ['\x7d']) =
      some (labelled m (ls ++ labels)) := by
  induction labels generalizing ls with
  | nil => simp [run, step]
  | cons l labels ih =>
      have first := run_label m ls (areNames l List.mem_cons_self)
      cases labels with
      | nil =>
          have closing : (behind m (ls ++ [l])).step '\x7d' = some (labelled m (ls ++ [l])) := rfl
          rw [List.map_singleton, List.intercalate_singleton, run_of_run first, run_cons closing,
            run]
      | cons next labels =>
          have comma : (behind m (ls ++ [l])).step ',' = some (braces m (ls ++ [l])) := rfl
          have later := ih (ls ++ [l]) fun other member =>
            areNames other (List.mem_cons_of_mem _ member)
          rw [List.map_cons, List.map_cons, List.intercalate_cons_cons, ← List.map_cons,
            List.append_assoc, List.append_assoc, run_of_run first, List.singleton_append,
            run_cons comma, later, List.append_assoc, List.singleton_append]

theorem run_number (n : Nat) :
    (number m ls []).run (Numeral.ofNat n) = some (number m ls (Numeral.ofNat n)) := by
  apply run_chars (number m ls)
  intro c member t
  simp [step, Numeral.isDigit_of_mem_ofNat member]

theorem run_renderLabels {labels : Option (List Label)}
    (areNames : ∀ own, labels = some own → ∀ l ∈ own, isLabelName l.key = true) :
    (metric m).run (renderLabels labels ++ [' ']) = some (number m (labels.getD []) []) := by
  cases labels with
  | none => rfl
  | some own =>
      have opening : (metric m).step '\x7b' = some (braces m []) := rfl
      have space : (labelled m own).step ' ' = some (number m own []) := rfl
      have inside := run_labels m [] (areNames own rfl)
      rw [renderLabels, List.cons_append, List.cons_append, run_cons opening, run_of_run inside,
        List.nil_append, run_cons space, run]
      rfl

end

end Stage

/-! ### Lines of families -/

/-- The line of a sample without its line feed. -/
def Sample.line (name : Text) (s : Sample) : Text :=
  name ++ renderLabels s.labels ++ ' ' :: Numeral.ofNat s.value

/-- What a reader sees of a sample. -/
def Sample.reading (name : Text) (s : Sample) : Reading := ⟨name, s.labels.getD [], s.value⟩

theorem readSample_line {name : Text} {s : Sample} (isName : isMetricName name = true)
    (areNames : ∀ own, s.labels = some own → ∀ l ∈ own, isLabelName l.key = true) :
    readSample (s.line name) = some (s.reading name) := by
  have split : s.line name =
      name ++ ((renderLabels s.labels ++ [' ']) ++ Numeral.ofNat s.value) := by
    simp [Sample.line]
  rw [readSample, split, Stage.run_of_run (Stage.run_metric isName),
    Stage.run_of_run (Stage.run_renderLabels name areNames), Stage.run_number, Option.bind_some]
  simp [Stage.finish, isName, Numeral.ofNat_ne_nil, Numeral.value_ofNat, Sample.reading]

example : readSample "up\x7bjob=\"a\\n\"\x7d 7".toList =
    some ⟨"up".toList, [⟨"job".toList, ['a', '\n']⟩], 7⟩ := by
  decide

/-- What stands on the lines of a family, without the line feeds. -/
def Family.texts (f : Family) : List Text :=
  ("# HELP ".toList ++ f.name ++ ' ' :: f.help) ::
    ("# TYPE ".toList ++ f.name ++ ' ' :: f.kind.word) :: f.samples.map (Sample.line f.name)

/-- What a reader sees of a family. -/
def Family.lines (f : Family) : List Line :=
  .help f.name f.help :: .type f.name f.kind ::
    f.samples.map fun s => .sample (s.reading f.name)

/-- A family whose names are names and whose help stays on its line. -/
structure Family.IsReadable (f : Family) : Prop where
  name : isMetricName f.name = true
  help : '\n' ∉ f.help
  keys : ∀ s ∈ f.samples, ∀ own, s.labels = some own → ∀ l ∈ own, isLabelName l.key = true

theorem Family.render_eq (f : Family) : f.render = f.texts.flatMap (· ++ ['\n']) := by
  have samples : f.samples.flatMap (Sample.render f.name) =
      (f.samples.map (Sample.line f.name)).flatMap (· ++ ['\n']) := by
    rw [List.flatMap_map]
    rfl
  unfold Family.render Family.texts
  -- The marks stay closed: rewriting would otherwise spell them out.
  generalize "# HELP ".toList = helpMark
  generalize "# TYPE ".toList = typeMark
  simp only [List.flatMap_cons, samples, List.append_assoc, List.cons_append, List.nil_append]

theorem lines?_flatMap {texts : List Text} (noFeed : ∀ text ∈ texts, '\n' ∉ text) :
    lines? (texts.flatMap (· ++ ['\n'])) = some texts := by
  have pieces : List.splitOn '\n' (texts.flatMap (· ++ ['\n'])) = texts ++ [[]] := by
    induction texts with
    | nil => rfl
    | cons text texts ih =>
        have later := ih fun other member => noFeed other (List.mem_cons_of_mem _ member)
        rw [List.flatMap_cons, List.append_assoc, List.singleton_append,
          List.splitOn_append_cons_self_of_not_mem (noFeed text List.mem_cons_self), later,
          List.cons_append]
  simp [lines?, pieces]

/-! ### No line feed inside a line -/

theorem feed_not_mem_escaped (c : Char) : '\n' ∉ escaped c := by
  rw [escaped.eq_def]
  split
  · decide
  · decide
  · decide
  · next noFeed =>
      intro member
      exact noFeed (List.mem_singleton.1 member).symm

/-- No label value can end its line. -/
theorem feed_not_mem_flatMap_escaped (v : Text) : '\n' ∉ v.flatMap escaped := by
  intro member
  obtain ⟨c, -, inside⟩ := List.mem_flatMap.1 member
  exact feed_not_mem_escaped c inside

theorem feed_not_mem_label {l : Label} (isName : isLabelName l.key = true) : '\n' ∉ l.render := by
  have key : '\n' ∉ l.key := by
    intro member
    exact absurd (isKeyChar_of_mem isName _ member) (by decide)
  have value := feed_not_mem_flatMap_escaped l.value
  simp only [Label.render, List.mem_append, List.mem_cons, not_or]
  exact ⟨⟨key, by decide, by decide, value⟩, by decide⟩

theorem feed_not_mem_renderLabels {labels : Option (List Label)}
    (areNames : ∀ own, labels = some own → ∀ l ∈ own, isLabelName l.key = true) :
    '\n' ∉ renderLabels labels := by
  cases labels with
  | none => simp [renderLabels]
  | some own =>
      have inside : '\n' ∉ [','].intercalate (own.map Label.render) := by
        intro member
        rcases Text.mem_of_mem_intercalate member with comma | ⟨part, among, within⟩
        · exact absurd comma (by decide)
        · obtain ⟨l, labelMember, rfl⟩ := List.mem_map.1 among
          exact feed_not_mem_label (areNames own rfl l labelMember) within
      simp [renderLabels, inside]

theorem feed_not_mem_line {name : Text} {s : Sample} (isName : isMetricName name = true)
    (areNames : ∀ own, s.labels = some own → ∀ l ∈ own, isLabelName l.key = true) :
    '\n' ∉ s.line name := by
  have inName : '\n' ∉ name := not_mem_of_isMetricName isName (by decide)
  have inNumber : '\n' ∉ Numeral.ofNat s.value := Numeral.not_mem_ofNat (by decide) s.value
  simp [Sample.line, inName, inNumber, feed_not_mem_renderLabels areNames]

theorem Family.feed_not_mem_texts {f : Family} (readable : f.IsReadable) :
    ∀ text ∈ f.texts, '\n' ∉ text := by
  have inName : '\n' ∉ f.name := not_mem_of_isMetricName readable.name (by decide)
  have inWord : '\n' ∉ f.kind.word := by cases f.kind <;> decide
  intro text member
  rcases List.mem_cons.1 member with rfl | member
  · simp [inName, readable.help]
  · rcases List.mem_cons.1 member with rfl | member
    · simp [inName, inWord]
    · obtain ⟨s, among, rfl⟩ := List.mem_map.1 member
      exact feed_not_mem_line readable.name (readable.keys s among)

/-! ### Pages read back -/

theorem cut_name {name : Text} (isName : isMetricName name = true) (rest : Text) :
    Text.cut ' ' (name ++ ' ' :: rest) = some (name, rest) :=
  Text.cut_eq_some_iff.2 ⟨rfl, not_mem_of_isMetricName isName (by decide)⟩

theorem readLine_help {name : Text} (isName : isMetricName name = true) (help : Text) :
    readLine ("# HELP ".toList ++ name ++ ' ' :: help) = some (.help name help) := by
  have mark : "# HELP ".toList = ['#', ' ', 'H', 'E', 'L', 'P', ' '] := by decide
  rw [mark, List.append_assoc]
  simp [readLine, readComment, cut_name isName, isName]

theorem readLine_type {name : Text} (isName : isMetricName name = true) (kind : Kind) :
    readLine ("# TYPE ".toList ++ name ++ ' ' :: kind.word) = some (.type name kind) := by
  have mark : "# TYPE ".toList = ['#', ' ', 'T', 'Y', 'P', 'E', ' '] := by decide
  have word : Kind.ofWord? kind.word = some kind := by cases kind <;> decide
  rw [mark, List.append_assoc]
  simp [readLine, readComment, cut_name isName, isName, word]

theorem readLine_sample {name : Text} {s : Sample} (isName : isMetricName name = true)
    (areNames : ∀ own, s.labels = some own → ∀ l ∈ own, isLabelName l.key = true) :
    readLine (s.line name) = some (.sample (s.reading name)) := by
  cases shape : s.line name with
  | nil => simp [Sample.line] at shape
  | cons c rest =>
      have noHash : c ≠ '#' := by
        rintro rfl
        cases name with
        | nil => exact absurd isName (by decide)
        | cons d name =>
            have first : d = '#' := by simpa [Sample.line] using (List.cons.inj shape).1
            subst first
            exact not_mem_of_isMetricName isName (c := '#') (by decide) List.mem_cons_self
      rw [readLine.eq_def]
      split
      · next empty => exact absurd empty (by simp)
      · next same => exact absurd (List.cons.inj same).1 noHash
      · rw [← shape, readSample_line isName areNames, Option.map_some]

theorem mapM_flatMap {α β γ : Type} {read : α → Option β} {texts : γ → List α} {lines : γ → List β}
    {parts : List γ} (each : ∀ part ∈ parts, (texts part).mapM read = some (lines part)) :
    (parts.flatMap texts).mapM read = some (parts.flatMap lines) := by
  induction parts with
  | nil => rfl
  | cons part parts ih =>
      have first := each part List.mem_cons_self
      have later := ih fun other member => each other (List.mem_cons_of_mem _ member)
      rw [List.flatMap_cons, List.mapM_append, first, later]
      rfl

theorem mapM_map {α β γ : Type} {read : α → Option β} {text : γ → α} {line : γ → β}
    {parts : List γ} (each : ∀ part ∈ parts, read (text part) = some (line part)) :
    (parts.map text).mapM read = some (parts.map line) := by
  rw [List.map_eq_flatMap, List.map_eq_flatMap]
  apply mapM_flatMap
  intro part member
  simp [each part member]

theorem Family.mapM_readLine {f : Family} (readable : f.IsReadable) :
    f.texts.mapM readLine = some f.lines := by
  have samples : (f.samples.map (Sample.line f.name)).mapM readLine =
      some (f.samples.map fun s => .sample (s.reading f.name)) :=
    mapM_map fun s among => readLine_sample readable.name (readable.keys s among)
  rw [Family.texts, List.mapM_cons, readLine_help readable.name, List.mapM_cons,
    readLine_type readable.name, samples]
  rfl

/-- A page of readable families reads back as the lines of its families. -/
theorem readPage_render {page : Page} (readable : ∀ f ∈ page, f.IsReadable) :
    readPage page.render = some (page.flatMap Family.lines) := by
  have texts : page.render = (page.flatMap Family.texts).flatMap (· ++ ['\n']) := by
    rw [Page.render, List.flatMap_assoc, funext Family.render_eq]
  have noFeed : ∀ text ∈ page.flatMap Family.texts, '\n' ∉ text := by
    intro text member
    obtain ⟨f, among, inside⟩ := List.mem_flatMap.1 member
    exact Family.feed_not_mem_texts (readable f among) text inside
  rw [readPage, texts, lines?_flatMap noFeed, Option.bind_eq_bind, Option.bind_some]
  exact mapM_flatMap fun f among => Family.mapM_readLine (readable f among)

/-- The samples of a family as a reader sees them. -/
def Family.readings (f : Family) : List Reading := f.samples.map (Sample.reading f.name)

theorem Family.filterMap_lines (f : Family) : f.lines.filterMap Line.reading? = f.readings := by
  simp only [Family.lines, Family.readings, List.filterMap_cons, Line.reading?,
    List.filterMap_map]
  induction f.samples with
  | nil => rfl
  | cons s own ih => simp [Line.reading?, ih]

theorem readSamples_render {page : Page} (readable : ∀ f ∈ page, f.IsReadable) :
    readSamples page.render = some (page.flatMap Family.readings) := by
  rw [readSamples, readPage_render readable, Option.map_some, List.filterMap_flatMap,
    funext Family.filterMap_lines]

end NodeGauge.Exposition
