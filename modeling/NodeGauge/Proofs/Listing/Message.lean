/-
Module: NodeGauge.Proofs.Listing.Message
Purpose: The message that refuses a row tells which fault it reports, with all that the fault holds,
  and stands on one line.
Main exports: Gres.Topic, Gres.Fault.eq_of_details, Listing.Topic, Listing.Fault.message_eq,
  Listing.Fault.eq_of_details, Listing.Fault.message_tells_fault
-/
import Mathlib.Data.List.Nodup
import NodeGauge.Listing.Fault
import NodeGauge.Proofs.Number.Numeral
import NodeGauge.Proofs.Text.Quoted

/-!
A message starts with fixed words, and behind them comes the first quoted text or the first number.
So a message falls apart in one way into its opening words and its details.  The opening words tell
what the message is about, and the details tell all that the fault holds.
-/

namespace NodeGauge

/-- A character of the fixed words in a message, which is neither a quote nor a digit. -/
def Text.isWording (c : Char) : Bool := c != '"' && !Numeral.isDigit c

theorem Numeral.isOneLine_ofNat (n : Nat) : Text.IsOneLine (Numeral.ofNat n) := by
  intro c member
  have digit := Numeral.isDigit_of_mem_ofNat member
  simp only [Numeral.isDigit, Char.le_def, Bool.and_eq_true, decide_eq_true_eq,
    UInt32.le_iff_toNat_le] at digit
  have least : 48 ≤ c.toNat := digit.1
  have greatest : c.toNat ≤ 57 := digit.2
  omega

end NodeGauge

namespace NodeGauge.Gres

/-- What a message on a resource text is about. -/
inductive Topic where
  | descriptor
  | count
  | indexList
  | item
  | span
  | index
deriving Repr, DecidableEq

namespace Topic

/-- Every topic. -/
def all : List Topic := [descriptor, count, indexList, item, span, index]

theorem mem_all (topic : Topic) : topic ∈ all := by cases topic <;> decide

/-- The words that open the messages on a topic. -/
def opening : Topic → Text
  | descriptor => "gres descriptor ".toList
  | count => "gres count ".toList
  | indexList => "allocated gres ".toList
  | item => "invalid gpu index token ".toList
  | span => "gpu index range ".toList
  | index => "gpu index ".toList

end Topic

namespace Fault

/-- What the message on a fault is about. -/
def topic : Fault → Topic
  | malformed _ => .descriptor
  | countNotNumber _ => .count
  | tooManyDevices _ => .count
  | noIndexList _ => .indexList
  | malformedIndex _ => .item
  | reversedSpan _ _ => .span
  | indexBeyond _ _ => .index

/-- What the message on a fault says behind its opening words. -/
def details : Fault → Text
  | malformed raw => raw.quoted ++ " is not gpu:<type>:<count>".toList
  | countNotNumber count => count.quoted ++ " is not a number".toList
  | tooManyDevices count =>
      Numeral.write count ++
        (" exceeds ".toList ++ (Numeral.write deviceLimit ++ " devices per node".toList))
  | noIndexList raw => raw.quoted ++ " has no IDX list".toList
  | malformedIndex item => item.quoted
  | reversedSpan first last =>
      Numeral.write first ++ '-' :: (Numeral.write last ++ " is reversed".toList)
  | indexBeyond index devices =>
      Numeral.write index ++
        (" out of range for ".toList ++ (Numeral.write devices ++ " devices".toList))

theorem message_eq (fault : Fault) : fault.message = fault.topic.opening ++ fault.details := by
  have four (a b c d : Text) : a ++ b ++ c ++ d = a ++ (b ++ (c ++ d)) := by
    simp only [List.append_assoc]
  have five (a b c d e : Text) : a ++ b ++ c ++ d ++ e = a ++ (b ++ (c ++ (d ++ e))) := by
    simp only [List.append_assoc]
  cases fault with
  | malformed raw => exact List.append_assoc _ _ _
  | countNotNumber count => exact List.append_assoc _ _ _
  | tooManyDevices count => exact five _ _ _ _ _
  | noIndexList raw => exact List.append_assoc _ _ _
  | malformedIndex item => rfl
  | reversedSpan first last => exact four _ _ _ _
  | indexBeyond index devices => exact five _ _ _ _ _

/-- A quoted text is no numeral. -/
theorem quoted_ne_write (s : Text) (n : UInt64) (rest more : Text) :
    s.quoted ++ rest ≠ Numeral.write n ++ more := by
  intro same
  have first : (Numeral.write n ++ more).head? = some '"' := by
    rw [← same]
    rfl
  exact absurd (Numeral.isDigit_of_head? first) (by decide)

/-- A fault is known by its topic and the details of its message. -/
theorem eq_of_details {one other : Fault} (topics : one.topic = other.topic)
    (same : one.details = other.details) : one = other := by
  -- Behind a number comes a space, or the hyphen of a range.
  have stops := @Numeral.stops_cons ' ' rfl
  -- On one topic there is one kind of fault, but for counts, which are no number or too great.
  cases one <;> cases other <;> cases topics
  case malformed.malformed => rw [(Text.quoted_append_inj same).1]
  case countNotNumber.countNotNumber => rw [(Text.quoted_append_inj same).1]
  case countNotNumber.tooManyDevices => exact absurd same (quoted_ne_write _ _ _ _)
  case tooManyDevices.countNotNumber => exact absurd same.symm (quoted_ne_write _ _ _ _)
  case tooManyDevices.tooManyDevices =>
      rw [(Numeral.write_append_inj (stops _) (stops _) same).1]
  case noIndexList.noIndexList => rw [(Text.quoted_append_inj same).1]
  case malformedIndex.malformedIndex item otherItem =>
      have alone : item.quoted ++ [] = otherItem.quoted ++ [] := by simpa [details] using same
      rw [(Text.quoted_append_inj alone).1]
  case reversedSpan.reversedSpan =>
      have hyphen := @Numeral.stops_cons '-' rfl
      obtain ⟨rfl, behind⟩ := Numeral.write_append_inj (hyphen _) (hyphen _) same
      obtain ⟨rfl, -⟩ := Numeral.write_append_inj (stops _) (stops _) (List.cons.inj behind).2
      rfl
  case indexBeyond.indexBeyond =>
      have apart (tail : Text) (c : Char)
          (first : (" out of range for ".toList ++ tail).head? = some c) :
          Numeral.isDigit c = false := stops _ c first
      obtain ⟨rfl, behind⟩ := Numeral.write_append_inj (apart _) (apart _) same
      have devices := List.append_cancel_left behind
      rw [(Numeral.write_append_inj (stops _) (stops _) devices).1]

/-- Behind the opening words comes a quoted text or a number. -/
theorem details_start (fault : Fault) :
    ∀ c, fault.details.head? = some c → Text.isWording c = false := by
  intro c first
  cases fault with
  | malformed | countNotNumber | noIndexList | malformedIndex =>
      obtain rfl := Option.some.inj first
      rfl
  | tooManyDevices | reversedSpan | indexBeyond =>
      simp [Text.isWording, Numeral.isDigit_of_head? first]

theorem isOneLine_details (fault : Fault) : Text.IsOneLine fault.details := by
  cases fault with
  | malformed raw => exact Text.isOneLine_append.2 ⟨Text.isOneLine_quoted raw, by decide⟩
  | countNotNumber count => exact Text.isOneLine_append.2 ⟨Text.isOneLine_quoted count, by decide⟩
  | tooManyDevices count =>
      exact Text.isOneLine_append.2 ⟨Numeral.isOneLine_ofNat count.toNat, by decide⟩
  | noIndexList raw => exact Text.isOneLine_append.2 ⟨Text.isOneLine_quoted raw, by decide⟩
  | malformedIndex item => exact Text.isOneLine_quoted item
  | reversedSpan first last =>
      have behind := Text.isOneLine_append.2
        ⟨Numeral.isOneLine_ofNat last.toNat, (by decide : Text.IsOneLine " is reversed".toList)⟩
      exact Text.isOneLine_append.2
        ⟨Numeral.isOneLine_ofNat first.toNat, Text.isOneLine_cons.2 ⟨by decide, behind⟩⟩
  | indexBeyond index devices =>
      have behind := Text.isOneLine_append.2
        ⟨Numeral.isOneLine_ofNat devices.toNat, (by decide : Text.IsOneLine " devices".toList)⟩
      exact Text.isOneLine_append.2 ⟨Numeral.isOneLine_ofNat index.toNat,
        Text.isOneLine_append.2 ⟨by decide, behind⟩⟩

end Fault

end NodeGauge.Gres

namespace NodeGauge.Listing

/-- What a message on a row is about. -/
inductive Topic where
  | columns
  | number (field : NumberField)
  | cpu
  | resource (topic : Gres.Topic)
deriving Repr, DecidableEq

/-- Every number of a row. -/
def NumberField.all : List NumberField :=
  [cpuAllocated, cpuIdle, cpuOther, cpuTotal, memoryAllocated, memoryTotal]

namespace Topic

/-- Every topic. -/
def all : List Topic :=
  columns :: cpu :: (NumberField.all.map number ++ Gres.Topic.all.map resource)

theorem mem_all (topic : Topic) : topic ∈ all := by
  cases topic with
  | columns | cpu => decide
  | number field => cases field <;> decide
  | resource topic => simp [all, Gres.Topic.mem_all topic]

/-- The words that open the messages on a topic. -/
def opening : Topic → Text
  | columns => "expected ".toList
  | number field => "invalid ".toList ++ field.label ++ " value ".toList
  | cpu => "cpu state ".toList
  | resource topic => topic.opening

/-- No two topics have the same opening words. -/
theorem opening_injective : Function.Injective opening := by
  have once : (all.map opening).Nodup := by decide
  intro topic other same
  exact List.inj_on_of_nodup_map once (mem_all topic) (mem_all other) same

/-- No opening has a quote or a digit in it, or a control character. -/
theorem opening_words (topic : Topic) :
    (∀ c ∈ topic.opening, Text.isWording c = true) ∧ Text.IsOneLine topic.opening := by
  have each : ∀ topic ∈ all,
      topic.opening.all Text.isWording = true ∧ Text.IsOneLine topic.opening := by
    decide
  exact (each topic (mem_all topic)).imp_left List.all_eq_true.1

end Topic

namespace Fault

/-- What the message on a fault is about. -/
def topic : Fault → Topic
  | wrongColumnCount _ => .columns
  | notNumber field _ => .number field
  | malformedCpu _ => .cpu
  | gres fault => .resource fault.topic

/-- What the message on a fault says behind its opening words. -/
def details : Fault → Text
  | wrongColumnCount found =>
      Numeral.ofNat columnCount ++ (" fields, found ".toList ++ Numeral.ofNat found)
  | notNumber _ value => value.quoted
  | malformedCpu raw => raw.quoted ++ " is not allocated/idle/other/total".toList
  | gres fault => fault.details

theorem message_eq (fault : Fault) : fault.message = fault.topic.opening ++ fault.details := by
  have four (a b c d : Text) : a ++ b ++ c ++ d = a ++ (b ++ (c ++ d)) := by
    simp only [List.append_assoc]
  cases fault with
  | wrongColumnCount found => exact four _ _ _ _
  | notNumber field value => rfl
  | malformedCpu raw => exact List.append_assoc _ _ _
  | gres fault => exact fault.message_eq

/-- A fault is known by its topic and the details of its message. -/
theorem eq_of_details {one other : Fault} (topics : one.topic = other.topic)
    (same : one.details = other.details) : one = other := by
  cases one <;> cases other <;> injection topics
  case wrongColumnCount.wrongColumnCount =>
      have found := List.append_cancel_left (List.append_cancel_left same)
      rw [Numeral.ofNat_injective found]
  case notNumber.notNumber field value otherField otherValue fields =>
      have alone : value.quoted ++ [] = otherValue.quoted ++ [] := by
        rw [List.append_nil, List.append_nil]
        exact same
      rw [fields, (Text.quoted_append_inj alone).1]
  case malformedCpu.malformedCpu => rw [(Text.quoted_append_inj same).1]
  case gres.gres topics => rw [Gres.Fault.eq_of_details topics same]

theorem details_start (fault : Fault) :
    ∀ c, fault.details.head? = some c → Text.isWording c = false := by
  intro c first
  cases fault with
  | wrongColumnCount => simp [Text.isWording, Numeral.isDigit_of_head? first]
  | notNumber | malformedCpu =>
      obtain rfl := Option.some.inj first
      rfl
  | gres fault => exact fault.details_start c first

theorem isOneLine_details (fault : Fault) : Text.IsOneLine fault.details := by
  cases fault with
  | wrongColumnCount found =>
      exact Text.isOneLine_append.2 ⟨Numeral.isOneLine_ofNat columnCount,
        Text.isOneLine_append.2 ⟨by decide, Numeral.isOneLine_ofNat found⟩⟩
  | notNumber field value => exact Text.isOneLine_quoted value
  | malformedCpu raw => exact Text.isOneLine_append.2 ⟨Text.isOneLine_quoted raw, by decide⟩
  | gres fault => exact fault.isOneLine_details

theorem message_injective : Function.Injective message := by
  intro one other same
  rw [message_eq, message_eq] at same
  obtain ⟨openings, details⟩ := Text.append_inj_of_class one.topic.opening_words.1
    other.topic.opening_words.1 one.details_start other.details_start same
  exact eq_of_details (Topic.opening_injective openings) details

theorem isOneLine_message (fault : Fault) : Text.IsOneLine fault.message := by
  rw [message_eq]
  exact Text.isOneLine_append.2 ⟨fault.topic.opening_words.2, fault.isOneLine_details⟩

/-- Two faults of rows have the same message just if they are the same fault, with the same texts
and numbers in it; and a message has neither a line feed nor any other control character of the
ASCII block in it, whatever the texts hold. -/
theorem message_tells_fault (fault : Fault) :
    (∀ other : Fault, other.message = fault.message ↔ other = fault) ∧
      ∀ c ∈ fault.message, c ≠ '\n' ∧ 0x20 ≤ c.toNat ∧ c.toNat ≠ 0x7f := by
  refine ⟨fun other => message_injective.eq_iff, fun c inside => ?_⟩
  obtain ⟨least, noDelete⟩ := fault.isOneLine_message c inside
  refine ⟨?_, least, noDelete⟩
  rintro rfl
  exact absurd least (by decide)

/-- A line feed and a combining accent, and the letters that are written for them. -/
theorem message_tells_fault_escapes :
    let marks : Fault := .notNumber .cpuIdle "1\n\u0301".toList
    let letters : Fault := .notNumber .cpuIdle "1\\n\\u\x7b301\x7d".toList
    marks.message = "invalid cpu_idle value \"1\\n\\u\x7b301\x7d\"".toList ∧
      letters.message ≠ marks.message ∧ '\n' ∉ marks.message := by
  intro marks letters
  obtain ⟨tells, shown⟩ := message_tells_fault marks
  refine ⟨by decide +kernel, fun same => ?_, fun feed => (shown _ feed).1 rfl⟩
  have unlike : letters ≠ marks := by decide
  exact unlike ((tells letters).1 same)

end Fault

end NodeGauge.Listing
