/-
Module: NodeGauge.Json.Shape
Purpose: Structures with a fixed set of fields, written as a JSON object, and read from a JSON
  object in any order of the fields or from a JSON array in their own order.
Main exports: Json.Shape, Json.Shape.Contents, Json.Shape.members, Json.Shape.Slots,
  Json.Shape.read, Json.Shape.length_of_read
-/
import NodeGauge.Json.Compact
import NodeGauge.Json.Reader

namespace NodeGauge.Json

/-- A structure with named fields, and how the content of each is read. -/
structure Shape where
  /-- What the structure is called in messages. -/
  title : Text
  Field : Type
  [decEq : DecidableEq Field]
  /-- Every field, in the order of arrays. -/
  fields : List Field
  mem_fields : ∀ f, f ∈ fields
  key : Field → Text
  nodup_keys : (fields.map key).Nodup
  Content : Field → Type
  /-- Read the content of a field. -/
  readContent : (f : Field) → Text → Except Fault (Content f × Text)
  length_of_readContent : ∀ {f s v rest}, readContent f s = .ok (v, rest) → rest.length ≤ s.length
  /-- The content of a field that is left out, if it may be. -/
  default? : (f : Field) → Option (Content f)

namespace Shape

variable (shape : Shape)

instance : DecidableEq shape.Field := shape.decEq

/-- Contents for all fields. -/
abbrev Contents := (f : shape.Field) → shape.Content f

/-- The contents that have been read so far. -/
abbrev Slots := (f : shape.Field) → Option (shape.Content f)

variable {shape}

variable (shape) in
/-- The members of an object for some fields, whose contents have these texts. -/
def members (texts : shape.Field → Text) (fields : List shape.Field) : List Text :=
  fields.map fun f => member (shape.key f) (texts f)

/-- No contents. -/
def Slots.empty : shape.Slots := fun _ => none

/-- Put a content into its slot. -/
def Slots.put (slots : shape.Slots) (f : shape.Field) (v : shape.Content f) : shape.Slots :=
  fun g => if h : f = g then some (h ▸ v) else slots g

/-- The content of a field: what has been read, or else what stands for a field left out. -/
def Slots.content? (slots : shape.Slots) (f : shape.Field) : Option (shape.Content f) :=
  (slots f).or (shape.default? f)

/-- All contents, unless a field is missing.  The first missing field is reported. -/
def Slots.complete (slots : shape.Slots) : Except Fault shape.Contents :=
  match missing : shape.fields.find? fun f => (slots.content? f).isNone with
  | some f => .error (.misfit (.missingField (shape.key f)))
  | none => .ok fun f => (slots.content? f).get (by
      have := List.find?_eq_none.1 missing f (shape.mem_fields f)
      simpa [Option.isSome_iff_ne_none] using this)

/-- What follows inside an object: a key and the text behind it, or the end. -/
inductive NextKey where
  | key (name rest : Text)
  | finished (rest : Text)

/-- Read a key behind its opening quote. -/
def readKey (s : Text) : Except Fault NextKey :=
  (readString s).map fun (name, rest) => .key name rest

/-- Read the next key of an object.  A comma stands before every key but the first, and a key
behind every comma. -/
def nextKey (first : Bool) (s : Text) : Except Fault NextKey :=
  match skipBlank s with
  | [] => .error .truncated
  | c :: s =>
      if c = '\x7d' then .ok (.finished s)
      else if first then
        if c = '"' then readKey s else .error .malformed
      else if c = ',' then
        match skipBlank s with
        | [] => .error .truncated
        | c :: s => if c = '"' then readKey s else .error .malformed
      else .error .malformed

/-- Read the colon behind a key. -/
def readColon (s : Text) : Except Fault Text :=
  match skipBlank s with
  | [] => .error .truncated
  | c :: s => if c = ':' then .ok s else .error .malformed

/-- Read what belongs to a key.  The content of a field goes into its slot, which must be empty,
and the value of any other key is passed over. -/
def readMember (slots : shape.Slots) (name s : Text) : Except Fault (shape.Slots × Text) :=
  match shape.fields.find? fun f => shape.key f = name with
  | none =>
      match readColon s with
      | .error fault => .error fault
      | .ok s => (skipValue s).map fun rest => (slots, rest)
  | some f =>
      if (slots f).isSome then .error (.misfit (.duplicateField name))
      else match readColon s with
        | .error fault => .error fault
        | .ok s => (shape.readContent f s).map fun (v, rest) => (slots.put f v, rest)

/-- Reading a key gives nothing back. -/
theorem length_of_readKey {s name rest : Text} (h : readKey s = .ok (.key name rest)) :
    rest.length ≤ s.length := by
  unfold readKey at h
  cases read : readString s with
  | error fault => simp [read, Except.map] at h
  | ok p =>
      simp only [read, Except.map, Except.ok.injEq, NextKey.key.injEq] at h
      rw [← h.2]; exact length_of_readStringFrom read

/-- A key takes its quotes away. -/
theorem length_of_nextKey {first : Bool} {s name rest : Text}
    (h : nextKey first s = .ok (.key name rest)) : rest.length < s.length := by
  have blank := length_skipBlank_le s
  unfold nextKey at h
  split at h
  · cases h
  · next c s front =>
      rw [front] at blank
      split at h
      · cases h
      · split at h
        · split at h
          · have := length_of_readKey h; simp at blank; omega
          · cases h
        · split at h
          · have inner := length_skipBlank_le s
            split at h
            · cases h
            · next d s front =>
                rw [front] at inner
                split at h
                · have := length_of_readKey h; simp at blank inner; omega
                · cases h
          · cases h

/-- Finding the end of an object gives nothing back. -/
theorem length_of_nextKey_finished {first : Bool} {s rest : Text}
    (h : nextKey first s = .ok (.finished rest)) : rest.length ≤ s.length := by
  have blank := length_skipBlank_le s
  have noKey {s : Text} : readKey s ≠ .ok (.finished rest) := by
    unfold readKey
    cases readString s <;> simp [Except.map]
  unfold nextKey at h
  split at h
  · cases h
  · next c s front =>
      rw [front] at blank
      split at h
      · cases h; simp at blank; omega
      · split at h
        · split at h
          · exact absurd h noKey
          · cases h
        · split at h
          · split at h
            · cases h
            · split at h
              · exact absurd h noKey
              · cases h
          · cases h

/-- Reading a colon gives nothing back. -/
theorem length_of_readColon {s rest : Text} (h : readColon s = .ok rest) :
    rest.length ≤ s.length := by
  have blank := length_skipBlank_le s
  unfold readColon at h
  split at h
  · cases h
  · next front =>
      rw [front] at blank
      split at h
      · cases h; simp at blank; omega
      · cases h

/-- Reading a member gives nothing back. -/
theorem length_of_readMember {slots filled : shape.Slots} {name s rest : Text}
    (h : readMember slots name s = .ok (filled, rest)) : rest.length ≤ s.length := by
  unfold readMember at h
  split at h
  · split at h
    · cases h
    · next t colon =>
        have := length_of_readColon colon
        cases skipped : skipValue t with
        | error fault => simp [skipped, Except.map] at h
        | ok r =>
            simp only [skipped, Except.map, Except.ok.injEq, Prod.mk.injEq] at h
            have := length_of_skipFrom skipped
            rw [← h.2]; omega
  · next f _ =>
      split at h
      · cases h
      · split at h
        · cases h
        · next t colon =>
            have := length_of_readColon colon
            cases read : shape.readContent f t with
            | error fault => simp [read, Except.map] at h
            | ok p =>
                simp only [read, Except.map, Except.ok.injEq, Prod.mk.injEq] at h
                have := shape.length_of_readContent read
                rw [← h.2]; omega

/-- Read the members of an object up to its end. -/
def readMembers (first : Bool) (slots : shape.Slots) (s : Text) :
    Except Fault (shape.Slots × Text) :=
  match found : nextKey first s with
  | .error fault => .error fault
  | .ok (.finished rest) => .ok (slots, rest)
  | .ok (.key name after) =>
      match read : readMember slots name after with
      | .error fault => .error fault
      | .ok (slots, rest) =>
          have : rest.length < s.length :=
            Nat.lt_of_le_of_lt (length_of_readMember read) (length_of_nextKey found)
          readMembers false slots rest
termination_by s.length

/-- The place of the first field of some that may not be left out, counted from `place`. -/
def firstRequired? (place : Nat) : List shape.Field → Option Nat
  | [] => none
  | f :: fields =>
      if (shape.default? f).isSome then firstRequired? (place + 1) fields else some place

/-- Read the end of an array that has given all it should. -/
def readArrayEnd (s : Text) : Except Fault Text :=
  match skipBlank s with
  | [] => .error .truncated
  | c :: s => if c = ']' then .ok s else .error .malformed

/-- Read the items of an array for some fields, of which the first has the place `place`.  An
array that ends too early is reported by the place of the first field it should have held. -/
def readItems (place : Nat) (slots : shape.Slots) (s : Text) :
    List shape.Field → Except Fault (shape.Slots × Text)
  | [] => (readArrayEnd s).map fun rest => (slots, rest)
  | f :: fields =>
      match nextItem (place == 0) s with
      | .error fault => .error fault
      | .ok (.finished rest) =>
          match firstRequired? place (f :: fields) with
          | some n =>
              .error (.misfit (.wrongLength n (.elements shape.title shape.fields.length)))
          | none => .ok (slots, rest)
      | .ok (.item s) =>
          match shape.readContent f s with
          | .error fault => .error fault
          | .ok (v, rest) => readItems (place + 1) (slots.put f v) rest fields

/-- Read the slots of a structure, from an object or from an array. -/
def readSlots (s : Text) : Except Fault (shape.Slots × Text) :=
  match skipBlank s with
  | '\x7b' :: s => readMembers true .empty s
  | '[' :: s => readItems 0 .empty s shape.fields
  | s => .error (instead (.object shape.title) s)

variable (shape) in
/-- Read a structure. -/
def read (s : Text) : Except Fault (shape.Contents × Text) :=
  match (readSlots s : Except Fault (shape.Slots × Text)) with
  | .error fault => .error fault
  | .ok (slots, rest) => slots.complete.map fun contents => (contents, rest)

/-- Reading members gives nothing back. -/
theorem length_of_readMembers {first : Bool} {slots filled : shape.Slots} {s rest : Text}
    (h : readMembers first slots s = .ok (filled, rest)) : rest.length ≤ s.length := by
  fun_induction readMembers first slots s with
  | case1 => cases h
  | case2 first slots s rest found => cases h; exact length_of_nextKey_finished found
  | case3 => cases h
  | case4 first slots s name after found more rest' read shorter ih => have := ih h; omega

/-- Reading items gives nothing back. -/
theorem length_of_readItems {place : Nat} {slots filled : shape.Slots} {s rest : Text}
    {fields : List shape.Field} (h : readItems place slots s fields = .ok (filled, rest)) :
    rest.length ≤ s.length := by
  induction fields generalizing place slots s with
  | nil =>
      have blank := length_skipBlank_le s
      simp only [readItems, readArrayEnd] at h
      split at h
      · cases h
      · next front =>
          rw [front] at blank
          split at h
          · cases h; simp at blank; omega
          · cases h
  | cons f fields ih =>
      simp only [readItems] at h
      split at h
      · cases h
      · next found =>
          split at h
          · cases h
          · cases h; exact length_of_nextItem_finished found
      · next found =>
          split at h
          · cases h
          · next read =>
              have := ih h
              have := shape.length_of_readContent read
              have := length_of_nextItem found
              omega

/-- Reading a structure takes its brackets away. -/
theorem length_of_read {contents : shape.Contents} {s rest : Text}
    (h : shape.read s = .ok (contents, rest)) : rest.length < s.length := by
  have blank := length_skipBlank_le s
  unfold read at h
  split at h
  · cases h
  · next slots after slotsRead =>
      have shorter : after.length < s.length := by
        unfold readSlots at slotsRead
        split at slotsRead
        · next front =>
            have := length_of_readMembers slotsRead
            rw [front] at blank; simp at blank; omega
        · next front =>
            have := length_of_readItems slotsRead
            rw [front] at blank; simp at blank; omega
        · cases slotsRead
      cases complete : slots.complete with
      | error fault => simp [complete, Except.map] at h
      | ok c =>
          simp only [complete, Except.map, Except.ok.injEq, Prod.mk.injEq] at h
          rw [← h.2]; exact shorter

end Shape

end NodeGauge.Json
