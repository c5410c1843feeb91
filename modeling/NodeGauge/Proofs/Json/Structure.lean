/-
Module: NodeGauge.Proofs.Json.Structure
Purpose: A structure is read from every text that holds its contents: from an object in any order,
  whatever other members it has, and from an array in the order of the fields.
Main exports: Json.Attribute, Json.IsStructure, Json.Shape.readsAnywhere
-/
import NodeGauge.Proofs.Json.Array
import NodeGauge.Proofs.Json.Shape
import NodeGauge.Proofs.Json.Skip

namespace NodeGauge.Json

/-! ### The texts of a structure -/

/-- What a structure holds under one key. -/
structure Attribute where
  key : Text
  /-- Whether a value stands for what the structure holds. -/
  Shows : Text → Prop
  /-- Whether a text that leaves the attribute out says the same of it. -/
  MayLack : Prop

/-- What a member of an object may be, beside the text of its key. -/
inductive IsMember (attributes : List Attribute) : Entry → Text → Prop where
  /-- A member for one of the attributes. -/
  | known {entry : Entry} {a : Attribute} (listed : a ∈ attributes)
      (key : IsString entry.key a.key) (value : a.Shows entry.item.value) :
      IsMember attributes entry a.key
  /-- A member whose key is none of theirs. -/
  | extra {entry : Entry} {name : Text} (key : IsString entry.key name)
      (besides : ∀ a ∈ attributes, a.key ≠ name) (value : IsValue entry.item.value) :
      IsMember attributes entry name

theorem IsMember.key {attributes : List Attribute} {entry : Entry} {name : Text}
    (isMember : IsMember attributes entry name) : IsString entry.key name := by
  cases isMember with
  | known _ key _ => exact key
  | extra key _ _ => exact key

/-- The texts of a structure with these attributes. -/
inductive IsStructure (attributes : List Attribute) : Text → Prop where
  /-- An object with a member for each attribute, in any order and among any others. -/
  | object {entries : List Entry} {names : List Text} {s : Text} (object : IsObject entries s)
      (members : List.Forall₂ (IsMember attributes) entries names)
      (once : ∀ a ∈ attributes, names.count a.key ≤ 1)
      (full : ∀ a ∈ attributes, a.key ∈ names ∨ a.MayLack) : IsStructure attributes s
  /-- An array with an item for each attribute, in their order, up to some at its end. -/
  | array {items : List Item} {shown left : List Attribute} {s : Text} (array : IsArray items s)
      (values : List.Forall₂ (fun item a => a.Shows item.value) items shown)
      (order : attributes = shown ++ left) (lacking : ∀ a ∈ left, a.MayLack) :
      IsStructure attributes s

/-- A structure opens a bracket. -/
theorem IsStructure.exists_cons {attributes : List Attribute} {s : Text}
    (structured : IsStructure attributes s) : ∃ tail, s = '\x7b' :: tail ∨ s = '[' :: tail := by
  cases structured with
  | object object => cases object <;> exact ⟨_, .inl rfl⟩
  | array array => cases array <;> exact ⟨_, .inr rfl⟩

theorem IsStructure.startsValue {attributes : List Attribute} {s : Text}
    (structured : IsStructure attributes s) : StartsValue s := by
  obtain ⟨tail, rfl | rfl⟩ := structured.exists_cons
  · exact ⟨'\x7b', tail, rfl, by decide, by decide⟩
  · exact ⟨'[', tail, rfl, by decide, by decide⟩

namespace Shape

variable {shape : Shape}

/-! ### Objects -/

variable (contents : shape.Contents) (shows : shape.Field → Text → Prop)

variable (shape) in
/-- What a structure with some contents holds under its keys.  A field may be left out if its
content is what stands for a field left out. -/
def attributes : List Attribute :=
  shape.fields.map fun f => ⟨shape.key f, shows f, shape.default? f = some (contents f)⟩

variable {contents shows}

theorem mem_attributes (f : shape.Field) :
    ⟨shape.key f, shows f, shape.default? f = some (contents f)⟩ ∈
      shape.attributes contents shows :=
  List.mem_map_of_mem (shape.mem_fields f)

/-- A member under the key of a field may show what the field holds. -/
theorem isMember_field {f : shape.Field} {entry : Entry}
    (key : IsString entry.key (shape.key f)) (shown : shows f entry.item.value) :
    IsMember (shape.attributes contents shows) entry (shape.key f) :=
  .known (mem_attributes f) key shown

variable
  (reads : ∀ f s, shows f s → ReadsAnywhere (shape.readContent f) s (contents f))
include reads

/-- A member whose key has not been seen fills the slot of its field, if it has one. -/
theorem readMember_spaced {entry : Entry} {name : Text}
    (isMember : IsMember (shape.attributes contents shows) entry name) (spaced : entry.IsSpaced)
    {seen : List Text} (new : ∀ f, shape.key f = name → name ∉ seen) {rest : Text}
    (ends : EndsNumber rest) :
    readMember (.holding contents (among seen)) name
        (entry.back ++ ':' :: (entry.item.text ++ rest)) =
      .ok (Slots.holding contents (among (name :: seen)), entry.item.back ++ rest) := by
  have colon : readColon (entry.back ++ ':' :: (entry.item.text ++ rest)) =
      .ok (entry.item.front ++ (entry.item.value ++ (entry.item.back ++ rest))) := by
    rw [readColon_gap spaced.back, readColon_cons, Item.text_append]
  have behind := spaced.item.back.endsNumber ends
  cases isMember with
  | known listed key value =>
      obtain ⟨f, _, rfl⟩ := List.mem_map.1 listed
      have free : f ∉ among seen := fun held => new f rfl (mem_among.1 held)
      have read := (reads f _ value).reads _ _ spaced.item.front behind
      rw [readMember_key (Slots.holding_eq_none contents free) colon read, Slots.put_holding]
      congr 2
      refine Slots.holding_congr contents fun g => ?_
      simp only [List.mem_cons, mem_among]
      exact or_congr_left ⟨fun same => same ▸ rfl, fun same => eq_of_key_eq same⟩
  | extra key besides value =>
      have unknown (f : shape.Field) : shape.key f ≠ name :=
        besides _ (mem_attributes f)
      have noField : shape.fields.find? (fun f => shape.key f = name) = none := by
        simpa using fun f _ => unknown f
      have skipped := value.skipValue spaced.item.front behind
      simp only [readMember, noField, colon, skipped, Except.map]
      congr 2
      refine Slots.holding_congr contents fun g => ?_
      simp only [List.mem_cons, mem_among, unknown g, false_or]

/-- Further members, each behind a comma, are read up to the end of their object. -/
theorem readMembers_spaced {entries : List Entry} {names : List Text}
    (members : List.Forall₂ (IsMember (shape.attributes contents shows)) entries names)
    (spaced : ∀ entry ∈ entries, entry.IsSpaced) {seen : List Text}
    (once : ∀ f, (names ++ seen).count (shape.key f) ≤ 1) {gap : Text} (blank : IsGap gap)
    (rest : Text) :
    readMembers false (.holding contents (among seen))
        (gap ++ further (entries.map Entry.text) '\x7d' rest) =
      .ok (Slots.holding contents (among (names.reverse ++ seen)), rest) := by
  -- Each name goes from the members to come over to those seen, so that all of them together
  -- stay the same.
  induction members generalizing seen gap with
  | nil =>
      have found := (nextKey_gap false blank ('\x7d' :: rest)).trans (nextKey_end false rest)
      exact readMembers_finished found
  | @cons entry name entries names isMember _ ih =>
      rw [List.forall_mem_cons] at spaced
      let after := further (entries.map Entry.text) '\x7d' rest
      have found := nextKey_comma_spaced spaced.1.front isMember.key
        (entry.back ++ ':' :: (entry.item.text ++ after)) blank
      have new (f : shape.Field) (same : shape.key f = name) : name ∉ seen := by
        have few := once f
        rw [same, List.cons_append, List.count_cons_self, List.count_append] at few
        exact List.count_eq_zero.1 (by omega)
      have ends := endsNumber_further (entries.map Entry.text) (.inr rfl) rest
      have read := readMember_spaced reads isMember spaced.1 new ends
      have later (f : shape.Field) : (names ++ name :: seen).count (shape.key f) ≤ 1 := by
        rw [List.perm_middle.count_eq]
        exact once f
      rw [List.map_cons, further_cons, Entry.text_append, readMembers_key found read,
        ih spaced.2 later spaced.1.item.back]
      simp

theorem readSlots_object {entries : List Entry} {names : List Text} {s : Text}
    (object : IsObject entries s)
    (members : List.Forall₂ (IsMember (shape.attributes contents shows)) entries names)
    (once : ∀ f : shape.Field, names.count (shape.key f) ≤ 1) (rest : Text) :
    readSlots (s ++ rest) = .ok (Slots.holding contents (among names.reverse), rest) := by
  have brace (s : Text) : readSlots ('\x7b' :: s) =
      readMembers true (Slots.holding contents (among [])) s := by
    rw [Slots.holding_among_nil]
    rfl
  cases object with
  | @empty gap blank =>
      cases members with
      | nil =>
          have found := (nextKey_gap true blank ('\x7d' :: rest)).trans (nextKey_end true rest)
          rw [List.cons_append, List.cons_append, List.append_assoc, brace]
          exact readMembers_finished found
  | entries some spaced =>
      cases members with
      | nil => exact absurd rfl some
      | @cons entry name entries names isMember members =>
          rw [List.forall_mem_cons] at spaced
          let after := further (entries.map Entry.text) '\x7d' rest
          have found := nextKey_first_spaced spaced.1.front isMember.key
            (entry.back ++ ':' :: (entry.item.text ++ after))
          have ends := endsNumber_further (entries.map Entry.text) (.inr rfl) rest
          have read := readMember_spaced reads isMember spaced.1 (fun _ _ => List.not_mem_nil) ends
          have later (f : shape.Field) : (names ++ [name]).count (shape.key f) ≤ 1 := by
            rw [List.perm_append_singleton name names |>.count_eq]
            exact once f
          rw [List.map_cons, objectText_append, Entry.text_append, brace,
            readMembers_key found read,
            readMembers_spaced reads members spaced.2 later spaced.1.item.back,
            List.reverse_cons]

/-! ### Arrays -/

omit reads in
/-- Fields that may all be left out are none that an array must hold. -/
theorem firstRequired?_eq_none {left : List shape.Field}
    (lacking : ∀ f ∈ left, shape.default? f = some (contents f)) (place : Nat) :
    firstRequired? place left = none := by
  induction left generalizing place with
  | nil => rfl
  | cons f left ih =>
      rw [List.forall_mem_cons] at lacking
      rw [firstRequired?, lacking.1, Option.isSome_some, if_pos rfl, ih lacking.2]

omit reads in
/-- An array may end where all fields to come may be left out. -/
theorem readItems_end {left : List shape.Field}
    (lacking : ∀ f ∈ left, shape.default? f = some (contents f)) (place : Nat)
    (slots : shape.Slots) {gap : Text} (blank : IsGap gap) (rest : Text) :
    readItems place slots (gap ++ ']' :: rest) left = .ok (slots, rest) := by
  cases left with
  | nil =>
      have bracket : skipBlank (']' :: rest) = ']' :: rest := skipBlank_cons (by decide) rest
      simp only [readItems, readArrayEnd, skipBlank_gap blank, bracket, if_true, Except.map]
  | cons f left =>
      have found := (nextItem_gap (place == 0) blank (']' :: rest)).trans
        (nextItem_end (place == 0) rest)
      simp only [readItems, found, firstRequired?_eq_none lacking]

omit reads in
theorem readItems_item {place : Nat} {held fields : List shape.Field} {f : shape.Field}
    {s item rest : Text} (found : nextItem (place == 0) s = .ok (.item item))
    (read : shape.readContent f item = .ok (contents f, rest)) :
    readItems place (.holding contents held) s (f :: fields) =
      readItems (place + 1) (.holding contents (f :: held)) rest fields := by
  simp only [readItems, found, read, Slots.put_holding]

/-- Further items, each behind a comma, are read up to the end of their array. -/
theorem readItems_spaced {items : List Item} {shown left : List shape.Field}
    (values : List.Forall₂ (fun item f => shows f item.value) items shown)
    (spaced : ∀ item ∈ items, item.IsSpaced)
    (lacking : ∀ f ∈ left, shape.default? f = some (contents f)) (place : Nat)
    (held : List shape.Field) {gap : Text} (blank : IsGap gap) (rest : Text) :
    readItems (place + 1) (.holding contents held)
        (gap ++ further (items.map Item.text) ']' rest) (shown ++ left) =
      .ok (Slots.holding contents (shown.reverse ++ held), rest) := by
  induction values generalizing place held gap with
  | nil => exact readItems_end lacking (place + 1) _ blank rest
  | @cons item f items shown value _ ih =>
      rw [List.forall_mem_cons] at spaced
      let after := further (items.map Item.text) ']' rest
      have reads := reads f _ value
      have found : nextItem (place + 1 == 0) (gap ++ ',' :: (item.text ++ after)) =
          .ok (.item (item.value ++ (item.back ++ after))) :=
        Item.nextItem_comma spaced.1 reads.starts blank after
      have ends := endsNumber_further (items.map Item.text) (.inl rfl) rest
      have read := reads.toReads _ (spaced.1.back.endsNumber ends)
      rw [List.map_cons, further_cons, List.cons_append, readItems_item found read,
        ih spaced.2 (place + 1) (f :: held) spaced.1.back]
      simp

theorem readSlots_array {items : List Item} {shown left : List shape.Field} {s : Text}
    (array : IsArray items s)
    (values : List.Forall₂ (fun item f => shows f item.value) items shown)
    (order : shape.fields = shown ++ left)
    (lacking : ∀ f ∈ left, shape.default? f = some (contents f)) (rest : Text) :
    readSlots (s ++ rest) = .ok (Slots.holding contents shown.reverse, rest) := by
  have bracket (s : Text) : readSlots ('[' :: s) =
      readItems 0 (Slots.holding contents []) s (shown ++ left) := by
    rw [Slots.holding_nil, ← order]
    rfl
  cases array with
  | @empty gap blank =>
      cases values with
      | nil =>
          rw [List.cons_append, List.cons_append, List.append_assoc, bracket]
          exact readItems_end lacking 0 _ blank rest
  | items some spaced =>
      cases values with
      | nil => exact absurd rfl some
      | @cons item f items shown value values =>
          rw [List.forall_mem_cons] at spaced
          let after := further (items.map Item.text) ']' rest
          have first := reads f _ value
          have found : nextItem ((0 : Nat) == 0) (item.text ++ after) =
              .ok (.item (item.value ++ (item.back ++ after))) :=
            Item.nextItem_first spaced.1 first.starts after
          have ends := endsNumber_further (items.map Item.text) (.inl rfl) rest
          have read := first.toReads _ (spaced.1.back.endsNumber ends)
          rw [List.map_cons, arrayText_append, bracket, List.cons_append, readItems_item found read,
            readItems_spaced reads values spaced.2 lacking 0 [f] spaced.1.back, List.reverse_cons]

/-! ### Structures -/

omit reads in
theorem read_gap (gap s : Text) (blank : IsGap gap) : shape.read (gap ++ s) = shape.read s := by
  rw [read, read, readSlots, readSlots, skipBlank_gap blank]

/-- A structure is read from every text of it, if what shows the content of a field is read as that
content. -/
theorem readsAnywhere {s : Text} (structured : IsStructure (shape.attributes contents shows) s) :
    ReadsAnywhere shape.read s contents := by
  refine Reads.anywhere ?_ structured.startsValue read_gap
  intro rest _
  cases structured with
  | @object entries names _ object members once full =>
      have slots := readSlots_object reads object members (fun f => once _ (mem_attributes f)) rest
      have complete : (Slots.holding contents (among names.reverse)).complete = .ok contents :=
        Slots.complete_holding contents fun f =>
          (full _ (mem_attributes f)).imp_left fun member =>
            mem_among.2 (List.mem_reverse.2 member)
      rw [read, slots]
      simp only [complete, Except.map]
  | array array values order lacking =>
      obtain ⟨shown, left, split, rfl, rfl⟩ := List.map_eq_append_iff.1 order
      rw [List.forall₂_map_right_iff] at values
      rw [List.forall_mem_map] at lacking
      have slots := readSlots_array reads array values split lacking rest
      have complete : (Slots.holding contents shown.reverse).complete = .ok contents := by
        refine Slots.complete_holding contents fun f => ?_
        have member := shape.mem_fields f
        rw [split, List.mem_append] at member
        exact member.imp List.mem_reverse.2 (lacking f)
      rw [read, slots]
      simp only [complete, Except.map]

omit reads in
/-- The object of all fields without blanks is a text of the structure. -/
theorem isStructure_members {texts : shape.Field → Text} (shown : ∀ f, shows f (texts f)) :
    IsStructure (shape.attributes contents shows)
      (objectText (shape.members texts shape.fields)) := by
  let entries := shape.fields.map fun f => Entry.compact (shape.key f) (texts f)
  have object : IsObject entries (objectText (shape.members texts shape.fields)) := by
    have spaced : ∀ entry ∈ entries, entry.IsSpaced :=
      List.forall_mem_map.2 fun f _ => Entry.isSpaced_compact (shape.key f) (texts f)
    simpa [entries, members, Function.comp_def] using IsObject.of_isSpaced spaced
  have members : List.Forall₂ (IsMember (shape.attributes contents shows)) entries
      (shape.fields.map shape.key) := by
    rw [List.forall₂_map_left_iff, List.forall₂_map_right_iff, List.forall₂_same]
    exact fun f _ => isMember_field (isString_quote _) (shown f)
  refine .object object members ?_ ?_
  · exact fun a _ => List.nodup_iff_count_le_one.1 shape.nodup_keys a.key
  · intro a listed
    obtain ⟨f, member, rfl⟩ := List.mem_map.1 listed
    exact .inl (List.mem_map_of_mem member)

end Shape

end NodeGauge.Json
