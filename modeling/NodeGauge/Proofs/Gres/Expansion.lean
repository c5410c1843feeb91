/-
Module: NodeGauge.Proofs.Gres.Expansion
Purpose: Which lists of device indices are read, into which bitmap, and which fault the other lists
  have.  The bitmap can be filled in place, item by item, and no span ever leaves it.
Main exports: mapM_eq_ok_iff, mapM_eq_error_iff, Gres.Names, Gres.ItemFault, Gres.LeftmostFault,
  Gres.Marks, Gres.readIndexList_eq_ok_iff, Gres.readIndexList_eq_error_iff, Gres.fillItems,
  Gres.Expands, Gres.readIndexList_eq_ok_iff_expands, Gres.index_list_expands_exactly
-/
import Mathlib.Data.List.Forall2
import NodeGauge.Proofs.Gres.IndexList

namespace NodeGauge

/-! ### Items read one after another -/

section items

variable {ε α β : Type} {read : α → Except ε β} {items : List α}

/-- A list is read when each of its items is. -/
theorem mapM_eq_ok_iff {values : List β} :
    items.mapM read = .ok values ↔ items.map read = values.map .ok := by
  induction items generalizing values with
  | nil => simp [pure, Except.pure, eq_comm]
  | cons item items ih =>
      rw [List.mapM_cons, List.map_cons]
      cases values with
      | nil =>
          cases read item with
          | error fault => simp [bind, Except.bind]
          | ok value => cases items.mapM read <;> simp [bind, Except.bind, pure, Except.pure]
      | cons first values =>
          rw [List.map_cons, List.cons.injEq, ← ih]
          cases read item with
          | error fault => simp [bind, Except.bind]
          | ok value => cases items.mapM read <;> simp [bind, Except.bind, pure, Except.pure]

/-- The values stand in the order of the items that they were read from. -/
theorem forall₂_of_mapM_eq_ok {values : List β} (all : items.mapM read = .ok values) :
    List.Forall₂ (fun item value => read item = .ok value) items values := by
  have results : List.Forall₂ (· = ·) (items.map read) (values.map .ok) := by
    rw [List.forall₂_eq_eq_eq]
    exact mapM_eq_ok_iff.1 all
  rwa [List.forall₂_map_left_iff, List.forall₂_map_right_iff] at results

theorem mem_iff_of_mapM_eq_ok {values : List β} (all : items.mapM read = .ok values) {value : β} :
    value ∈ values ↔ ∃ item ∈ items, read item = .ok value := by
  have results := mapM_eq_ok_iff.1 all
  rw [← List.mem_map, results, List.mem_map]
  simp

theorem exists_of_mapM_eq_ok {values : List β} (all : items.mapM read = .ok values) :
    ∀ item ∈ items, ∃ value, read item = .ok value := by
  intro item member
  have result : read item ∈ values.map Except.ok := by
    rw [← mapM_eq_ok_iff.1 all]
    exact List.mem_map_of_mem member
  obtain ⟨value, -, same⟩ := List.mem_map.1 result
  exact ⟨value, same.symm⟩

theorem mapM_cons_eq_error_iff {first : α} {fault : ε} :
    (first :: items).mapM read = .error fault ↔
      read first = .error fault ∨
        (∃ value, read first = .ok value) ∧ items.mapM read = .error fault := by
  rw [List.mapM_cons]
  cases read first with
  | error other => simp [bind, Except.bind]
  | ok value => cases items.mapM read <;> simp [bind, Except.bind, pure, Except.pure]

/-- The fault of a list is that of the first item that is not read. -/
theorem mapM_eq_error_iff {fault : ε} :
    items.mapM read = .error fault ↔
      ∃ before item later, items = before ++ item :: later ∧
        (∀ good ∈ before, ∃ value, read good = .ok value) ∧ read item = .error fault := by
  induction items with
  | nil => simp [pure, Except.pure]
  | cons first items ih =>
      rw [mapM_cons_eq_error_iff, ih]
      constructor
      · rintro (bad | ⟨readable, before, item, later, rfl, good, bad⟩)
        · exact ⟨[], first, items, rfl, by simp, bad⟩
        · exact ⟨first :: before, item, later, rfl, List.forall_mem_cons.2 ⟨readable, good⟩, bad⟩
      · rintro ⟨before, item, later, whole, good, bad⟩
        cases before with
        | nil =>
            obtain ⟨rfl, -⟩ := List.cons.inj whole
            exact Or.inl bad
        | cons head before =>
            obtain ⟨rfl, rest⟩ := List.cons.inj whole
            obtain ⟨readable, good⟩ := List.forall_mem_cons.1 good
            exact Or.inr ⟨readable, before, item, later, rest, good, bad⟩

end items

end NodeGauge

namespace NodeGauge.Gres

/-! ### What an item names -/

/-- An item names a span: one index, or the first and the last one with a dash between.  There is no
dash in a number, so the dash is the first one of the item. -/
inductive Names : Text → Span → Prop where
  | index {item : Text} {n : UInt64} (number : Numeral.Denotes item n) : Names item ⟨n, n⟩
  | range {front back : Text} {a b : UInt64} (first : Numeral.Denotes front a)
      (last : Numeral.Denotes back b) : Names (front ++ '-' :: back) ⟨a, b⟩

/-- A span that does not run backwards and does not leave a node with this many devices. -/
structure Span.Fits (s : Span) (devices : UInt64) : Prop where
  forwards : s.first.toNat ≤ s.last.toNat
  inside : s.last.toNat < devices.toNat

/-- What is wrong with an item, in a list for a node with this many devices. -/
inductive ItemFault (devices : UInt64) (item : Text) : Fault → Prop where
  | malformed (nameless : ∀ s, ¬Names item s) : ItemFault devices item (.malformedIndex item)
  | reversed {s : Span} (names : Names item s) (backwards : s.last.toNat < s.first.toNat) :
      ItemFault devices item (.reversedSpan s.first s.last)
  | beyond {s : Span} (names : Names item s) (forwards : s.first.toNat ≤ s.last.toNat)
      (outside : devices.toNat ≤ s.last.toNat) :
      ItemFault devices item (.indexBeyond s.last devices)

theorem Span.ofItem?_eq_some_iff {item : Text} {s : Span} :
    Span.ofItem? item = some s ↔ Names item s := by
  have noDash {number : Text} {n : UInt64} (denotes : Numeral.Denotes number n) : '-' ∉ number :=
    denotes.not_mem (by decide) (by decide)
  rw [Span.ofItem?]
  constructor
  · intro read
    cases cut : item.cut '-' with
    | none =>
        simp only [cut, bind, Option.bind_eq_some_iff] at read
        obtain ⟨n, number, same⟩ := read
        obtain rfl := Option.some.inj same
        exact .index (Numeral.read?_eq_some_iff.1 number)
    | some parts =>
        obtain ⟨front, back⟩ := parts
        obtain ⟨rfl, -⟩ := Text.cut_eq_some_iff.1 cut
        simp only [cut, bind, Option.bind_eq_some_iff] at read
        obtain ⟨a, first, b, last, same⟩ := read
        obtain rfl := Option.some.inj same
        exact .range (Numeral.read?_eq_some_iff.1 first) (Numeral.read?_eq_some_iff.1 last)
  · intro names
    cases names with
    | index number =>
        rw [Text.cut_eq_none_iff.2 (noDash number)]
        simp [Numeral.read?_eq_some_iff.2 number]
    | range first last =>
        rw [Text.cut_eq_some_iff.2 ⟨rfl, noDash first⟩]
        simp [Numeral.read?_eq_some_iff.2 first, Numeral.read?_eq_some_iff.2 last]

theorem Span.ofItem?_eq_none_iff {item : Text} :
    Span.ofItem? item = none ↔ ∀ s, ¬Names item s := by
  simp only [Option.eq_none_iff_forall_ne_some, ne_eq, Span.ofItem?_eq_some_iff]

theorem Span.covers_iff {s : Span} {i : Nat} :
    s.covers i = true ↔ s.first.toNat ≤ i ∧ i ≤ s.last.toNat := by
  simp [Span.covers]

theorem Names.unique {item : Text} {s t : Span} (one : Names item s) (two : Names item t) :
    s = t := by
  rw [← Span.ofItem?_eq_some_iff] at one two
  exact Option.some.inj (one.symm.trans two)

/-- The item names a span that fits. -/
def IsGoodItem (devices : UInt64) (item : Text) : Prop := ∃ s, Names item s ∧ s.Fits devices

section reading

variable {devices : UInt64}

theorem Span.read_eq_ok_iff {item : Text} {s : Span} :
    Span.read devices item = .ok s ↔ Names item s ∧ s.Fits devices := by
  rw [Span.read, ← Span.ofItem?_eq_some_iff]
  cases Span.ofItem? item with
  | none => simp
  | some named =>
      simp only [UInt64.lt_iff_toNat_lt, UInt64.le_iff_toNat_le, Option.some.injEq]
      constructor
      · intro read
        split at read
        · cases read
        · next forwards =>
            split at read
            · cases read
            · next inside =>
                obtain rfl := Except.ok.inj read
                exact ⟨rfl, Nat.not_lt.1 forwards, Nat.not_le.1 inside⟩
      · rintro ⟨rfl, fits⟩
        rw [if_neg (Nat.not_lt.2 fits.forwards), if_neg (Nat.not_le.2 fits.inside)]

theorem Span.read_eq_error_iff {item : Text} {fault : Fault} :
    Span.read devices item = .error fault ↔ ItemFault devices item fault := by
  rw [Span.read]
  cases named : Span.ofItem? item with
  | none =>
      have nameless := Span.ofItem?_eq_none_iff.1 named
      constructor
      · intro read
        obtain rfl := Except.error.inj read
        exact .malformed nameless
      · intro bad
        cases bad with
        | malformed => rfl
        | reversed names => exact absurd names (nameless _)
        | beyond names => exact absurd names (nameless _)
  | some s =>
      have names := Span.ofItem?_eq_some_iff.1 named
      simp only [UInt64.lt_iff_toNat_lt, UInt64.le_iff_toNat_le]
      constructor
      · intro read
        split at read
        · next backwards =>
            obtain rfl := Except.error.inj read
            exact .reversed names backwards
        · next forwards =>
            split at read
            · next outside =>
                obtain rfl := Except.error.inj read
                exact .beyond names (Nat.not_lt.1 forwards) outside
            · cases read
      · intro bad
        cases bad with
        | malformed nameless => exact absurd names (nameless s)
        | reversed other backwards =>
            obtain rfl := names.unique other
            rw [if_pos backwards]
        | beyond other forwards outside =>
            obtain rfl := names.unique other
            rw [if_neg (Nat.not_lt.2 forwards), if_pos outside]

theorem exists_read_iff {item : Text} :
    (∃ s, Span.read devices item = .ok s) ↔ IsGoodItem devices item := by
  simp only [Span.read_eq_ok_iff, IsGoodItem]

theorem ItemFault.unique {item : Text} {fault other : Fault} (one : ItemFault devices item fault)
    (two : ItemFault devices item other) : fault = other := by
  rw [← Span.read_eq_error_iff] at one two
  exact Except.error.inj (one.symm.trans two)

theorem ItemFault.not_isGoodItem {item : Text} {fault : Fault}
    (bad : ItemFault devices item fault) : ¬IsGoodItem devices item := by
  rw [← exists_read_iff, Span.read_eq_error_iff.2 bad]
  simp

/-! ### What a list marks -/

/-- The fault of the leftmost bad item. -/
def LeftmostFault (devices : UInt64) (items : List Text) (fault : Fault) : Prop :=
  ∃ before item later, items = before ++ item :: later ∧
    (∀ good ∈ before, IsGoodItem devices good) ∧ ItemFault devices item fault

/-- A bitmap has one flag for each device, and the flags that are set are those of the devices in
the spans that the items name. -/
structure Marks (devices : UInt64) (items : List Text) (bitmap : Bitmap) : Prop where
  length : bitmap.length = devices.toNat
  flag_iff : ∀ i < devices.toNat, bitmap[i]? = some true ↔
    ∃ item ∈ items, ∃ s, Names item s ∧ s.first.toNat ≤ i ∧ i ≤ s.last.toNat

theorem Marks.unique {items : List Text} {one two : Bitmap} (first : Marks devices items one)
    (second : Marks devices items two) : one = two := by
  apply List.ext_getElem (first.length.trans second.length.symm)
  intro i inOne inTwo
  have below : i < devices.toNat := first.length ▸ inOne
  have flags := (first.flag_iff i below).trans (second.flag_iff i below).symm
  rw [List.getElem?_eq_getElem inOne, List.getElem?_eq_getElem inTwo, Option.some.injEq,
    Option.some.injEq] at flags
  exact Bool.eq_iff_iff.2 flags

/-- Neither the order of the items nor their number matters to a bitmap. -/
theorem Marks.congr {items others : List Text} {bitmap : Bitmap}
    (same : ∀ item, item ∈ items ↔ item ∈ others) (marks : Marks devices items bitmap) :
    Marks devices others bitmap where
  length := marks.length
  flag_iff := by
    intro i below
    simp only [marks.flag_iff i below, same]

/-- The bitmap of spans that were read marks what their items name. -/
theorem marks_bitmapOf {items : List Text} {spans : List Span}
    (read : items.mapM (Span.read devices) = .ok spans) :
    Marks devices items (bitmapOf devices.toNat spans) where
  length := length_bitmapOf _ _
  flag_iff := by
    intro i below
    rw [getElem?_bitmapOf below, Option.some.injEq, List.any_eq_true]
    constructor
    · rintro ⟨s, member, covers⟩
      obtain ⟨item, among, named⟩ := (mem_iff_of_mapM_eq_ok read).1 member
      exact ⟨item, among, s, (Span.read_eq_ok_iff.1 named).1, Span.covers_iff.1 covers⟩
    · rintro ⟨item, among, s, names, inside⟩
      obtain ⟨t, named⟩ := exists_of_mapM_eq_ok read item among
      obtain rfl := names.unique (Span.read_eq_ok_iff.1 named).1
      exact ⟨s, (mem_iff_of_mapM_eq_ok read).2 ⟨item, among, named⟩, Span.covers_iff.2 inside⟩

/-! ### Lists read -/

theorem bitmapOf_nil (devices : Nat) : bitmapOf devices [] = List.replicate devices false := by
  apply List.ext_getElem <;> simp [bitmapOf]

theorem deviceLimit_lt_iff : deviceLimit < devices ↔ 65535 < devices.toNat :=
  UInt64.lt_iff_toNat_lt

theorem not_deviceLimit_lt (few : devices.toNat ≤ 65535) : ¬deviceLimit < devices :=
  mt deviceLimit_lt_iff.1 (Nat.not_lt.2 few)

theorem readIndexList_of_many (many : 65535 < devices.toNat) (list : Text) :
    readIndexList list devices = .error (.tooManyDevices devices) := by
  rw [readIndexList, if_pos (deviceLimit_lt_iff.2 many)]

theorem readIndexList_noIndices (few : devices.toNat ≤ 65535) :
    readIndexList noIndices devices = .ok (List.replicate devices.toNat false) := by
  rw [readIndexList, if_neg (not_deviceLimit_lt few), if_pos rfl, bitmapOf_nil]

section listed

variable {list : Text} (few : devices.toNat ≤ 65535) (listed : list ≠ noIndices)
include few listed

theorem readIndexList_eq_map :
    readIndexList list devices =
      ((list.splitOn ',').mapM (Span.read devices)).map (bitmapOf devices.toNat) := by
  rw [readIndexList, if_neg (not_deviceLimit_lt few), if_neg listed]
  cases (list.splitOn ',').mapM (Span.read devices) <;> rfl

/-- A list is refused for the fault of its leftmost bad item. -/
theorem readIndexList_eq_error_iff {fault : Fault} :
    readIndexList list devices = .error fault ↔
      LeftmostFault devices (list.splitOn ',') fault := by
  have refused : readIndexList list devices = .error fault ↔
      (list.splitOn ',').mapM (Span.read devices) = .error fault := by
    rw [readIndexList_eq_map few listed]
    cases (list.splitOn ',').mapM (Span.read devices) <;> simp [Except.map]
  rw [refused, mapM_eq_error_iff]
  simp only [exists_read_iff, Span.read_eq_error_iff, LeftmostFault]

/-- A list is read if all its items are good, and then its bitmap marks what they name. -/
theorem readIndexList_eq_ok_iff {bitmap : Bitmap} :
    readIndexList list devices = .ok bitmap ↔
      (∀ item ∈ list.splitOn ',', IsGoodItem devices item) ∧
        Marks devices (list.splitOn ',') bitmap := by
  rw [readIndexList_eq_map few listed]
  cases read : (list.splitOn ',').mapM (Span.read devices) with
  | error fault =>
      obtain ⟨before, item, later, whole, -, bad⟩ := mapM_eq_error_iff.1 read
      have among : item ∈ list.splitOn ',' := by simp [whole]
      constructor
      · intro ok
        cases ok
      · rintro ⟨good, -⟩
        exact absurd (good item among) (Span.read_eq_error_iff.1 bad).not_isGoodItem
  | ok spans =>
      have marks := marks_bitmapOf read
      constructor
      · intro ok
        obtain rfl := Except.ok.inj ok
        exact ⟨fun item among => exists_read_iff.1 (exists_of_mapM_eq_ok read item among), marks⟩
      · rintro ⟨-, other⟩
        exact congrArg Except.ok (marks.unique other)

theorem exists_readIndexList_iff :
    (∃ bitmap, readIndexList list devices = .ok bitmap) ↔
      ∀ item ∈ list.splitOn ',', IsGoodItem devices item := by
  constructor
  · rintro ⟨bitmap, ok⟩
    exact ((readIndexList_eq_ok_iff few listed).1 ok).1
  · intro good
    cases read : readIndexList list devices with
    | ok bitmap => exact ⟨bitmap, rfl⟩
    | error fault =>
        obtain ⟨before, item, later, whole, -, bad⟩ :=
          (readIndexList_eq_error_iff few listed).1 read
        exact absurd (good item (by simp [whole])) bad.not_isGoodItem

end listed

/-! ### Bitmaps filled in place -/

/-- Set the flags of a span, its first and its last included.  There is no result if the span runs
backwards or leaves the bitmap. -/
def Span.fill? (s : Span) (bitmap : Bitmap) : Option Bitmap :=
  if s.first.toNat ≤ s.last.toNat ∧ s.last.toNat < bitmap.length then
    some (bitmap.take s.first.toNat ++
      List.replicate (s.last.toNat + 1 - s.first.toNat) true ++ bitmap.drop (s.last.toNat + 1))
  else none

/-- Fill a bitmap with the spans of some items, each as soon as it is read, up to the first item
that is not read.  There is no outcome if a span leaves the bitmap. -/
def fillItems (devices : UInt64) (bitmap : Bitmap) : List Text → Option (Except Fault Bitmap)
  | [] => some (.ok bitmap)
  | item :: items =>
      match Span.read devices item with
      | .error fault => some (.error fault)
      | .ok s => (s.fill? bitmap).bind fun filled => fillItems devices filled items

/-- Filling one more span that fits is reading one more. -/
theorem Span.fill?_bitmapOf {s : Span} (fits : s.Fits devices) (spans : List Span) :
    s.fill? (bitmapOf devices.toNat spans) = some (bitmapOf devices.toNat (spans ++ [s])) := by
  have forwards := fits.forwards
  have inside := fits.inside
  have filled : s.first.toNat ≤ s.last.toNat ∧
      s.last.toNat < (bitmapOf devices.toNat spans).length := by
    rw [length_bitmapOf]
    exact ⟨forwards, inside⟩
  rw [Span.fill?, if_pos filled, Option.some.injEq]
  apply List.ext_getElem
  · simp [length_bitmapOf]
    omega
  · intro i _ _
    simp only [bitmapOf, List.getElem_append, List.getElem_take, List.getElem_drop,
      List.getElem_replicate, List.getElem_map, List.getElem_range, List.any_append, List.any_cons,
      List.any_nil, Bool.or_false, List.length_append, List.length_take, List.length_map,
      List.length_range, List.length_replicate]
    -- the place is in front of the span, in it, or behind it
    split
    · split
      · next before =>
          have outside : s.covers i = false := by
            rw [← Bool.not_eq_true, Span.covers_iff]
            omega
          rw [outside, Bool.or_false]
      · next notBehind notBefore =>
          have inSpan : s.covers i = true := by
            rw [Span.covers_iff]
            omega
          rw [inSpan, Bool.or_true]
    · next behind =>
        have outside : s.covers i = false := by
          rw [← Bool.not_eq_true, Span.covers_iff]
          omega
        have place : s.last.toNat + 1 + (i - (min s.first.toNat devices.toNat +
            (s.last.toNat + 1 - s.first.toNat))) = i := by omega
        rw [outside, Bool.or_false, place]

/-- The bitmap that is filled in place is the one that the list is read into, and no span leaves
it. -/
theorem fillItems_bitmapOf (items : List Text) (spans : List Span) :
    fillItems devices (bitmapOf devices.toNat spans) items =
      some ((items.mapM (Span.read devices)).map fun later =>
        bitmapOf devices.toNat (spans ++ later)) := by
  induction items generalizing spans with
  | nil => simp [fillItems, pure, Except.pure, Except.map]
  | cons item items ih =>
      rw [fillItems, List.mapM_cons]
      cases read : Span.read devices item with
      | error fault => rfl
      | ok s =>
          have fits := (Span.read_eq_ok_iff.1 read).2
          have one (later : List Span) : spans ++ [s] ++ later = spans ++ s :: later := by simp
          simp only [Span.fill?_bitmapOf fits, Option.bind_some, ih, one]
          cases items.mapM (Span.read devices) <;> rfl

/-! ### The whole list -/

theorem IsGoodItem.not_mem {item : Text} (good : IsGoodItem devices item) {c : Char}
    (noDigit : Numeral.isDigit c = false) (noSign : c ≠ '+') (noDash : c ≠ '-') : c ∉ item := by
  obtain ⟨s, names, -⟩ := good
  cases names with
  | index number => exact number.not_mem noDigit noSign
  | range first last =>
      rw [List.mem_append, List.mem_cons]
      rintro (inside | dash | inside)
      · exact first.not_mem noDigit noSign inside
      · exact noDash dash
      · exact last.not_mem noDigit noSign inside

/-- The word for no index is no list of good items. -/
theorem ne_noIndices {list : Text} (good : ∀ item ∈ list.splitOn ',', IsGoodItem devices item) :
    list ≠ noIndices := by
  rintro rfl
  have whole : noIndices ∈ noIndices.splitOn ',' := by decide
  exact (good noIndices whole).not_mem (show Numeral.isDigit 'N' = false by decide) (by decide)
    (by decide) (by decide)

/-- What a list means: the word for no index sets no flag, and any other list of good items sets
those of the devices that they name. -/
inductive Expands (devices : UInt64) : Text → Bitmap → Prop where
  | noIndices : Expands devices "N/A".toList (List.replicate devices.toNat false)
  | listed {list : Text} {bitmap : Bitmap}
      (good : ∀ item ∈ list.splitOn ',', IsGoodItem devices item)
      (marks : Marks devices (list.splitOn ',') bitmap) : Expands devices list bitmap

theorem Expands.length {list : Text} {bitmap : Bitmap} (expands : Expands devices list bitmap) :
    bitmap.length = devices.toNat := by
  cases expands with
  | noIndices => exact List.length_replicate
  | listed _ marks => exact marks.length

/-- A list is read into what it means, if there are not too many devices. -/
theorem readIndexList_eq_ok_iff_expands {list : Text} {bitmap : Bitmap} :
    readIndexList list devices = .ok bitmap ↔
      devices.toNat ≤ 65535 ∧ Expands devices list bitmap := by
  constructor
  · intro ok
    have few : devices.toNat ≤ 65535 := by
      by_contra many
      rw [readIndexList_of_many (Nat.not_le.1 many)] at ok
      cases ok
    refine ⟨few, ?_⟩
    by_cases listed : list = noIndices
    · subst listed
      rw [readIndexList_noIndices few] at ok
      obtain rfl := Except.ok.inj ok
      exact .noIndices
    · obtain ⟨good, marks⟩ := (readIndexList_eq_ok_iff few listed).1 ok
      exact .listed good marks
  · rintro ⟨few, expands⟩
    cases expands with
    | noIndices => exact readIndexList_noIndices few
    | listed good marks => exact (readIndexList_eq_ok_iff few (ne_noIndices good)).2 ⟨good, marks⟩

/-- A list has a meaning if it is the word for no index, or if all its items are good. -/
theorem exists_expands_iff {list : Text} (few : devices.toNat ≤ 65535) :
    (∃ bitmap, Expands devices list bitmap) ↔
      list = "N/A".toList ∨ ∀ item ∈ list.splitOn ',', IsGoodItem devices item := by
  constructor
  · rintro ⟨bitmap, expands⟩
    cases expands with
    | noIndices => exact Or.inl rfl
    | listed good => exact Or.inr good
  · rintro (rfl | good)
    · exact ⟨_, .noIndices⟩
    · obtain ⟨bitmap, ok⟩ := (exists_readIndexList_iff few (ne_noIndices good)).2 good
      exact ⟨bitmap, (readIndexList_eq_ok_iff_expands.1 ok).2⟩

theorem Expands.unique {list : Text} {one two : Bitmap} (few : devices.toNat ≤ 65535)
    (first : Expands devices list one) (second : Expands devices list two) : one = two := by
  have readOne := readIndexList_eq_ok_iff_expands.2 ⟨few, first⟩
  have readTwo := readIndexList_eq_ok_iff_expands.2 ⟨few, second⟩
  exact Except.ok.inj (readOne.symm.trans readTwo)

/-- The order and the repetition of the items make no difference to a list that is read. -/
theorem readIndexList_congr {list other : Text} {bitmap : Bitmap} (few : devices.toNat ≤ 65535)
    (listed : list ≠ noIndices) (ok : readIndexList list devices = .ok bitmap)
    (same : ∀ item, item ∈ list.splitOn ',' ↔ item ∈ other.splitOn ',') :
    readIndexList other devices = .ok bitmap := by
  obtain ⟨good, marks⟩ := (readIndexList_eq_ok_iff few listed).1 ok
  have otherGood : ∀ item ∈ other.splitOn ',', IsGoodItem devices item := by
    intro item among
    exact good item ((same item).2 among)
  exact (readIndexList_eq_ok_iff few (ne_noIndices otherGood)).2 ⟨otherGood, marks.congr same⟩

end reading

/-- Every list is expanded exactly, for every number of devices.  Too many devices are refused
whatever the list says, and the word for no index sets no flag.  Any other list is read just if all
its items are good, into the bitmap that marks what they name, and is refused for its leftmost bad
item otherwise.  The bitmap can be filled in place, and items in another order or repeated give the
same one. -/
theorem index_list_expands_exactly (list : Text) (devices : UInt64) :
    (65535 < devices.toNat → readIndexList list devices = .error (.tooManyDevices devices)) ∧
      (devices.toNat ≤ 65535 →
        readIndexList "N/A".toList devices = .ok (List.replicate devices.toNat false)) ∧
      (devices.toNat ≤ 65535 → list ≠ "N/A".toList →
        ((∃ bitmap, readIndexList list devices = .ok bitmap) ↔
            ∀ item ∈ list.splitOn ',', IsGoodItem devices item) ∧
          (∀ bitmap, readIndexList list devices = .ok bitmap →
            Marks devices (list.splitOn ',') bitmap) ∧
          (∀ fault, readIndexList list devices = .error fault ↔
            LeftmostFault devices (list.splitOn ',') fault) ∧
          fillItems devices (List.replicate devices.toNat false) (list.splitOn ',') =
            some (readIndexList list devices) ∧
          ∀ other bitmap, readIndexList list devices = .ok bitmap →
            (∀ item, item ∈ list.splitOn ',' ↔ item ∈ other.splitOn ',') →
            readIndexList other devices = .ok bitmap) := by
  refine ⟨fun many => readIndexList_of_many many list, readIndexList_noIndices, ?_⟩
  intro few listed
  refine ⟨exists_readIndexList_iff few listed, ?_, fun _ => readIndexList_eq_error_iff few listed,
    ?_, fun _ _ => readIndexList_congr few listed⟩
  · intro bitmap ok
    exact ((readIndexList_eq_ok_iff few listed).1 ok).2
  · rw [← bitmapOf_nil, fillItems_bitmapOf, readIndexList_eq_map few listed]
    rfl

/-- One device too many; no index; two lists of the same devices; and a list whose second item is
the leftmost bad one. -/
theorem index_list_expands_exactly_eight :
    readIndexList "0,2-6".toList 65536 = .error (.tooManyDevices 65536) ∧
      readIndexList "N/A".toList 8 = .ok (List.replicate 8 false) ∧
      readIndexList "2-6,0,2-6".toList 8 =
        .ok [true, false, true, true, true, true, true, false] ∧
      LeftmostFault 8 ["0".toList, "7-8".toList, "x".toList] (.indexBeyond 8 8) := by
  have many := (index_list_expands_exactly "0,2-6".toList 65536).1
  obtain ⟨-, none, all⟩ := index_list_expands_exactly "0,2-6".toList 8
  obtain ⟨-, -, -, -, again⟩ := all (by decide) (by decide)
  obtain ⟨-, -, refused, -, -⟩ :=
    (index_list_expands_exactly "0,7-8,x".toList 8).2.2 (by decide) (by decide)
  refine ⟨many (by decide), none (by decide), ?_, ?_⟩
  · apply again "2-6,0,2-6".toList _ (by decide)
    have items : "0,2-6".toList.splitOn ',' = ["0".toList, "2-6".toList] := by decide
    have others : "2-6,0,2-6".toList.splitOn ',' = ["2-6".toList, "0".toList, "2-6".toList] := by
      decide
    intro item
    rw [items, others]
    simp only [List.mem_cons, List.not_mem_nil, or_false]
    tauto
  · exact (refused _).1 (by decide)

end NodeGauge.Gres
