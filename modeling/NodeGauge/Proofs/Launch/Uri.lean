/-
Module: NodeGauge.Proofs.Launch.Uri
Purpose: An address of a resource has neither blanks nor controls before its fragment, and a scheme,
  a host, a service and a path written one after the other are an address.
Main exports: Launch.Uri.isVisible, Launch.Uri.IsClean, Launch.isClean_of_checkUri, Launch.Location,
  Launch.Location.checkUri_written
-/
import Mathlib.Data.List.TakeWhile
import NodeGauge.Launch.Uri
import NodeGauge.Proofs.Text.Words

namespace NodeGauge.Launch

namespace Uri

/-! ### Octets that may be seen -/

/-- An octet that is no blank and no control of the ASCII block. -/
def isVisible (b : UInt8) : Bool := 0x20 < b && b != 0x7f

/-- What holds of the octets one by one holds of every octet. -/
theorem forall_octet {p : UInt8 → Prop} (table : ∀ n < 256, p (.ofNat n)) (b : UInt8) : p b := by
  have found := table b.toNat b.toNat_lt
  rwa [UInt8.ofNat_toNat] at found

theorem isVisible_of_allowed {b : UInt8}
    (allowed : (inScheme b || inAuthority b || inPath b || inQuery b) = true) :
    isVisible b = true := by
  revert b
  apply forall_octet
  decide +kernel

/-- Octets without blanks and controls up to the first number sign. -/
def IsClean (octets : Octets) : Prop :=
  ∀ b ∈ octets.takeWhile (· != octet '#'), isVisible b = true

theorem isClean_of_visible {octets : Octets} (visible : ∀ b ∈ octets, isVisible b = true) :
    IsClean octets :=
  fun b member => visible b ((List.takeWhile_sublist _).subset member)

theorem isClean_nil : IsClean [] := isClean_of_visible (by simp)

theorem isClean_append {front rest : Octets} (visible : ∀ b ∈ front, isVisible b = true)
    (clean : IsClean rest) : IsClean (front ++ rest) := by
  intro b member
  rw [List.takeWhile_append] at member
  split at member
  · rcases List.mem_append.1 member with inFront | behind
    · exact visible b inFront
    · exact clean b behind
  · exact isClean_of_visible visible b member

theorem isClean_of_checkPath {octets : Octets} (checked : checkPath octets = .ok ()) :
    IsClean octets := by
  let inside (b : UInt8) : Bool := b != octet '?' && b != octet '#'
  have whole : octets.takeWhile inside ++ octets.dropWhile inside = octets :=
    List.takeWhile_append_dropWhile
  have mark := List.head?_dropWhile_not inside octets
  rw [checkPath] at checked
  split at checked
  · cases checked
  · next path =>
      simp only [Bool.not_eq_true', Bool.not_eq_false, List.all_eq_true] at path
      have visible : ∀ b ∈ octets.takeWhile inside, isVisible b = true := fun b member =>
        isVisible_of_allowed (by simp [path b member])
      rw [← whole]
      refine isClean_append visible ?_
      split at checked
      · next b query behind =>
          have behind : octets.dropWhile inside = b :: query := behind
          rw [behind] at mark ⊢
          by_cases question : b = octet '?'
          · subst question
            have allowed : allBeforeFragment inQuery query = true := by
              simpa using checked
            have here : isVisible (octet '?') = true := by decide
            change IsClean ([octet '?'] ++ query)
            refine isClean_append (by simpa using here) ?_
            intro b member
            exact isVisible_of_allowed (by simp [List.all_eq_true.1 allowed b member])
          · have sharp : b = octet '#' := by
              simpa [inside, question] using mark
            simp [IsClean, sharp]
      · next behind =>
          have behind : octets.dropWhile inside = [] := behind
          simp [behind, IsClean]

/-- Whether an octet ends an authority. -/
def endsAuthority (b : UInt8) : Bool := b == octet '/' || b == octet '?' || b == octet '#'

theorem isVisible_of_read {a next : AuthorityState} {b : UInt8} (read : a.read b = .ok next) :
    isVisible b = true := by
  by_cases allowed : inAuthority b = true
  · exact isVisible_of_allowed (by simp [allowed])
  · by_cases escape : b = octet '%'
    · subst escape
      decide
    · -- The other marks of an authority are allowed in one.
      have other {mark : UInt8} (among : inAuthority mark = true) : b ≠ mark := by
        rintro rfl
        exact allowed among
      rw [AuthorityState.read] at read
      dsimp only at read
      rw [if_neg (other (by decide)), if_neg (other (by decide)), if_neg (other (by decide)),
        if_neg (other (by decide)), if_neg escape, if_neg allowed] at read
      cases read

theorem exists_of_bind_eq_ok {ε α β : Type} {first : Except ε α} {second : α → Except ε β} {b : β}
    (ok : first >>= second = .ok b) : ∃ a, first = .ok a ∧ second a = .ok b := by
  cases first with
  | error e => cases ok
  | ok a => exact ⟨a, rfl, ok⟩

theorem of_ite_eq_ok {ε : Type} {p : Prop} [Decidable p] {e : ε}
    (ok : (if p then .ok () else .error e : Except ε Unit) = .ok ()) : p := by
  split at ok
  · assumption
  · cases ok

theorem isVisible_of_foldlM_read {a last : AuthorityState} {octets : Octets}
    (read : octets.foldlM AuthorityState.read a = .ok last) : ∀ b ∈ octets, isVisible b = true := by
  induction octets generalizing a with
  | nil => simp
  | cons b octets ih =>
      rw [List.foldlM_cons] at read
      obtain ⟨next, first, later⟩ := exists_of_bind_eq_ok read
      exact List.forall_mem_cons.2 ⟨isVisible_of_read first, ih later⟩

theorem splitAuthority_eq (octets : Octets) :
    splitAuthority octets =
      ((octets.takeWhile fun b => !endsAuthority b).foldlM AuthorityState.read
        ⟨0, false, false, false, false⟩) >>= fun state =>
          if state.complete then
            .ok (octets.takeWhile fun b => !endsAuthority b,
              octets.dropWhile fun b => !endsAuthority b)
          else .error .badAuthority := rfl

/-- What is split off is an authority without blanks and controls. -/
theorem isClean_of_splitAuthority {octets authority behind : Octets}
    (split : splitAuthority octets = .ok (authority, behind)) (clean : IsClean behind) :
    IsClean octets := by
  rw [splitAuthority_eq] at split
  obtain ⟨state, read, complete⟩ := exists_of_bind_eq_ok split
  split at complete
  · cases complete
    have whole := isClean_append (isVisible_of_foldlM_read read) clean
    rwa [List.takeWhile_append_dropWhile] at whole
  · cases complete

theorem afterScheme?_eq_some {octets body : Octets}
    (scheme : afterScheme? octets = .ok (some body)) :
    ∃ front, octets = front ++ body ∧ ∀ b ∈ front, isVisible b = true := by
  rw [afterScheme?] at scheme
  split at scheme
  · cases scheme
  · split at scheme
    · next marked =>
        split at scheme
        · cases scheme
        · cases scheme
          obtain ⟨body, behind⟩ := List.isPrefixOf_iff_prefix.1 marked
          refine ⟨octets.takeWhile inScheme ++ schemeMark, ?_, ?_⟩
          · rw [← behind, List.drop_left, List.append_assoc, behind,
              List.takeWhile_append_dropWhile]
          · intro b member
            rcases List.mem_append.1 member with inFront | inMark
            · have allowed : inScheme b = true := List.all_eq_true.1 List.all_takeWhile b inFront
              exact isVisible_of_allowed (by simp [allowed])
            · have visible : schemeMark.all isVisible = true := by decide
              exact List.all_eq_true.1 visible b inMark
    · cases scheme

end Uri

open Uri

/-- An address of a resource is of some length and not too long, and nothing in it is hidden up to
its fragment. -/
theorem isClean_of_checkUri {octets : Octets} (checked : checkUri octets = .ok ()) :
    octets ≠ [] ∧ octets.length ≤ lengthLimit ∧ IsClean octets := by
  rw [checkUri.eq_def] at checked
  split at checked
  · cases checked
  · next bounded =>
      refine ⟨?_, Nat.le_of_not_lt bounded, ?_⟩
      · rintro rfl
        cases checked
      · split at checked
        · cases checked
        · next b =>
            obtain ⟨⟨authority, behind⟩, split, ends⟩ := exists_of_bind_eq_ok checked
            by_cases slash : b = octet '/'
            · subst slash
              have visible : [octet '/'].all isVisible = true := by decide
              exact isClean_of_visible (List.all_eq_true.1 visible)
            · have done : behind = [] := by simpa [slash] using of_ite_eq_ok ends
              exact isClean_of_splitAuthority split (done ▸ isClean_nil)
        · next first rest _ =>
            split at checked
            · exact isClean_of_checkPath checked
            · obtain ⟨body?, scheme, further⟩ := exists_of_bind_eq_ok checked
              cases body? with
              | none =>
                  obtain ⟨⟨authority, behind⟩, split, ends⟩ := exists_of_bind_eq_ok further
                  have done : behind = [] := List.isEmpty_iff.1 (of_ite_eq_ok ends)
                  exact isClean_of_splitAuthority split (done ▸ isClean_nil)
              | some body =>
                  obtain ⟨front, whole, visible⟩ := afterScheme?_eq_some scheme
                  cases body with
                  | nil => cases further
                  | cons c body =>
                      obtain ⟨⟨authority, behind⟩, split, ends⟩ := exists_of_bind_eq_ok further
                      dsimp only at ends
                      split at ends
                      · cases ends
                      · rw [whole]
                        exact isClean_append visible
                          (isClean_of_splitAuthority split (isClean_of_checkPath ends))

/-! ### An address in parts -/

/-- The parts of an address: letters and digits for the scheme and the service, and hyphens and dots
between them for the host. -/
structure Location where
  scheme : Octets
  host : Octets
  service : Octets
  /-- What stands behind the first slash. -/
  path : Octets
  isScheme : scheme ≠ [] ∧ scheme.length ≤ schemeLimit ∧ ∀ b ∈ scheme, isAlphanumeric b = true
  isHost : host ≠ [] ∧ ∀ b ∈ host, (isAlphanumeric b || isOneOf b "-.") = true
  isService : ∀ b ∈ service, isAlphanumeric b = true
  isPath : ∀ b ∈ path, inPath b = true

namespace Location

/-- The host and its service, with a colon between. -/
def authority (l : Location) : Octets := l.host ++ octet ':' :: l.service

/-- The parts one after the other. -/
def written (l : Location) : Octets :=
  l.scheme ++ (schemeMark ++ (l.authority ++ octet '/' :: l.path))

/-- An octet of a host is no mark of an authority, and does not end it. -/
theorem plain_of_inHost {b : UInt8} (inHost : (isAlphanumeric b || isOneOf b "-.") = true) :
    (b ∉ [octet ':', octet '[', octet ']', octet '@', octet '%']) ∧ inAuthority b = true ∧
      endsAuthority b = false := by
  revert b
  apply forall_octet
  decide +kernel

theorem read_of_inHost {b : UInt8} (inHost : (isAlphanumeric b || isOneOf b "-.") = true)
    {a : AuthorityState} (inside : a.atEnd = false) : a.read b = .ok a := by
  obtain ⟨noMark, allowed, -⟩ := plain_of_inHost inHost
  simp only [List.mem_cons, List.not_mem_nil, or_false, not_or] at noMark
  obtain ⟨colon, opening, closing, user, escape⟩ := noMark
  rw [AuthorityState.read]
  simp only [if_neg colon, if_neg opening, if_neg closing, if_neg user, if_neg escape, allowed,
    if_true, ← inside]

theorem foldlM_read_of_inHost {octets : Octets}
    (inHost : ∀ b ∈ octets, (isAlphanumeric b || isOneOf b "-.") = true) {a : AuthorityState}
    (inside : a.atEnd = false) : octets.foldlM AuthorityState.read a = .ok a := by
  induction octets with
  | nil => rfl
  | cons b octets ih =>
      rw [List.forall_mem_cons] at inHost
      rw [List.foldlM_cons, read_of_inHost inHost.1 inside]
      exact ih inHost.2

section

variable (l : Location)

theorem inHost_service : ∀ b ∈ l.service, (isAlphanumeric b || isOneOf b "-.") = true := by
  intro b member
  simp [l.isService b member]

theorem foldlM_read_authority :
    l.authority.foldlM AuthorityState.read ⟨0, false, false, false, false⟩ =
      .ok ⟨1, false, false, false, false⟩ := by
  rw [authority, List.foldlM_append, foldlM_read_of_inHost l.isHost.2 rfl]
  exact foldlM_read_of_inHost l.inHost_service rfl

theorem splitAuthority_written :
    splitAuthority (l.authority ++ octet '/' :: l.path) =
      .ok (l.authority, octet '/' :: l.path) := by
  have inside : ∀ b ∈ l.authority, (!endsAuthority b) = true := by
    intro b member
    rw [authority] at member
    rcases List.mem_append.1 member with inHost | behind
    · simp [plain_of_inHost (l.isHost.2 b inHost)]
    · rcases List.mem_cons.1 behind with rfl | inService
      · decide
      · simp [plain_of_inHost (l.inHost_service b inService)]
  rw [splitAuthority_eq, Text.takeWhile_append_cons inside (by decide),
    Text.dropWhile_append_cons inside (by decide), foldlM_read_authority]
  rfl

theorem checkPath_written : checkPath (octet '/' :: l.path) = .ok () := by
  have allowed : ∀ b ∈ octet '/' :: l.path, inPath b = true :=
    List.forall_mem_cons.2 ⟨by decide, l.isPath⟩
  have inside : ∀ b ∈ octet '/' :: l.path, (b != octet '?' && b != octet '#') = true := by
    intro b member
    have other {mark : UInt8} (outside : inPath mark = false) : b ≠ mark := by
      rintro rfl
      rw [allowed b member] at outside
      cases outside
    have question : b ≠ octet '?' := other (by decide)
    have sharp : b ≠ octet '#' := other (by decide)
    simp [question, sharp]
  have all : (octet '/' :: l.path).all inPath = true := List.all_eq_true.2 allowed
  rw [checkPath, List.takeWhile_eq_self_iff.2 inside, List.dropWhile_eq_nil_iff.2 inside, all]
  rfl

theorem afterScheme?_written :
    afterScheme? l.written = .ok (some (l.authority ++ octet '/' :: l.path)) := by
  have inside : ∀ b ∈ l.scheme, inScheme b = true := by
    intro b member
    simp [inScheme, l.isScheme.2.2 b member]
  have stops : inScheme (octet ':') = false := by decide
  have taken : l.written.takeWhile inScheme = l.scheme :=
    Text.takeWhile_append_cons inside stops _
  have dropped : l.written.dropWhile inScheme =
      schemeMark ++ (l.authority ++ octet '/' :: l.path) :=
    Text.dropWhile_append_cons inside stops _
  have long : ¬l.written.length ≤ schemeMark.length := by
    have some := List.length_pos_iff.2 l.isScheme.1
    simp only [written, List.length_append]
    omega
  have marked : schemeMark.isPrefixOf (schemeMark ++ (l.authority ++ octet '/' :: l.path)) = true :=
    List.isPrefixOf_iff_prefix.2 (List.prefix_append _ _)
  rw [afterScheme?, taken, dropped, if_neg long, if_pos marked,
    if_neg (Nat.not_lt.2 l.isScheme.2.1), List.drop_left]

/-- An address in parts is an address. -/
theorem checkUri_written (bounded : l.written.length ≤ lengthLimit) :
    checkUri l.written = .ok () := by
  have lengths : l.written.length =
      l.scheme.length + (schemeMark.length + (l.authority.length + (l.path.length + 1))) := by
    simp [written]
  have mark : schemeMark.length = 3 := rfl
  rw [checkUri.eq_def, if_neg (Nat.not_lt.2 bounded)]
  split
  · next none =>
      rw [none, List.length_nil] at lengths
      omega
  · next one =>
      rw [one, List.length_singleton] at lengths
      omega
  · next first rest _ whole =>
      have slash : first ≠ octet '/' := by
        obtain ⟨b, scheme, front⟩ := List.exists_cons_of_ne_nil l.isScheme.1
        have same : b = first := by
          rw [written, front] at whole
          exact (List.cons.inj whole).1
        have alphanumeric := l.isScheme.2.2 b (by rw [front]; exact List.mem_cons_self)
        rintro rfl
        rw [same] at alphanumeric
        exact absurd alphanumeric (by decide)
      have full : l.authority.isEmpty = false := by simp [authority]
      have scheme := l.afterScheme?_written
      have split := l.splitAuthority_written
      obtain ⟨c, body, front⟩ := List.exists_cons_of_ne_nil
        (l := l.authority ++ octet '/' :: l.path) (by simp)
      rw [whole, front] at scheme
      rw [front] at split
      rw [if_neg slash, scheme]
      simp only [bind, Except.bind, split, full, l.checkPath_written, Bool.false_eq_true, if_false]

end

end Location

end NodeGauge.Launch
