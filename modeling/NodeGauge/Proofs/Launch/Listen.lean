/-
Module: NodeGauge.Proofs.Launch.Listen
Purpose: Requests can be taken where an address ends in the number of a service that is not kept for
  the host's owner, and what stands before it is an address of 32 bits or one that is open.
Main exports: Launch.Listen.fits_of_hostAddress, Launch.Listen.bind_eq_ok_iff,
  Launch.listen_eq_ok_iff, Launch.listen_dotted
-/
import NodeGauge.Launch.Listen
import NodeGauge.Launch.Options
import NodeGauge.Proofs.Launch.Address

namespace NodeGauge.Launch

namespace Listen

open HostAddress (Fits dotted)

/-- The address of a host fits into its bits. -/
theorem fits_of_hostAddress {host number : Text} {a : HostAddress}
    (known : hostAddress host number = .ok a) : a.Fits := by
  rw [hostAddress] at known
  split at known
  · next address bracketed =>
      split at known
      · cases known
        exact HostAddress.fits_of_ofBracketed? bracketed
      · cases known
  · rw [resolve] at known
    split at known
    · next address found =>
        cases known
        rcases Option.or_eq_some_iff.1 found with short | ⟨-, long⟩
        · exact HostAddress.fits_of_ofDotted? short
        · exact HostAddress.fits_of_ofGrouped? long
    · split at known
      · cases known
        exact (by decide : 0x7f000001 < 0x100000000)
      · split at known
        · cases known
        · cases known

/-- Open groups start with a zero, and so are of one host. -/
theorem not_isMulticast_of_isOpen {groups : List Nat} (opened : isOpen groups = true) :
    HostAddress.isMulticast groups = false := by
  have front : groups.headD 0 = 0 := by
    cases groups with
    | nil => rfl
    | cons g groups =>
        simp only [isOpen, List.all_cons, List.take_succ_cons, Bool.or_eq_true, Bool.and_eq_true,
          beq_iff_eq, List.cons.injEq] at opened
        rcases opened with ⟨zero, -⟩ | ⟨zero, -⟩
        · exact zero
        · exact zero
  rw [HostAddress.isMulticast, front]
  rfl

/-- The system takes requests on services that are not reserved, on any address of 32 bits and on
groups that are open. -/
theorem bind_eq_ok_iff {service : Nat} {a : HostAddress} :
    bind service a = .ok () ↔
      isReserved service = false ∧ ∀ groups zone, a = .long groups zone → isOpen groups = true := by
  cases a with
  | short value =>
      rw [bind]
      cases isReserved service <;> simp
  | long groups zone =>
      have single : (∀ others zone', HostAddress.long groups zone = .long others zone' →
          isOpen others = true) ↔ isOpen groups = true := by
        constructor
        · exact fun opened => opened groups zone rfl
        · rintro opened _ _ ⟨⟩
          exact opened
      rw [single, bind]
      cases opened : isOpen groups with
      | true =>
          rw [not_isMulticast_of_isOpen opened]
          cases isReserved service <;> simp
      | false =>
          simp only [Bool.false_eq_true, if_false, and_false, iff_false]
          repeat' split
          all_goals exact fun ok => by cases ok

theorem hostAndNumber?_eq_some_iff {address host number : Text} :
    hostAndNumber? address = some (host, number) ↔
      address = host ++ ':' :: number ∧ ':' ∉ number := by
  constructor
  · intro found
    obtain ⟨⟨back, front⟩, cut, same⟩ := Option.map_eq_some_iff.1 found
    cases same
    obtain ⟨whole, noColon⟩ := Text.cut_eq_some_iff.1 cut
    refine ⟨?_, by simpa using noColon⟩
    rw [← List.reverse_reverse address, whole]
    simp
  · rintro ⟨rfl, noColon⟩
    have cut : Text.cut ':' (host ++ ':' :: number).reverse = some (number.reverse, host.reverse) :=
      Text.cut_eq_some_iff.2 ⟨by simp, by simpa using noColon⟩
    rw [hostAndNumber?, cut]
    simp

theorem serviceNumber?_eq_some_iff {s : Text} {service : Nat} :
    serviceNumber? s = some service ↔
      ∃ n, Numeral.Denotes s n ∧ n.toNat = service ∧ service < 65536 := by
  rw [serviceNumber?]
  cases read : Numeral.read? s with
  | none =>
      have nothing := Numeral.read?_eq_none_iff.1 read
      simp [nothing]
  | some n =>
      have denotes := Numeral.read?_eq_some_iff.1 read
      have small : n < 65536 ↔ n.toNat < 65536 := UInt64.lt_iff_toNat_lt
      rw [Option.ite_none_right_eq_some, small, Option.some.injEq]
      constructor
      · rintro ⟨fits, rfl⟩
        exact ⟨n, denotes, rfl, fits⟩
      · rintro ⟨m, other, rfl, fits⟩
        rw [denotes.unique other]
        exact ⟨fits, rfl⟩

end Listen

open Listen

/-- A host, a colon and the number of a service are told apart. -/
theorem listen_append {host number : Text} {service : UInt64}
    (denotes : Numeral.Denotes number service) (fits : service.toNat < 65536) :
    listen (host ++ ':' :: number) =
      hostAddress host number >>= fun known => (bind service.toNat known).mapError .refused := by
  have cut : hostAndNumber? (host ++ ':' :: number) = some (host, number) :=
    hostAndNumber?_eq_some_iff.2 ⟨rfl, denotes.not_mem (by decide) (by decide)⟩
  have read : serviceNumber? number = some service.toNat :=
    serviceNumber?_eq_some_iff.2 ⟨service, denotes, rfl, fits⟩
  rw [listen, cut]
  simp only [read]

/-- Requests can be taken on an address that is a host, a colon and the number of a service, where
the host is known and the system takes requests for it. -/
theorem listen_eq_ok_iff {address : Text} :
    listen address = .ok () ↔
      ∃ host number known, ∃ service : UInt64, address = host ++ ':' :: number ∧
        Numeral.Denotes number service ∧ service.toNat < 65536 ∧
        hostAddress host number = .ok known ∧ isReserved service.toNat = false ∧
        ∀ groups zone, known = .long groups zone → isOpen groups = true := by
  constructor
  · intro ok
    rw [listen] at ok
    split at ok
    · cases ok
    · next host number cut =>
        obtain ⟨rfl, -⟩ := hostAndNumber?_eq_some_iff.1 cut
        split at ok
        · cases ok
        · next service read =>
            obtain ⟨n, denotes, rfl, fits⟩ := serviceNumber?_eq_some_iff.1 read
            cases known : hostAddress host number with
            | error fault =>
                rw [known] at ok
                cases ok
            | ok a =>
                rw [known] at ok
                cases taken : bind n.toNat a with
                | error e =>
                    have refused : (bind n.toNat a).mapError ListenFault.refused = .ok () := ok
                    rw [taken] at refused
                    cases refused
                | ok =>
                    obtain ⟨free, opened⟩ := bind_eq_ok_iff.1 taken
                    exact ⟨host, number, a, n, rfl, denotes, fits, known, free, opened⟩
  · rintro ⟨host, number, a, n, rfl, denotes, fits, known, free, opened⟩
    have taken : bind n.toNat a = .ok () := bind_eq_ok_iff.2 ⟨free, opened⟩
    have refused : (bind n.toNat a).mapError ListenFault.refused = .ok () := by
      rw [taken]
      rfl
    rw [listen_append denotes fits, known]
    exact refused

theorem hostAddress_dotted {a b c d : Nat} (first : a < 256) (second : b < 256) (third : c < 256)
    (fourth : d < 256) (number : Text) :
    hostAddress (HostAddress.dotted a b c d) number =
      .ok (.short (256 * (256 * (256 * a + b) + c) + d)) := by
  have noBracket : HostAddress.ofBracketed? (HostAddress.dotted a b c d) = none := by
    rw [HostAddress.ofBracketed?.eq_def]
    split
    · next rest front =>
        have first : (HostAddress.dotted a b c d).head? = some '[' := by rw [front, List.head?_cons]
        rw [HostAddress.dotted, List.map_cons, List.map_cons, List.intercalate_cons_cons,
          List.append_assoc] at first
        exact absurd (Numeral.isDigit_of_head? first) (by decide)
    · rfl
  rw [hostAddress, noBracket]
  simp only [resolve, HostAddress.ofDotted?_dotted first second third fourth, Option.some_or]

/-- On four numbers with dots between and the number of a service, requests can be taken unless the
service is reserved. -/
theorem listen_dotted {a b c d service : Nat} (first : a < 256) (second : b < 256) (third : c < 256)
    (fourth : d < 256) (fits : service < 65536) :
    listen (HostAddress.dotted a b c d ++ ':' :: Numeral.ofNat service) =
      if isReserved service then .error (.refused .permissionDenied) else .ok () := by
  have small : service < UInt64.size := Nat.lt_trans fits (by decide)
  have denotes := Numeral.read?_eq_some_iff.1 (Numeral.read?_ofNat small)
  have same : (UInt64.ofNat service).toNat = service := UInt64.toNat_ofNat_of_lt' small
  rw [listen_append denotes (by rwa [same]), same, hostAddress_dotted first second third fourth]
  change (Listen.bind service (.short _)).mapError ListenFault.refused = _
  cases reserved : isReserved service with
  | true => simp [Listen.bind, reserved, Except.mapError]
  | false => simp [Listen.bind, reserved, Except.mapError]

/-- The address that is taken where none is given. -/
example : Setting.listenAddress.default? =
    some (HostAddress.dotted 0 0 0 0 ++ ':' :: Numeral.ofNat 8080) := by decide

end NodeGauge.Launch
