import TrustAnchor.Anchor.Scripted
import TrustAnchor.Proofs.Context.Keys
import TrustAnchor.Proofs.Recorded.Conservation

/-!
Keys from the request to the answer.

A request for a key is refused for the first of its checks that it does not pass, whatever the state of the
context.  A request that passes them is one call to the open session, and the digest that comes back is cut
to the key or, if it has another length than a full digest, refused as a whole (`keyed`).  So a key is never
shorter than what was asked for, and a shorter key is a prefix of a longer one.  `deriveKey_end_to_end` says
all of this of the public operation.
-/

namespace TrustAnchor

open Act

/-! ## The checks of a request -/

theorem Bytes.toVector?_of_length {n : Nat} {bytes : Bytes} (width : bytes.length = n) :
    ∃ vector : Vector UInt8 n, Bytes.toVector? n bytes = some vector ∧ vector.toList = bytes :=
  ⟨_, dif_pos width, by simp [Vector.toList]⟩

namespace Slot

variable {number : UInt8}

theorem index_injective {slot other : Slot} (same : slot.index = other.index) : slot = other := by
  cases slot with
  | first =>
    cases other with
    | first => rfl
    | second => cases same
  | second =>
    cases other with
    | first => cases same
    | second => rfl

theorem exists_of_number (known : number = 0 ∨ number = 1) :
    ∃ slot, ofNumber number = .ok slot ∧ slot.index = number.toNat := by
  obtain rfl | rfl := known
  · exact ⟨.first, rfl, rfl⟩
  · exact ⟨.second, rfl, rfl⟩

theorem known_of_index {slot : Slot} (found : slot.index = number.toNat) : number = 0 ∨ number = 1 := by
  cases slot with
  | first => exact .inl (UInt8.toNat_inj.mp found.symm)
  | second => exact .inr (UInt8.toNat_inj.mp found.symm)

theorem ofNumber_of_unknown (unknown : ¬(number = 0 ∨ number = 1)) :
    ofNumber number = .error (.keySlot number) := by
  have missing : ofNumber? number = none := by
    rw [← Option.not_isSome_iff_eq_none, ofNumber?_isSome_iff]
    exact unknown
  rw [ofNumber, missing]

end Slot

namespace KeyRequest

variable {number : UInt8} {value : Bytes} {length : Nat}

theorem check_of_value (wrong : value.length ≠ derivationLength) :
    check number value length = .error (.derivationValueLength value.length) := by
  have refused : DerivationValue.ofBytes value = .error (.derivationValueLength value.length) := by
    rw [DerivationValue.ofBytes, Bytes.toVector?, dif_neg wrong]
  rw [check, refused]
  rfl

/-- The checks of a request whose derivation value has the right length. -/
theorem check_of_width (number : UInt8) (length : Nat) (width : value.length = derivationLength) :
    ∃ vector : DerivationValue, vector.toList = value ∧ check number value length =
      if h : length ≤ keyLengthLimit then
        (Slot.ofNumber number).map fun slot => ⟨slot, vector, length, h⟩
      else .error (.keyLength length) := by
  obtain ⟨vector, made, same⟩ := Bytes.toVector?_of_length width
  have accepted : DerivationValue.ofBytes value = .ok vector := by
    rw [DerivationValue.ofBytes, made]
  refine ⟨vector, same, ?_⟩
  rw [check, accepted]
  by_cases short : length ≤ keyLengthLimit
  · rw [dif_pos short]
    show (if h : length ≤ keyLengthLimit then _ else _) = _
    rw [dif_pos short]
    cases Slot.ofNumber number <;> rfl
  · rw [dif_neg short]
    show (if h : length ≤ keyLengthLimit then _ else _) = _
    rw [dif_neg short]
    rfl

theorem check_of_length (width : value.length = derivationLength) (long : keyLengthLimit < length) :
    check number value length = .error (.keyLength length) := by
  obtain ⟨vector, -, checked⟩ := check_of_width number length width
  rw [checked, dif_neg (Nat.not_le.mpr long)]

theorem check_of_number (width : value.length = derivationLength) (short : length ≤ keyLengthLimit)
    (unknown : ¬(number = 0 ∨ number = 1)) : check number value length = .error (.keySlot number) := by
  obtain ⟨vector, -, checked⟩ := check_of_width number length width
  rw [checked, dif_pos short, Slot.ofNumber_of_unknown unknown]
  rfl

/-- A request that passes its checks asks for what it was made from. -/
theorem check_of_valid (width : value.length = derivationLength) (short : length ≤ keyLengthLimit)
    (known : number = 0 ∨ number = 1) :
    ∃ request, check number value length = .ok request ∧ request.slot.index = number.toNat ∧
      request.message = value ∧ request.length = length := by
  obtain ⟨vector, same, checked⟩ := check_of_width number length width
  obtain ⟨slot, found, index⟩ := Slot.exists_of_number known
  rw [checked, dif_pos short, found]
  exact ⟨_, rfl, index, same, rfl⟩

theorem valid_of_check {request : KeyRequest} (checked : check number value length = .ok request) :
    value.length = derivationLength ∧ length ≤ keyLengthLimit ∧ (number = 0 ∨ number = 1) := by
  by_cases width : value.length = derivationLength
  · by_cases short : length ≤ keyLengthLimit
    · by_cases known : number = 0 ∨ number = 1
      · exact ⟨width, short, known⟩
      · cases (check_of_number width short known).symm.trans checked
    · cases (check_of_length width (Nat.not_le.mp short)).symm.trans checked
  · cases (check_of_value width).symm.trans checked

theorem length_of_check {request : KeyRequest} (checked : check number value length = .ok request) :
    request.length = length := by
  obtain ⟨width, short, known⟩ := valid_of_check checked
  obtain ⟨other, made, -, -, same⟩ := check_of_valid width short known
  cases made.symm.trans checked
  exact same

end KeyRequest

namespace Context

variable {ω σ : Type}

/-! ## From the digest to the key -/

/-- What a request for a key of so many bytes gives on an open context, by the answer of the session. -/
def keyed (length : Nat) :
    EStateM.Result (Stop Fault) (σ × ω) Bytes → EStateM.Result (Stop Error) (Context σ × ω) Bytes
  | .ok digest (session, world) =>
    if digest.length = 32 then .ok (digest.take length) (⟨some session, false⟩, world)
    else .error (fault (.digestLength digest.length)) (⟨some session, false⟩, world)
  | .error (.error f) (session, world) => .error (.error (.trustAnchor f)) (⟨some session, false⟩, world)
  | .error .crash (session, world) => .error .crash (⟨some session, true⟩, world)

theorem after_keyed (length : Nat) (answer : EStateM.Result (Stop Fault) (σ × ω) Bytes) :
    (after (keyed length answer)).2 = (after answer).2 := by
  cases answer with
  | ok digest left =>
    rw [keyed]
    by_cases width : digest.length = 32
    · rw [if_pos width, after_ok, after_ok]
    · rw [if_neg width, after_error, after_ok]
  | error stop left => cases stop <;> rfl

theorem keyed_of_digest {answer : EStateM.Result (Stop Fault) (σ × ω) Bytes} {digest : Bytes}
    (answered : outcome answer = .ok digest) (width : digest.length = 32) (length : Nat) :
    outcome (keyed length answer) = .ok (digest.take length) := by
  cases answer with
  | ok bytes left =>
    cases answered
    rw [keyed, if_pos width, outcome_ok]
  | error stop left => cases answered

theorem deriveKey_open (anchor : Anchor ω σ) {number : UInt8} {value : Bytes} {length : Nat}
    {request : KeyRequest} (checked : KeyRequest.check number value length = .ok request) (session : σ)
    (world : ω) :
    Context.deriveKey anchor number value length (⟨some session, false⟩, world) =
      keyed request.length (anchor.hmac request.slot request.message (session, world)) := by
  rw [deriveKey_of_valid anchor checked, withSession_open]
  cases answered : anchor.hmac request.slot request.message (session, world) with
  | ok digest left =>
    rw [bind_ok answered, keyed]
    by_cases width : digest.length = 32
    · rw [keyOf_eq request width, if_pos width]
      rfl
    · rw [keyOf_of_length_ne request width, if_neg width]
      rfl
  | error stop left =>
    rw [bind_error answered]
    cases stop <;> rfl

/-- A key that is given has the length that was asked for. -/
theorem length_of_deriveKey {anchor : Anchor ω σ} {number : UInt8} {value : Bytes} {length : Nat}
    {state later : Context σ × ω} {key : Bytes}
    (given : Context.deriveKey anchor number value length state = .ok key later) : key.length = length := by
  cases checked : KeyRequest.check number value length with
  | error e => cases (deriveKey_of_invalid anchor checked state).symm.trans given
  | ok request =>
    have made := (deriveKey_of_valid anchor checked state).symm.trans given
    obtain ⟨session, left, -, ran⟩ := ok_of_withSession made
    obtain ⟨digest, answered, -, keyed⟩ := bind_eq_ok_iff.mp ran
    rw [← KeyRequest.length_of_check checked]
    exact length_of_keyOf keyed

/-- The key is the beginning of a full digest. -/
theorem outcome_deriveKey_of_digest (anchor : Anchor ω σ) {slot : Slot} {number : UInt8} {value digest : Bytes}
    {length : Nat} {session : σ} {world : ω} (index : slot.index = number.toNat)
    (width : value.length = 8) (short : length ≤ 32)
    (answered : outcome (anchor.hmac slot value (session, world)) = .ok digest)
    (whole : digest.length = 32) :
    outcome (Context.deriveKey anchor number value length (⟨some session, false⟩, world)) =
      .ok (digest.take length) := by
  obtain ⟨request, checked, same, rfl, rfl⟩ :=
    KeyRequest.check_of_valid width short (Slot.known_of_index index)
  have same : request.slot = slot := Slot.index_injective (same.trans index.symm)
  subst same
  rw [deriveKey_open anchor checked]
  exact keyed_of_digest answered whole request.length

/-! ## The whole operation -/

/-- A request that passes its checks, on any context. -/
theorem deriveKey_passed (inner : Anchor ω σ) {number : UInt8} {value : Bytes} {length : Nat}
    {request : KeyRequest} (checked : KeyRequest.check number value length = .ok request)
    (index : request.slot.index = number.toNat) (state : Context (Recorded.Session σ) × Recorded.World ω) :
    let anchor := Recorded.anchor inner
    let derived := Context.deriveKey anchor number value length state
    if state.1.poisoned then derived = .error (fault .lockPoisoned) state
    else
      match state.1.session with
      | none => derived = .error (fault (.notOpen .deriveKey)) state
      | some session => ∃ slot : Slot, slot.index = number.toNat ∧
          derived = keyed request.length (anchor.hmac slot request.message (session, state.2)) ∧
          (after derived).2.events = state.2.events ++ [.hmac session.number slot request.message] := by
  intro anchor derived
  obtain ⟨⟨held, poisoned⟩, world⟩ := state
  cases poisoned with
  | true => exact (deriveKey_of_valid anchor checked _).trans (withSession_poisoned rfl _ _ world)
  | false =>
    cases held with
    | none => exact (deriveKey_of_valid anchor checked _).trans (withSession_closed _ _ world)
    | some session =>
      have given : derived = keyed request.length (anchor.hmac request.slot request.message (session, world)) :=
        deriveKey_open anchor checked session world
      refine ⟨request.slot, index, given, ?_⟩
      obtain ⟨_, _, recorded⟩ := Recorded.after_call (.hmac · request.slot request.message)
        (inner.hmac request.slot request.message) session world
      rw [given, after_keyed]
      exact congrArg (fun left => left.2.events) recorded

/-- For every slot number, derivation value and length of the key, on every context and over every anchor.
The checks are made in a fixed order, and a request that does not pass one of them changes nothing, so that
the anchor is not called.  A request that passes them all is refused on a poisoned or closed context, and on
an open one it is one call to the session; its key is the beginning of a full digest.  A key that is given
has the length that was asked for, and of two keys from one digest the shorter is a prefix of the longer. -/
theorem deriveKey_end_to_end (inner : Anchor ω σ) (number : UInt8) (value : Bytes) :
    let anchor := Recorded.anchor inner
    let derive := Context.deriveKey anchor number value
    (∀ (length : Nat) (state : Context (Recorded.Session σ) × Recorded.World ω),
      if value.length ≠ 8 then
        derive length state = .error (.error (.derivationValueLength value.length)) state
      else if 32 < length then derive length state = .error (.error (.keyLength length)) state
      else if ¬(number = 0 ∨ number = 1) then derive length state = .error (.error (.keySlot number)) state
      else if state.1.poisoned then derive length state = .error (fault .lockPoisoned) state
      else
        match state.1.session with
        | none => derive length state = .error (fault (.notOpen .deriveKey)) state
        | some session => ∃ slot : Slot, slot.index = number.toNat ∧
            derive length state = keyed length (anchor.hmac slot value (session, state.2)) ∧
            (after (derive length state)).2.events = state.2.events ++ [.hmac session.number slot value]) ∧
    (∀ length state key later, derive length state = .ok key later → key.length = length) ∧
    ∀ (slot : Slot) (first second : Recorded.Session σ × Recorded.World ω) (digest : Bytes) (m n : Nat),
      slot.index = number.toNat → value.length = 8 → m ≤ n → n ≤ 32 →
      outcome (anchor.hmac slot value first) = .ok digest →
      outcome (anchor.hmac slot value second) = .ok digest → digest.length = 32 →
      ∃ short long, outcome (derive m (⟨some first.1, false⟩, first.2)) = .ok short ∧
        outcome (derive n (⟨some second.1, false⟩, second.2)) = .ok long ∧ short <+: long := by
  intro anchor derive
  refine ⟨fun length state => ?_, fun length state key later given => length_of_deriveKey given, ?_⟩
  · by_cases width : value.length = 8
    · rw [if_neg (Decidable.not_not.mpr width)]
      by_cases long : 32 < length
      · rw [if_pos long]
        exact deriveKey_of_invalid anchor (KeyRequest.check_of_length width long) state
      · rw [if_neg long]
        have short : length ≤ 32 := Nat.not_lt.mp long
        by_cases known : number = 0 ∨ number = 1
        · rw [if_neg (Decidable.not_not.mpr known)]
          obtain ⟨request, checked, index, rfl, rfl⟩ := KeyRequest.check_of_valid width short known
          exact deriveKey_passed inner checked index state
        · rw [if_pos known]
          exact deriveKey_of_invalid anchor (KeyRequest.check_of_number width short known) state
    · rw [if_pos width]
      exact deriveKey_of_invalid anchor (KeyRequest.check_of_value width) state
  · intro slot first second digest m n index width le limit answered₁ answered₂ whole
    exact ⟨_, _, outcome_deriveKey_of_digest anchor index width (Nat.le_trans le limit) answered₁ whole,
      outcome_deriveKey_of_digest anchor index width limit answered₂ whole, List.take_prefix_take_left le⟩

/-- Keys of four and of thirty-two bytes from the second slot of a scripted anchor. -/
theorem deriveKey_end_to_end_scripted :
    let anchor := Recorded.anchor (Scripted.anchor .simulator)
    let world : Recorded.World Scripted.Script := .new ⟨[], [], [], [], [], []⟩
    let opened := after (Context.connect anchor (.closed, world))
    let derive := fun length => Context.deriveKey anchor 1 [1, 2, 3, 4, 5, 6, 7, 8] length opened
    ∃ short long, outcome (derive 4) = .ok short ∧ outcome (derive 32) = .ok long ∧ short <+: long ∧
      (after (derive 4)).2.events = opened.2.events ++ [.hmac 0 .second [1, 2, 3, 4, 5, 6, 7, 8]] := by
  intro anchor world opened derive
  obtain ⟨derived, -, prefixes⟩ :=
    deriveKey_end_to_end (Scripted.anchor .simulator) 1 [1, 2, 3, 4, 5, 6, 7, 8]
  obtain ⟨short, long, given, given', shorter⟩ := prefixes .second (⟨(), 0⟩, opened.2) (⟨(), 0⟩, opened.2)
    (Scripted.usualDigest .second [1, 2, 3, 4, 5, 6, 7, 8]) 4 32 rfl rfl (by decide) (by decide) rfl rfl rfl
  obtain ⟨slot, index, -, called⟩ := derived 4 opened
  have same : slot = .second := Slot.index_injective index
  subst same
  exact ⟨short, long, given, given', shorter, called⟩

end Context

end TrustAnchor
