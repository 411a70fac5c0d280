import TrustAnchor.Tpm.Operations
import TrustAnchor.Proofs.Wire.Layout

/-!
The written forms of commands and responses.

`sealed_eq` says that sealing a command always succeeds and what it gives.  `parse_ok_iff` and
`sessionReply_ok_iff` are the grammars of a response and of the data in one with an authorization area: what
is read is what is written there, and nothing else is accepted.  No read of a response crashes.
-/

namespace TrustAnchor
namespace Tpm

open Act Wire

/-! ## Commands -/

namespace Command

/-- A command as it is sent. -/
def bytes (command : Command) : Bytes :=
  Bytes.ofU16 command.tag.code ++
    Bytes.ofU32 (UInt32.ofNat (headerLength + (encodeAll command.items).length)) ++
    Bytes.ofU32 command.code.code ++ encodeAll command.items

theorem length_draft (command : Command) :
    command.draft.length = headerLength + (encodeAll command.items).length := by
  unfold draft
  simp only [List.length_append, Bytes.length_ofU16, Bytes.length_ofU32, headerLength]

theorem sealed_eq {σ : Type} (command : Command) (s : σ) : command.sealed s = .ok command.bytes s := by
  have room : sizeOffset + (Bytes.ofU32 (UInt32.ofNat command.draft.length)).length ≤
      command.draft.length := by
    rw [length_draft, Bytes.length_ofU32, sizeOffset, headerLength]
    omega
  unfold sealed
  simp only [Bytes.overwrite?, if_pos room, demand_some]
  rw [length_draft]
  rfl

/-- The code that stands in the header of sent bytes. -/
def codeOf (sent : Bytes) : UInt32 := Bytes.toU32 ((sent.drop 6).take 4)

theorem codeOf_bytes (command : Command) : codeOf command.bytes = command.code.code :=
  Bytes.toU32_ofU32 command.code.code

theorem codeOf_bytes_eq_iff {command : Command} {code : CommandCode} :
    codeOf command.bytes = code.code ↔ command.code = code := by
  rw [codeOf_bytes]
  exact ⟨fun same => CommandCode.code_injective same, congrArg CommandCode.code⟩

theorem codeOf_ne {command : Command} {code : CommandCode} (other : command.code ≠ code) :
    codeOf command.bytes ≠ code.code :=
  mt codeOf_bytes_eq_iff.mp other

theorem code_eq_of_bytes_eq {first second : Command} (h : first.bytes = second.bytes) :
    first.code = second.code := by
  apply CommandCode.code_injective
  rw [← codeOf_bytes, ← codeOf_bytes, h]

end Command

/-! ## Entries of authorization areas -/

namespace ResponseAuth

/-- Both strings fit behind their sizes. -/
def Fits (entry : ResponseAuth) : Prop := entry.nonceTpm.length < 65536 ∧ entry.hmac.length < 65536

theorem decodes_read : Decodes read fun entry form => entry.Fits ∧ form = entry.encode := by
  refine (Reader.decodes_sized.bind fun nonceTpm => Reader.decodes_u8.bind fun attributes =>
    Reader.decodes_sized.bind fun hmac => Decodes.pure (ResponseAuth.mk nonceTpm attributes hmac)).congr ?_
  intro entry form
  constructor
  · rintro ⟨⟨nonce_fits, hmac_fits⟩, rfl⟩
    refine ⟨_, _, _, ⟨nonce_fits, rfl⟩, ⟨_, _, _, rfl, ⟨_, _, _, ⟨hmac_fits, rfl⟩, ⟨rfl, rfl⟩, rfl⟩,
      rfl⟩, ?_⟩
    rw [encode, List.append_nil, List.append_assoc]
  · rintro ⟨_, _, _, ⟨nonce_fits, rfl⟩, ⟨_, _, _, rfl, ⟨_, _, _, ⟨hmac_fits, rfl⟩, ⟨rfl, rfl⟩, rfl⟩,
      rfl⟩, rfl⟩
    refine ⟨⟨nonce_fits, hmac_fits⟩, ?_⟩
    rw [encode, List.append_nil, List.append_assoc]

theorem encode_ne_nil (entry : ResponseAuth) : entry.encode ≠ [] := by
  intro empty
  have length := congrArg List.length empty
  simp [encode] at length

theorem eq_nil_of_flatMap_encode {entries : List ResponseAuth} (h : entries.flatMap encode = []) :
    entries = [] := by
  cases entries with
  | nil => rfl
  | cons entry others =>
    rw [List.flatMap_cons, List.append_eq_nil_iff] at h
    exact absurd h.1 entry.encode_ne_nil

theorem readUpTo_at_end (n position : Nat) :
    readUpTo n ⟨position, []⟩ = .ok [] ⟨position, []⟩ := by
  cases n <;> rfl

theorem readUpTo_succ {n : Nat} {reader : Reader} (more : reader.rest ≠ []) :
    readUpTo (n + 1) reader = (do
      let first ← read
      let others ← readUpTo n
      return first :: others : Read (List ResponseAuth)) reader := by
  have going : ¬ reader.isAtEnd = true := by
    simpa [Reader.isAtEnd] using more
  rw [readUpTo, bind_ok (get_eq reader), if_neg going]

theorem at_end_iff (n position : Nat) {entries : List ResponseAuth} {later : Reader} :
    readUpTo n ⟨position, []⟩ = .ok entries later ↔
      (∀ entry ∈ entries, entry.Fits) ∧ [] = entries.flatMap encode ∧ later = ⟨position + 0, []⟩ := by
  rw [readUpTo_at_end]
  constructor
  · intro run
    cases run
    exact ⟨by simp, rfl, rfl⟩
  · rintro ⟨-, empty, rfl⟩
    rw [eq_nil_of_flatMap_encode empty.symm, Nat.add_zero]

theorem length_split {reader later : Reader} (entry : ResponseAuth)
    (split : reader.rest = entry.encode ++ later.rest) :
    entry.encode.length + later.remaining = reader.remaining ∧ later.remaining < reader.remaining := by
  have positive := List.length_pos_iff.mpr entry.encode_ne_nil
  have whole : reader.remaining = entry.encode.length + later.remaining := by
    rw [Reader.remaining, split, List.length_append]
    rfl
  omega

theorem readUpTo_ok_iff {n : Nat} {reader later : Reader} {entries : List ResponseAuth}
    (enough : reader.remaining ≤ n) :
    readUpTo n reader = .ok entries later ↔
      (∀ entry ∈ entries, entry.Fits) ∧ reader.rest = entries.flatMap encode ∧
        later = ⟨reader.position + reader.remaining, []⟩ := by
  induction n generalizing reader entries later with
  | zero =>
    obtain ⟨position, rest⟩ := reader
    have empty : rest = [] := List.length_eq_zero_iff.mp (Nat.le_zero.mp enough)
    subst empty
    exact at_end_iff 0 position
  | succ n ih =>
    obtain ⟨position, rest⟩ := reader
    by_cases empty : rest = []
    · subst empty
      exact at_end_iff (n + 1) position
    · rw [readUpTo_succ empty, bind_eq_ok_iff]
      constructor
      · rintro ⟨first, between, run₁, run₂⟩
        obtain ⟨others, later', run₃, run₄⟩ := bind_eq_ok_iff.mp run₂
        cases run₄
        obtain ⟨_, ⟨fits, rfl⟩, split, moved⟩ := decodes_read.sound run₁
        -- an entry has at least one byte, so one try fewer is enough for the others
        have shorter := length_split first split
        obtain ⟨others_fit, others_split, rfl⟩ := (ih (by omega)).mp run₃
        refine ⟨List.forall_mem_cons.mpr ⟨fits, others_fit⟩, ?_, ?_⟩
        · rw [List.flatMap_cons, ← others_split]
          exact split
        · rw [moved, Nat.add_assoc, shorter.1]
      · rintro ⟨fit, split, rfl⟩
        cases entries with
        | nil => exact absurd split empty
        | cons first others =>
          rw [List.flatMap_cons] at split
          obtain ⟨fits, others_fit⟩ := List.forall_mem_cons.mp fit
          let between : Reader := ⟨position + first.encode.length, others.flatMap encode⟩
          have shorter : _ ∧ between.remaining < _ := length_split first split
          have front : rest = first.encode ++ between.rest := split
          have run₁ : read ⟨position, rest⟩ = .ok first between := by
            rw [front]
            exact decodes_read.complete ⟨fits, rfl⟩ between.rest position
          have run₂ : readUpTo n between = .ok others ⟨between.position + between.remaining, []⟩ :=
            (ih (by omega)).mpr ⟨others_fit, rfl, rfl⟩
          refine ⟨first, between, run₁, ?_⟩
          rw [bind_ok run₂, ← shorter.1, ← Nat.add_assoc]
          rfl

theorem returned_readUpTo (n : Nat) (reader : Reader) : Returned (readUpTo n reader) := by
  induction n generalizing reader with
  | zero => trivial
  | succ n ih =>
    by_cases empty : reader.rest = []
    · obtain ⟨position, rest⟩ := reader
      subst empty
      trivial
    · rw [readUpTo_succ empty]
      refine returned_bind (decodes_read.returned reader) fun first between _ => ?_
      exact returned_bind (ih between) fun _ _ _ => trivial

theorem readAll_ok_iff {reader later : Reader} {entries : List ResponseAuth} :
    readAll reader = .ok entries later ↔
      (∀ entry ∈ entries, entry.Fits) ∧ reader.rest = entries.flatMap encode ∧
        later = ⟨reader.position + reader.remaining, []⟩ :=
  readUpTo_ok_iff (Nat.le_refl reader.remaining)

theorem returned_readAll (reader : Reader) : Returned (readAll reader) :=
  returned_readUpTo reader.remaining reader

end ResponseAuth

/-! ## Responses -/

/-- The data of a response with an authorization area. -/
def SessionReply.encode (reply : SessionReply) : Bytes :=
  reply.handles.flatMap Bytes.ofU32 ++ Bytes.ofU32 (UInt32.ofNat reply.parameters.length) ++
    reply.parameters ++ reply.auth.flatMap ResponseAuth.encode

/-- The parameters fit behind their size, and the strings in the entries behind theirs. -/
def SessionReply.Fits (reply : SessionReply) : Prop :=
  reply.parameters.length < 4294967296 ∧ ∀ entry ∈ reply.auth, entry.Fits

namespace Response

/-- A response as it is received, without padding. -/
def bytes (response : Response) : Bytes :=
  Bytes.ofU16 response.tag.code ++ Bytes.ofU32 (UInt32.ofNat (headerLength + response.data.length)) ++
    Bytes.ofU32 response.code ++ response.data

theorem length_bytes (response : Response) :
    response.bytes.length = headerLength + response.data.length := by
  unfold bytes
  simp only [List.length_append, Bytes.length_ofU16, Bytes.length_ofU32, headerLength]

theorem slice?_data {header data padding : Bytes} (width : header.length = headerLength) {size : Nat}
    (size_eq : size = headerLength + data.length) :
    Bytes.slice? headerLength size (header ++ data ++ padding) = some data := by
  have bounds : headerLength ≤ size ∧ size ≤ (header ++ data ++ padding).length := by
    rw [List.length_append, List.length_append]
    omega
  unfold Bytes.slice?
  rw [if_pos bounds, List.append_assoc, List.drop_left' width]
  congr 1
  rw [size_eq, Nat.add_sub_cancel_left, List.take_left]

theorem readFrom_sound {received : Bytes} {response : Response} {later : Reader}
    (run : readFrom received (Reader.ofBytes received) = .ok response later) :
    headerLength + response.data.length < 4294967296 ∧
      ∃ padding, received = response.bytes ++ padding := by
  obtain ⟨raw, afterTag, run₁, run⟩ := bind_eq_ok_iff.mp run
  obtain ⟨_, rfl, split₁, -⟩ := Reader.decodes_u16.sound run₁
  cases known : Tag.ofCode? raw with
  | none =>
    rw [known] at run
    cases run
  | some tag =>
    rw [known] at run
    obtain ⟨size, afterSize, run₂, run⟩ := bind_eq_ok_iff.mp run
    obtain ⟨_, rfl, split₂, -⟩ := Reader.decodes_u32.sound run₂
    by_cases bad : size.toNat < headerLength ∨ received.length < size.toNat
    · rw [if_pos bad] at run
      cases run
    · rw [if_neg bad] at run
      obtain ⟨code, afterCode, run₃, run⟩ := bind_eq_ok_iff.mp run
      obtain ⟨_, rfl, split₃, -⟩ := Reader.decodes_u32.sound run₃
      -- from here on the reader does not matter: the data is cut out of `received` itself
      generalize afterCode.rest = rest at split₃
      have whole : received = Bytes.ofU16 raw ++ Bytes.ofU32 size ++ Bytes.ofU32 code ++ rest := by
        rw [split₂, split₃] at split₁
        simpa [Reader.ofBytes] using split₁
      have total : received.length = headerLength + rest.length := by
        rw [whole]
        simp only [List.length_append, Bytes.length_ofU16, Bytes.length_ofU32, headerLength]
      obtain ⟨n, size_split⟩ : ∃ n, size.toNat = headerLength + n :=
        ⟨size.toNat - headerLength, by omega⟩
      have width : (rest.take n).length = n := by
        rw [List.length_take]
        omega
      have cut : Bytes.slice? headerLength size.toNat received = some (rest.take n) := by
        have split : received = Bytes.ofU16 raw ++ Bytes.ofU32 size ++ Bytes.ofU32 code ++
            rest.take n ++ rest.drop n := by
          rw [whole, List.append_assoc _ (rest.take n), List.take_append_drop]
        rw [split]
        exact slice?_data rfl (by omega)
      rw [cut, bind_ok (demand_some _ _)] at run
      cases run
      have size_eq : UInt32.ofNat (headerLength + (rest.take n).length) = size := by
        rw [width, ← size_split, UInt32.ofNat_toNat]
      refine ⟨?_, rest.drop n, ?_⟩
      · show headerLength + (rest.take n).length < 4294967296
        have := size.toNat_lt
        omega
      · rw [bytes, Tag.code_of_ofCode? known, size_eq, List.append_assoc, List.take_append_drop]
        exact whole

theorem readFrom_complete {response : Response}
    (fits : headerLength + response.data.length < 4294967296) (padding : Bytes) :
    ∃ later, readFrom (response.bytes ++ padding) (Reader.ofBytes (response.bytes ++ padding)) =
      .ok response later := by
  have size : (UInt32.ofNat (headerLength + response.data.length)).toNat =
      headerLength + response.data.length := UInt32.toNat_ofNat_of_lt' fits
  have sound : ¬ ((UInt32.ofNat (headerLength + response.data.length)).toNat < headerLength ∨
      (response.bytes ++ padding).length <
        (UInt32.ofNat (headerLength + response.data.length)).toNat) := by
    rw [size, List.length_append, length_bytes]
    omega
  have cut : Bytes.slice? headerLength
      (UInt32.ofNat (headerLength + response.data.length)).toNat (response.bytes ++ padding) =
        some response.data := by
    rw [bytes]
    exact slice?_data rfl size
  have start : Reader.ofBytes (response.bytes ++ padding) = ⟨0, Bytes.ofU16 response.tag.code ++
      (Bytes.ofU32 (UInt32.ofNat (headerLength + response.data.length)) ++
        (Bytes.ofU32 response.code ++ (response.data ++ padding)))⟩ := by
    simp [Reader.ofBytes, bytes]
  rw [readFrom, start, bind_ok (Reader.decodes_u16.complete rfl _ _)]
  simp only [Tag.ofCode?_code]
  rw [bind_ok (Reader.decodes_u32.complete rfl _ _), if_neg sound,
    bind_ok (Reader.decodes_u32.complete rfl _ _), cut]
  exact ⟨_, rfl⟩

theorem returned_readFrom (received : Bytes) (reader : Reader) : Returned (readFrom received reader) := by
  refine returned_bind (Reader.decodes_u16.returned reader) fun raw afterTag _ => ?_
  cases Tag.ofCode? raw with
  | none => trivial
  | some tag =>
    refine returned_bind (Reader.decodes_u32.returned afterTag) fun size afterSize _ => ?_
    by_cases bad : size.toNat < headerLength ∨ received.length < size.toNat
    · rw [if_pos bad]
      trivial
    · rw [if_neg bad]
      refine returned_bind (Reader.decodes_u32.returned afterSize) fun code afterCode _ => ?_
      have bounds : headerLength ≤ size.toNat ∧ size.toNat ≤ received.length := by omega
      rw [Bytes.slice?, if_pos bounds]
      trivial

/-- Received bytes are a response if and only if they begin with its written form. -/
theorem parse_ok_iff {σ : Type} {received : Bytes} {response : Response} {s t : σ} :
    parse received s = .ok response t ↔ t = s ∧ headerLength + response.data.length < 4294967296 ∧
      ∃ padding, received = response.bytes ++ padding := by
  unfold parse
  by_cases short : received.length < headerLength
  · rw [if_pos short]
    constructor
    · intro run
      cases run
    · rintro ⟨-, -, padding, rfl⟩
      rw [List.length_append, length_bytes] at short
      omega
  · rw [if_neg short]
    unfold Read.within
    constructor
    · intro run
      cases ran : readFrom received (Reader.ofBytes received) with
      | ok read later =>
        rw [ran] at run
        cases run
        exact ⟨rfl, readFrom_sound ran⟩
      | error e later =>
        rw [ran] at run
        cases run
    · rintro ⟨rfl, fits, padding, rfl⟩
      obtain ⟨later, ran⟩ := readFrom_complete fits padding
      simp only [ran]

theorem still_parse {σ : Type} (received : Bytes) : Still (parse received : Act Fault σ Response) := by
  unfold parse
  by_cases short : received.length < headerLength
  · rw [if_pos short]
    exact still_fail _
  · rw [if_neg short]
    exact still_within _ received

theorem returned_parse {σ : Type} (received : Bytes) (s : σ) : Returned (parse received s) := by
  unfold parse
  by_cases short : received.length < headerLength
  · rw [if_pos short]
    trivial
  · rw [if_neg short]
    exact returned_within (returned_readFrom received) received s

/-! ## Handles, parameters and authorization area -/

theorem readSessionReply_ok_iff {n : Nat} {reader later : Reader} {reply : SessionReply} :
    readSessionReply n reader = .ok reply later ↔ reply.handles.length = n ∧ reply.Fits ∧
      reader.rest = reply.encode ∧ later = ⟨reader.position + reader.remaining, []⟩ := by
  constructor
  · intro run
    obtain ⟨handles, afterHandles, run₁, run⟩ := bind_eq_ok_iff.mp run
    obtain ⟨size, afterSize, run₂, run⟩ := bind_eq_ok_iff.mp run
    obtain ⟨_, afterParameters, run₃, run⟩ := bind_eq_ok_iff.mp run
    obtain ⟨auth, atEnd, run₄, run₅⟩ := bind_eq_ok_iff.mp run
    cases run₅
    obtain ⟨_, ⟨count, rfl⟩, split₁, moved₁⟩ := (Reader.decodes_u32s n).sound run₁
    obtain ⟨_, rfl, split₂, moved₂⟩ := Reader.decodes_u32.sound run₂
    obtain ⟨parameters, ⟨width, rfl⟩, split₃, moved₃⟩ := (Reader.decodes_bytes size.toNat).sound run₃
    obtain ⟨entries_fit, split₄, rfl⟩ := ResponseAuth.readAll_ok_iff.mp run₄
    have size_eq : UInt32.ofNat parameters.length = size := by rw [width, UInt32.ofNat_toNat]
    have room := size.toNat_lt
    have whole : reader.rest = handles.flatMap Bytes.ofU32 ++ Bytes.ofU32 size ++ parameters ++
        afterParameters.rest := by
      rw [split₁, split₂, split₃, List.append_assoc, List.append_assoc]
    refine ⟨count, ⟨?_, entries_fit⟩, ?_, ?_⟩
    · show parameters.length < 4294967296
      omega
    · rw [whole, split₄, SessionReply.encode, size_eq]
    · have bytes_left : reader.remaining = (handles.flatMap Bytes.ofU32).length + 4 +
          parameters.length + afterParameters.remaining := by
        rw [Reader.remaining, whole]
        simp only [List.length_append, Bytes.length_ofU32, Reader.remaining]
      rw [Bytes.length_ofU32] at moved₂
      congr 1
      omega
  · obtain ⟨position, rest⟩ := reader
    obtain ⟨handles, parameters, auth⟩ := reply
    rintro ⟨count, ⟨parameters_fit, entries_fit⟩, whole, rfl⟩
    have size : (UInt32.ofNat parameters.length).toNat = parameters.length :=
      UInt32.toNat_ofNat_of_lt' parameters_fit
    have front : rest = handles.flatMap Bytes.ofU32 ++ (Bytes.ofU32 (UInt32.ofNat parameters.length) ++
        (parameters ++ auth.flatMap ResponseAuth.encode)) := by
      rw [← List.append_assoc, ← List.append_assoc]
      exact whole
    rw [readSessionReply, front, bind_ok ((Reader.decodes_u32s n).complete ⟨count, rfl⟩ _ _),
      bind_ok (Reader.decodes_u32.complete rfl _ _), size,
      bind_ok ((Reader.decodes_bytes _).complete ⟨rfl, rfl⟩ _ _),
      bind_ok (ResponseAuth.readAll_ok_iff.mpr ⟨entries_fit, rfl, rfl⟩)]
    simp only [Reader.remaining, List.length_append, Nat.add_assoc]
    rfl

theorem returned_readSessionReply (n : Nat) (reader : Reader) : Returned (readSessionReply n reader) := by
  refine returned_bind ((Reader.decodes_u32s n).returned reader) fun handles afterHandles _ => ?_
  refine returned_bind (Reader.decodes_u32.returned afterHandles) fun size afterSize _ => ?_
  refine returned_bind ((Reader.decodes_bytes _).returned afterSize) fun parameters afterParameters _ => ?_
  exact returned_bind (ResponseAuth.returned_readAll afterParameters) fun _ _ _ => trivial

theorem sessionReply_ok_iff {σ : Type} {response : Response} {n : Nat} {reply : SessionReply} {s t : σ} :
    response.sessionReply n s = .ok reply t ↔ t = s ∧ response.tag = .sessions ∧
      reply.handles.length = n ∧ reply.Fits ∧ response.data = reply.encode := by
  unfold sessionReply
  by_cases area : response.tag ≠ .sessions
  · rw [if_pos area]
    constructor
    · intro run
      cases run
    · rintro ⟨-, tag, -⟩
      exact absurd tag area
  · rw [if_neg area]
    have tag : response.tag = .sessions := Decidable.not_not.mp area
    unfold Read.within
    constructor
    · intro run
      cases ran : readSessionReply n (Reader.ofBytes response.data) with
      | ok read later =>
        rw [ran] at run
        cases run
        obtain ⟨count, fits, whole, -⟩ := readSessionReply_ok_iff.mp ran
        exact ⟨rfl, tag, count, fits, whole⟩
      | error e later =>
        rw [ran] at run
        cases run
    · rintro ⟨rfl, -, count, fits, whole⟩
      have ran : readSessionReply n (Reader.ofBytes response.data) = .ok reply _ :=
        readSessionReply_ok_iff.mpr ⟨count, fits, whole, rfl⟩
      simp only [ran]

theorem still_sessionReply {σ : Type} (response : Response) (n : Nat) :
    Still (response.sessionReply n : Act Fault σ SessionReply) := by
  unfold sessionReply
  by_cases area : response.tag ≠ .sessions
  · rw [if_pos area]
    exact still_fail _
  · rw [if_neg area]
    exact still_within _ _

theorem returned_sessionReply {σ : Type} (response : Response) (n : Nat) (s : σ) :
    Returned (response.sessionReply n s) := by
  unfold sessionReply
  by_cases area : response.tag ≠ .sessions
  · rw [if_pos area]
    trivial
  · rw [if_neg area]
    exact returned_within (returned_readSessionReply n) _ s

end Response

/-! ## Answers of the single commands -/

theorem HmacSession.decodes_readStarted : Decodes readStarted fun started form =>
    started.2.length < 65536 ∧ form = Bytes.ofU32 started.1 ++ Wire.sized started.2 := by
  refine (Reader.decodes_u32.bind fun handle => Reader.decodes_sized.bind fun nonceTpm =>
    Decodes.pure (handle, nonceTpm)).congr ?_
  rintro ⟨handle, nonceTpm⟩ form
  constructor
  · rintro ⟨fits, rfl⟩
    exact ⟨_, _, _, rfl, ⟨_, _, _, ⟨fits, rfl⟩, ⟨rfl, rfl⟩, rfl⟩, by rw [List.append_nil]⟩
  · rintro ⟨_, _, _, rfl, ⟨_, _, _, ⟨fits, rfl⟩, ⟨pair, rfl⟩, rfl⟩, rfl⟩
    cases pair
    exact ⟨fits, by rw [List.append_nil]⟩

theorem decodes_readPublicAnswer : Decodes readPublicAnswer fun answer form =>
    answer.1.length < 65536 ∧ answer.2.length < 65536 ∧ ∃ qualified : Bytes, qualified.length < 65536 ∧
      form = Wire.sized answer.1 ++ (Wire.sized answer.2 ++ Wire.sized qualified) := by
  refine (Reader.decodes_sized.bind fun publicArea => Reader.decodes_sized.bind fun name =>
    Reader.decodes_sized.bind fun _ => Decodes.pure (publicArea, name)).congr ?_
  rintro ⟨publicArea, name⟩ form
  constructor
  · rintro ⟨area_fits, name_fits, qualified, qualified_fits, rfl⟩
    exact ⟨_, _, _, ⟨area_fits, rfl⟩, ⟨_, _, _, ⟨name_fits, rfl⟩, ⟨qualified, _, _, ⟨qualified_fits, rfl⟩,
      ⟨rfl, rfl⟩, rfl⟩, rfl⟩, by rw [List.append_nil]⟩
  · rintro ⟨_, _, _, ⟨area_fits, rfl⟩, ⟨_, _, _, ⟨name_fits, rfl⟩, ⟨qualified, _, _, ⟨qualified_fits, rfl⟩,
      ⟨pair, rfl⟩, rfl⟩, rfl⟩, rfl⟩
    cases pair
    exact ⟨area_fits, name_fits, qualified, qualified_fits, by rw [List.append_nil]⟩

theorem decodes_readTestResult : Decodes readTestResult fun answer form =>
    answer.1.length < 65536 ∧ form = Wire.sized answer.1 ++ Bytes.ofU32 answer.2 := by
  refine (Reader.decodes_sized.bind fun data => Reader.decodes_u32.bind fun code =>
    Decodes.pure (data, code)).congr ?_
  rintro ⟨data, code⟩ form
  constructor
  · rintro ⟨fits, rfl⟩
    exact ⟨_, _, _, ⟨fits, rfl⟩, ⟨_, _, _, rfl, ⟨rfl, rfl⟩, rfl⟩, by rw [List.append_nil]⟩
  · rintro ⟨_, _, _, ⟨fits, rfl⟩, ⟨_, _, _, rfl, ⟨pair, rfl⟩, rfl⟩, rfl⟩
    cases pair
    exact ⟨fits, by rw [List.append_nil]⟩

def CreationTicket.encode (ticket : CreationTicket) : Bytes :=
  Bytes.ofU16 ticket.tag ++ Bytes.ofU32 ticket.hierarchy ++ Wire.sized ticket.digest

theorem CreationTicket.decodes_read : Decodes CreationTicket.read fun ticket form =>
    ticket.digest.length < 65536 ∧ form = ticket.encode := by
  refine (Reader.decodes_u16.bind fun tag => Reader.decodes_u32.bind fun hierarchy =>
    Reader.decodes_sized.bind fun digest => Decodes.pure (CreationTicket.mk tag hierarchy digest)).congr ?_
  intro ticket form
  constructor
  · rintro ⟨fits, rfl⟩
    refine ⟨_, _, _, rfl, ⟨_, _, _, rfl, ⟨_, _, _, ⟨fits, rfl⟩, ⟨rfl, rfl⟩, rfl⟩, rfl⟩, ?_⟩
    rw [encode, List.append_nil, List.append_assoc]
  · rintro ⟨_, _, _, rfl, ⟨_, _, _, rfl, ⟨_, _, _, ⟨fits, rfl⟩, ⟨rfl, rfl⟩, rfl⟩, rfl⟩, rfl⟩
    refine ⟨fits, ?_⟩
    rw [encode, List.append_nil, List.append_assoc]

/-- The parameters of a CreatePrimary response. -/
structure PrimaryAnswer where
  publicArea : Bytes
  creationData : Bytes
  creationHash : Bytes
  ticket : CreationTicket
  name : Bytes

namespace PrimaryAnswer

def encode (answer : PrimaryAnswer) : Bytes :=
  Wire.sized answer.publicArea ++ (Wire.sized answer.creationData ++
    (Wire.sized answer.creationHash ++ (answer.ticket.encode ++ Wire.sized answer.name)))

/-- Every string fits behind its size. -/
structure Fits (answer : PrimaryAnswer) : Prop where
  publicArea : answer.publicArea.length < 65536
  creationData : answer.creationData.length < 65536
  creationHash : answer.creationHash.length < 65536
  digest : answer.ticket.digest.length < 65536
  name : answer.name.length < 65536

end PrimaryAnswer

theorem decodes_readPrimaryName : Decodes readPrimaryName fun name form =>
    ∃ answer : PrimaryAnswer, answer.Fits ∧ answer.name = name ∧ form = answer.encode := by
  refine (Reader.decodes_sized.bind fun _ => Reader.decodes_sized.bind fun _ =>
    Reader.decodes_sized.bind fun _ => CreationTicket.decodes_read.bind fun _ =>
      Reader.decodes_sized).congr ?_
  intro name form
  constructor
  · rintro ⟨answer, ⟨area, data, hash, digest, name_fits⟩, rfl, rfl⟩
    exact ⟨_, _, _, ⟨area, rfl⟩, ⟨_, _, _, ⟨data, rfl⟩, ⟨_, _, _, ⟨hash, rfl⟩,
      ⟨_, _, _, ⟨digest, rfl⟩, ⟨name_fits, rfl⟩, rfl⟩, rfl⟩, rfl⟩, rfl⟩
  · rintro ⟨publicArea, _, _, ⟨area, rfl⟩, ⟨creationData, _, _, ⟨data, rfl⟩, ⟨creationHash, _, _,
      ⟨hash, rfl⟩, ⟨ticket, _, _, ⟨digest, rfl⟩, ⟨name_fits, rfl⟩, rfl⟩, rfl⟩, rfl⟩, rfl⟩
    exact ⟨⟨publicArea, creationData, creationHash, ticket, name⟩, ⟨area, data, hash, digest, name_fits⟩,
      rfl, rfl⟩

theorem returned_readDigest (reader : Reader) : Returned (readDigest reader) := by
  refine returned_bind (Reader.decodes_sized.returned reader) fun digest later _ => ?_
  refine returned_bind ?_ fun _ _ _ => trivial
  rw [Reader.finish, bind_ok (get_eq later)]
  by_cases more : (!later.isAtEnd) = true
  · rw [if_pos more]
    trivial
  · rw [if_neg more]
    trivial

end Tpm
end TrustAnchor
