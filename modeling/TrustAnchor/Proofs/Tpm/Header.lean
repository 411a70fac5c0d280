import TrustAnchor.Proofs.Tpm.Layout

/-!
The header of a response.

The size in a header comes from outside and is held against the number of bytes that have arrived.  Parsing
is described here by the positions of the fields in the received bytes, without a reader: `parse_of_framed`
says what is read, and `Refusal` for which reasons nothing is.  `parse_exact` is the main result.  It also says
that the bytes behind the size have no part in what is read, and that a response that is cut off anywhere is
refused.
-/

namespace TrustAnchor

open Act Wire

namespace Wire.Reader

theorem u16_of_le {reader : Reader} (enough : 2 ≤ reader.remaining) :
    u16 reader = .ok (Bytes.toU16 (reader.rest.take 2)) ⟨reader.position + 2, reader.rest.drop 2⟩ :=
  bind_ok (take_of_le enough)

theorem u32_of_le {reader : Reader} (enough : 4 ≤ reader.remaining) :
    u32 reader = .ok (Bytes.toU32 (reader.rest.take 4)) ⟨reader.position + 4, reader.rest.drop 4⟩ :=
  bind_ok (take_of_le enough)

end Wire.Reader

namespace Tpm

theorem Tag.known_iff {code : UInt16} :
    (∃ tag, Tag.ofCode? code = some tag) ↔ code = 0x8001 ∨ code = 0x8002 ∨ code = 0x00C4 := by
  constructor
  · intro h
    rcases h with ⟨tag, known⟩
    rw [← Tag.code_of_ofCode? known]
    cases tag with
    | noSessions => exact .inl rfl
    | sessions => exact .inr (.inl rfl)
    | rspCommand => exact .inr (.inr rfl)
  · intro h
    rcases h with h | h | h
    · exact ⟨.noSessions, by rw [h]; rfl⟩
    · exact ⟨.sessions, by rw [h]; rfl⟩
    · exact ⟨.rspCommand, by rw [h]; rfl⟩

namespace Response

/-! ## The fields -/

def tagField (received : Bytes) : UInt16 := Bytes.toU16 (received.take 2)

def sizeField (received : Bytes) : Nat := (Bytes.toU32 ((received.drop 2).take 4)).toNat

def codeField (received : Bytes) : UInt32 := Bytes.toU32 ((received.drop 6).take 4)

/-- The bytes from the end of the header up to the size. -/
def dataField (received : Bytes) : Bytes := (received.take (sizeField received)).drop headerLength

/-- Received bytes begin with a response: the header is there, its tag is known, and its size lies between the
end of the header and the end of the bytes. -/
structure Framed (received : Bytes) : Prop where
  header : headerLength ≤ received.length
  tag : tagField received = 0x8001 ∨ tagField received = 0x8002 ∨ tagField received = 0x00C4
  least : headerLength ≤ sizeField received
  most : sizeField received ≤ received.length

theorem Framed.known {received : Bytes} (framed : Framed received) :
    ∃ tag, Tag.ofCode? (tagField received) = some tag := Tag.known_iff.mpr framed.tag

/-- Why received bytes are refused.  The length is looked at first, then the tag, then the size. -/
inductive Refusal (received : Bytes) : Cause → Prop
  | short (few : received.length < headerLength) : Refusal received (.shortResponse received.length)
  | unknownTag (header : headerLength ≤ received.length)
      (unknown : Tag.ofCode? (tagField received) = none) :
      Refusal received (.unknownTag (tagField received))
  | sizeMismatch {tag : Tag} (header : headerLength ≤ received.length)
      (known : Tag.ofCode? (tagField received) = some tag)
      (wrong : sizeField received < headerLength ∨ received.length < sizeField received) :
      Refusal received (.sizeMismatch (sizeField received) received.length)

/-- What stands in a header is not changed by what stands behind it. -/
theorem fields_append {received : Bytes} (header : headerLength ≤ received.length) (more : Bytes) :
    tagField (received ++ more) = tagField received ∧ sizeField (received ++ more) = sizeField received ∧
      codeField (received ++ more) = codeField received := by
  have ten : 10 ≤ received.length := header
  refine ⟨?_, ?_, ?_⟩
  · rw [tagField, tagField, List.take_append_of_le_length (by omega)]
  · rw [sizeField, sizeField, List.drop_append_of_le_length (by omega),
      List.take_append_of_le_length (by rw [List.length_drop]; omega)]
  · rw [codeField, codeField, List.drop_append_of_le_length (by omega),
      List.take_append_of_le_length (by rw [List.length_drop]; omega)]

theorem fields_take {received : Bytes} {n : Nat} (header : headerLength ≤ (received.take n).length) :
    tagField (received.take n) = tagField received ∧ sizeField (received.take n) = sizeField received ∧
      codeField (received.take n) = codeField received := by
  have same := fields_append header (received.drop n)
  rw [List.take_append_drop] at same
  exact ⟨same.1.symm, same.2.1.symm, same.2.2.symm⟩

theorem Framed.append {received : Bytes} (framed : Framed received) (more : Bytes) :
    Framed (received ++ more) := by
  have same := fields_append framed.header more
  have longer : received.length ≤ (received ++ more).length := by
    rw [List.length_append]
    omega
  refine ⟨Nat.le_trans framed.header longer, ?_, ?_, ?_⟩
  · rw [same.1]
    exact framed.tag
  · rw [same.2.1]
    exact framed.least
  · rw [same.2.1]
    exact Nat.le_trans framed.most longer

theorem dataField_append {received : Bytes} (framed : Framed received) (more : Bytes) :
    dataField (received ++ more) = dataField received := by
  rw [dataField, dataField, (fields_append framed.header more).2.1,
    List.take_append_of_le_length framed.most]

/-! ## Parsing -/

/-- The reader gets to the size of every header that has a known tag. -/
theorem readFrom_eq {received : Bytes} {tag : Tag} (header : headerLength ≤ received.length)
    (known : Tag.ofCode? (tagField received) = some tag) :
    readFrom received (Reader.ofBytes received) =
      (if sizeField received < headerLength ∨ received.length < sizeField received then
        Act.fail (Fault.of (.sizeMismatch (sizeField received) received.length))
      else do
        let code ← Reader.u32
        let data ← Act.demand (Bytes.slice? headerLength (sizeField received) received)
        return { tag, code, data } : Read Response) ⟨6, received.drop 6⟩ := by
  have ten : 10 ≤ received.length := header
  have left : 4 ≤ (Reader.mk 2 (received.drop 2)).remaining := by
    show 4 ≤ (received.drop 2).length
    rw [List.length_drop]
    omega
  have read_tag : Reader.u16 (Reader.ofBytes received) =
      .ok (tagField received) ⟨2, received.drop 2⟩ :=
    Reader.u16_of_le (show 2 ≤ received.length by omega)
  rw [readFrom, bind_ok read_tag]
  simp only [known]
  rw [bind_ok (Reader.u32_of_le left), List.drop_drop]
  rfl

theorem parse_of_short {σ : Type} {received : Bytes} (few : received.length < headerLength) (s : σ) :
    parse received s = .error (.error (Fault.of (.shortResponse received.length))) s := by
  rw [parse, if_pos few]
  rfl

theorem parse_of_unknown {σ : Type} {received : Bytes} (header : headerLength ≤ received.length)
    (unknown : Tag.ofCode? (tagField received) = none) (s : σ) :
    parse received s = .error (.error (Fault.of (.unknownTag (tagField received)))) s := by
  have read_tag : Reader.u16 (Reader.ofBytes received) =
      .ok (tagField received) ⟨2, received.drop 2⟩ :=
    Reader.u16_of_le (Nat.le_trans (by decide) header)
  have ran : readFrom received (Reader.ofBytes received) =
      .error (.error (Fault.of (.unknownTag (tagField received)))) ⟨2, received.drop 2⟩ := by
    rw [readFrom, bind_ok read_tag]
    simp only [unknown]
    rfl
  rw [parse, if_neg (Nat.not_lt.mpr header)]
  simp only [Read.within, ran]

theorem parse_of_mismatch {σ : Type} {received : Bytes} {tag : Tag}
    (header : headerLength ≤ received.length) (known : Tag.ofCode? (tagField received) = some tag)
    (wrong : sizeField received < headerLength ∨ received.length < sizeField received) (s : σ) :
    parse received s =
      .error (.error (Fault.of (.sizeMismatch (sizeField received) received.length))) s := by
  have ran := readFrom_eq header known
  rw [if_pos wrong] at ran
  rw [parse, if_neg (Nat.not_lt.mpr header)]
  simp only [Read.within, ran]
  rfl

theorem parse_of_refusal {σ : Type} {received : Bytes} {cause : Cause} (refusal : Refusal received cause)
    (s : σ) : parse received s = .error (.error (Fault.of cause)) s := by
  cases refusal with
  | short few => exact parse_of_short few s
  | unknownTag header unknown => exact parse_of_unknown header unknown s
  | sizeMismatch header known wrong => exact parse_of_mismatch header known wrong s

theorem parse_of_framed {σ : Type} {received : Bytes} {tag : Tag} (framed : Framed received)
    (known : Tag.ofCode? (tagField received) = some tag) (s : σ) :
    parse received s = .ok ⟨tag, codeField received, dataField received⟩ s := by
  have header := framed.header
  have ten : 10 ≤ received.length := header
  have sound : ¬ (sizeField received < headerLength ∨ received.length < sizeField received) := by
    have least := framed.least
    have most := framed.most
    omega
  have left : 4 ≤ (Reader.mk 6 (received.drop 6)).remaining := by
    show 4 ≤ (received.drop 6).length
    rw [List.length_drop]
    omega
  have cut : Bytes.slice? headerLength (sizeField received) received = some (dataField received) := by
    rw [Bytes.slice?, if_pos ⟨framed.least, framed.most⟩, dataField, List.drop_take]
  have ran := readFrom_eq header known
  rw [if_neg sound, bind_ok (Reader.u32_of_le left), cut] at ran
  rw [parse, if_neg (Nat.not_lt.mpr header)]
  simp only [Read.within, ran]
  rfl

/-- Received bytes are a response, or there is a reason why they are refused. -/
theorem framed_or_refusal (received : Bytes) :
    Framed received ∨ ∃ cause, Refusal received cause := by
  by_cases header : headerLength ≤ received.length
  · cases known : Tag.ofCode? (tagField received) with
    | none => exact .inr ⟨_, .unknownTag header known⟩
    | some tag =>
      by_cases wrong : sizeField received < headerLength ∨ received.length < sizeField received
      · exact .inr ⟨_, .sizeMismatch header known wrong⟩
      · have bounds : headerLength ≤ sizeField received ∧ sizeField received ≤ received.length := by omega
        exact .inl ⟨header, Tag.known_iff.mp ⟨tag, known⟩, bounds.1, bounds.2⟩
  · exact .inr ⟨_, .short (Nat.not_le.mp header)⟩

theorem Refusal.not_framed {received : Bytes} {cause : Cause} (refusal : Refusal received cause) :
    ¬ Framed received := by
  intro framed
  cases refusal with
  | short few => exact Nat.not_le.mpr few framed.header
  | unknownTag header unknown =>
    rcases framed.known with ⟨tag, known⟩
    rw [unknown] at known
    cases known
  | sizeMismatch header known wrong =>
    have least := framed.least
    have most := framed.most
    omega

theorem parse_ok_iff_fields {σ : Type} {received : Bytes} {response : Response} {s t : σ} :
    parse received s = .ok response t ↔ t = s ∧ Framed received ∧ response.tag.code = tagField received ∧
      response.code = codeField received ∧ response.data = dataField received := by
  constructor
  · intro ended
    rcases framed_or_refusal received with framed | ⟨cause, refusal⟩
    · rcases framed.known with ⟨tag, known⟩
      rw [parse_of_framed framed known] at ended
      cases ended
      exact ⟨rfl, framed, Tag.code_of_ofCode? known, rfl, rfl⟩
    · rw [parse_of_refusal refusal] at ended
      cases ended
  · intro h
    obtain ⟨rfl, framed, tag_eq, code_eq, data_eq⟩ := h
    have known : Tag.ofCode? (tagField received) = some response.tag := by
      rw [← tag_eq]
      exact Tag.ofCode?_code response.tag
    rw [parse_of_framed framed known, ← code_eq, ← data_eq]

/-- A response that is cut off before its size is refused: in its header, or for its size. -/
theorem refusal_of_cut {received : Bytes} (framed : Framed received) {n : Nat}
    (cut : n < sizeField received) : ∃ cause, Refusal (received.take n) cause := by
  have width : (received.take n).length = n :=
    List.length_take_of_le (Nat.le_trans (Nat.le_of_lt cut) framed.most)
  by_cases header : headerLength ≤ (received.take n).length
  · have same := fields_take header
    rcases framed.known with ⟨tag, known⟩
    rw [← same.1] at known
    refine ⟨_, .sizeMismatch header known (.inr ?_)⟩
    rw [same.2.1, width]
    exact cut
  · exact ⟨_, .short (Nat.not_le.mp header)⟩

theorem parse_append {σ : Type} {received : Bytes} {response : Response} {s t : σ}
    (parsed : parse received s = .ok response t) (more : Bytes) :
    parse (received ++ more) s = .ok response t := by
  rcases parse_ok_iff_fields.mp parsed with ⟨state, framed, tag_eq, code_eq, data_eq⟩
  have same := fields_append framed.header more
  rw [parse_ok_iff_fields, same.1, same.2.2, dataField_append framed]
  exact ⟨state, framed.append more, tag_eq, code_eq, data_eq⟩

/-- A response is read from received bytes if and only if they begin with one, and then its parts stand where
the fields are.  All other bytes are refused, for a reason that is one of three.  Whatever is put behind a
response, the same one is read, and of a response that is cut off nothing is. -/
theorem parse_exact {σ : Type} (received : Bytes) (s : σ) :
    (∀ response t, parse received s = .ok response t ↔
      t = s ∧ Framed received ∧ response.tag.code = tagField received ∧
        response.code = codeField received ∧ response.data = dataField received) ∧
    (Framed received ∧ (∃ response, parse received s = .ok response s) ∨
      ¬ Framed received ∧ ∃ cause, Refusal received cause ∧
        parse received s = .error (.error (Fault.of cause)) s) ∧
    ∀ response t, parse received s = .ok response t →
      (∀ more, parse (received ++ more) s = .ok response t) ∧
        ∀ n, n < sizeField received → ∃ cause, Refusal (received.take n) cause ∧
          parse (received.take n) s = .error (.error (Fault.of cause)) s := by
  refine ⟨fun response t => parse_ok_iff_fields, ?_, ?_⟩
  · rcases framed_or_refusal received with framed | ⟨cause, refusal⟩
    · rcases framed.known with ⟨tag, known⟩
      exact .inl ⟨framed, _, parse_of_framed framed known s⟩
    · exact .inr ⟨refusal.not_framed, cause, refusal, parse_of_refusal refusal s⟩
  · intro response t parsed
    refine ⟨fun more => parse_append parsed more, fun n cut => ?_⟩
    have framed := (parse_ok_iff_fields.mp parsed).2.1
    rcases refusal_of_cut framed cut with ⟨cause, refusal⟩
    exact ⟨cause, refusal, parse_of_refusal refusal s⟩

/-- A response of two bytes of data with one byte behind it, with more behind that, and without its last byte. -/
theorem parse_exact_padded :
    let received : Bytes := [0x80, 0x01, 0, 0, 0, 12, 0, 0, 0x09, 0x0a, 0xaa, 0xbb, 0xcc]
    let response : Response := ⟨.noSessions, 0x90a, [0xaa, 0xbb]⟩
    Framed received ∧ parse received () = .ok response () ∧
      parse (received ++ [0xdd]) () = .ok response () ∧
        ∃ cause, Refusal (received.take 11) cause ∧
          parse (received.take 11) () = .error (.error (Fault.of cause)) () := by
  intro received response
  have parsed : parse received () = .ok response () := rfl
  have exact := parse_exact received ()
  have alone := exact.2.2 response () parsed
  exact ⟨((exact.1 response ()).mp parsed).2.1, parsed, alone.1 [0xdd], alone.2 11 (by decide)⟩

end Response
end Tpm
end TrustAnchor
