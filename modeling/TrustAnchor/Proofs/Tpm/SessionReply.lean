import TrustAnchor.Proofs.Tpm.Layout

/-!
The grammar of a reply with an authorization area.

`ReplyForm` relates a reply to its bytes by rules alone: every size stands there as a number of its own, and
a rule asks that it is the right one.  No function that writes a reply is used, so that a size that does not
fit has no form at all.  `sessionReply_exact` says that the reader accepts these forms and nothing else, each
with one meaning.

The entries are read in a loop over bytes that come from outside.  An entry takes five bytes or more, so the
loop ends (`read_advances`), and the number of tries that the reader allows itself never cuts it short
(`readUpTo_eq`).
-/

namespace TrustAnchor

open Act Wire

namespace Wire

/-- A string behind a size that is its length. -/
inductive SizedForm (data : Bytes) : Bytes → Prop
  | intro (size : UInt16) (width : data.length = size.toNat) : SizedForm data (Bytes.ofU16 size ++ data)

theorem sizedForm_iff {data form : Bytes} :
    SizedForm data form ↔ data.length < 65536 ∧ form = Wire.sized data := by
  constructor
  · intro h
    cases h with
    | intro size width =>
      have room := size.toNat_lt
      refine ⟨by omega, ?_⟩
      rw [Wire.sized, width, UInt16.ofNat_toNat]
  · intro h
    obtain ⟨fits, written⟩ := h
    have width : data.length = (UInt16.ofNat data.length).toNat :=
      (UInt16.toNat_ofNat_of_lt' fits).symm
    rw [written]
    exact .intro _ width

end Wire

namespace Tpm

/-! ## The rules -/

inductive EntryForm : ResponseAuth → Bytes → Prop
  | intro {nonceTpm hmac nonceForm hmacForm : Bytes} (attributes : UInt8)
      (nonce : SizedForm nonceTpm nonceForm) (mac : SizedForm hmac hmacForm) :
      EntryForm ⟨nonceTpm, attributes, hmac⟩ (nonceForm ++ [attributes] ++ hmacForm)

inductive AreaForm : List ResponseAuth → Bytes → Prop
  | nil : AreaForm [] []
  | cons {entry : ResponseAuth} {entries : List ResponseAuth} {front back : Bytes}
      (first : EntryForm entry front) (others : AreaForm entries back) :
      AreaForm (entry :: entries) (front ++ back)

/-- `n` handles, the size of the parameters, the parameters, and entries to the very end. -/
inductive ReplyForm (n : Nat) : SessionReply → Bytes → Prop
  | intro {handles : List Handle} {parameters area : Bytes} {auth : List ResponseAuth} (size : UInt32)
      (count : handles.length = n) (width : parameters.length = size.toNat)
      (entries : AreaForm auth area) :
      ReplyForm n ⟨handles, parameters, auth⟩
        (handles.flatMap Bytes.ofU32 ++ Bytes.ofU32 size ++ parameters ++ area)

theorem entryForm_iff {entry : ResponseAuth} {form : Bytes} :
    EntryForm entry form ↔ entry.Fits ∧ form = entry.encode := by
  constructor
  · intro h
    cases h with
    | intro attributes nonce mac =>
      have nonce' := sizedForm_iff.mp nonce
      have mac' := sizedForm_iff.mp mac
      refine ⟨⟨nonce'.1, mac'.1⟩, ?_⟩
      rw [nonce'.2, mac'.2]
      rfl
  · intro h
    obtain ⟨fits, written⟩ := h
    have nonce := sizedForm_iff.mpr ⟨fits.1, rfl⟩
    have mac := sizedForm_iff.mpr ⟨fits.2, rfl⟩
    rw [written]
    exact .intro entry.attributes nonce mac

theorem areaForm_iff {entries : List ResponseAuth} {form : Bytes} :
    AreaForm entries form ↔
      (∀ entry ∈ entries, entry.Fits) ∧ form = entries.flatMap ResponseAuth.encode := by
  induction entries generalizing form with
  | nil =>
    constructor
    · intro h
      cases h
      exact ⟨by simp, rfl⟩
    · intro h
      rw [h.2]
      exact .nil
  | cons entry entries ih =>
    rw [List.forall_mem_cons, List.flatMap_cons]
    constructor
    · intro h
      cases h with
      | cons first others =>
        have first' := entryForm_iff.mp first
        have others' := ih.mp others
        exact ⟨⟨first'.1, others'.1⟩, by rw [first'.2, others'.2]⟩
    · intro h
      obtain ⟨⟨fits, others_fit⟩, written⟩ := h
      rw [written]
      exact .cons (entryForm_iff.mpr ⟨fits, rfl⟩) (ih.mpr ⟨others_fit, rfl⟩)

theorem replyForm_iff {n : Nat} {reply : SessionReply} {form : Bytes} :
    ReplyForm n reply form ↔ reply.handles.length = n ∧ reply.Fits ∧ form = reply.encode := by
  constructor
  · intro h
    cases h with
    | @intro handles parameters area auth size count width entries =>
      have room := size.toNat_lt
      have entries' := areaForm_iff.mp entries
      have size_eq : UInt32.ofNat parameters.length = size := by rw [width, UInt32.ofNat_toNat]
      have fits : parameters.length < 4294967296 := by omega
      refine ⟨count, ⟨fits, entries'.1⟩, ?_⟩
      rw [entries'.2, SessionReply.encode, size_eq]
  · intro h
    obtain ⟨count, fits, written⟩ := h
    have width : reply.parameters.length = (UInt32.ofNat reply.parameters.length).toNat :=
      (UInt32.toNat_ofNat_of_lt' fits.1).symm
    have entries := areaForm_iff.mpr ⟨fits.2, rfl⟩
    rw [written]
    exact .intro _ count width entries

/-! ## The loop over the entries -/

namespace ResponseAuth

theorem five_le_length_encode (entry : ResponseAuth) : 5 ≤ entry.encode.length := by
  simp only [encode, List.length_append, length_sized, List.length_singleton]
  omega

theorem read_advances {reader later : Reader} {entry : ResponseAuth}
    (ran : read reader = .ok entry later) : later.remaining + 5 ≤ reader.remaining := by
  obtain ⟨form, ⟨-, written⟩, split, -⟩ := decodes_read.sound ran
  rw [written] at split
  have whole := (length_split entry split).1
  have wide := five_le_length_encode entry
  omega

/-- A try for every five bytes is enough, and more of them change nothing. -/
theorem readUpTo_eq {n m : Nat} {reader : Reader} (enough : reader.remaining ≤ 5 * n)
    (enough' : reader.remaining ≤ 5 * m) : readUpTo n reader = readUpTo m reader := by
  induction n generalizing m reader with
  | zero =>
    obtain ⟨position, rest⟩ := reader
    have empty : rest = [] := List.length_eq_zero_iff.mp (Nat.le_zero.mp enough)
    rw [empty, readUpTo_at_end, readUpTo_at_end]
  | succ n ih =>
    obtain ⟨position, rest⟩ := reader
    by_cases empty : rest = []
    · rw [empty, readUpTo_at_end, readUpTo_at_end]
    · have left : 0 < rest.length := List.length_pos_iff.mpr empty
      have length_eq : (Reader.mk position rest).remaining = rest.length := rfl
      obtain ⟨m, rfl⟩ : ∃ k, m = k + 1 := ⟨m - 1, by omega⟩
      rw [readUpTo_succ empty, readUpTo_succ empty]
      cases ran : read ⟨position, rest⟩ with
      | error stop later => rw [bind_error ran, bind_error ran]
      | ok first later =>
        have shorter := read_advances ran
        have same : readUpTo n later = readUpTo m later := ih (by omega) (by omega)
        rw [bind_ok ran, bind_ok ran]
        simp only [bind, EStateM.bind, same]

/-- `readAll` is the loop: at the end it stops, and else it reads one entry and goes on. -/
theorem readAll_eq (reader : Reader) :
    readAll reader =
      if reader.isAtEnd then .ok [] reader
      else (do
        let first ← read
        let others ← readAll
        return first :: others : Read (List ResponseAuth)) reader := by
  show readUpTo reader.remaining reader = _
  by_cases done : reader.isAtEnd = true
  · obtain ⟨position, rest⟩ := reader
    have empty : rest = [] := List.isEmpty_iff.mp done
    rw [if_pos done, empty, readUpTo_at_end]
  · have more : reader.rest ≠ [] := fun empty => done (List.isEmpty_iff.mpr empty)
    have left : 0 < reader.remaining := List.length_pos_iff.mpr more
    obtain ⟨n, count⟩ : ∃ n, reader.remaining = n + 1 := ⟨reader.remaining - 1, by omega⟩
    rw [if_neg done, count, readUpTo_succ more]
    cases ran : read reader with
    | error stop later => rw [bind_error ran, bind_error ran]
    | ok first later =>
      have shorter := read_advances ran
      have same : readUpTo n later = readAll later :=
        readUpTo_eq (by omega : later.remaining ≤ 5 * n) (by omega : later.remaining ≤ 5 * later.remaining)
      rw [bind_ok ran, bind_ok ran]
      simp only [bind, EStateM.bind, same]

end ResponseAuth

/-! ## What is accepted -/

theorem ReplyForm.unique {n : Nat} {first second : SessionReply} {data : Bytes}
    (h : ReplyForm n first data) (h' : ReplyForm n second data) : first = second := by
  let response : Response := ⟨.sessions, 0, data⟩
  have read : response.sessionReply n () = .ok first () :=
    Response.sessionReply_ok_iff.mpr ⟨rfl, rfl, replyForm_iff.mp h⟩
  have read' : response.sessionReply n () = .ok second () :=
    Response.sessionReply_ok_iff.mpr ⟨rfl, rfl, replyForm_iff.mp h'⟩
  rw [read] at read'
  injection read'

/-- A response is taken apart as a reply with `n` handles if and only if it has the tag for sessions and its
data is a form of that reply; any other response is an error.  The parts are there in number, written again
they are the data, and no other parts are.  The loop over the entries ends on every input: each entry that it
reads takes five bytes or more, and a fifth of the bytes is all the tries that it can need. -/
theorem sessionReply_exact {σ : Type} (response : Response) (n : Nat) (s : σ) :
    (∀ reply t, response.sessionReply n s = .ok reply t ↔
      t = s ∧ response.tag = .sessions ∧ ReplyForm n reply response.data) ∧
    ((¬ ∃ reply, response.tag = .sessions ∧ ReplyForm n reply response.data) →
      ∃ fault, response.sessionReply n s = .error (.error fault) s) ∧
    (∀ reply, ReplyForm n reply response.data →
      reply.handles.length = n ∧ reply.encode = response.data ∧
        ∀ other, ReplyForm n other response.data → other = reply) ∧
    (∀ reader entry later, ResponseAuth.read reader = .ok entry later →
      later.remaining + 5 ≤ reader.remaining) ∧
    (∀ reader, ResponseAuth.readAll reader =
      if reader.isAtEnd then .ok [] reader
      else (do
        let first ← ResponseAuth.read
        let others ← ResponseAuth.readAll
        return first :: others : Read (List ResponseAuth)) reader) ∧
    ∀ tries reader, reader.remaining ≤ 5 * tries →
      ResponseAuth.readUpTo tries reader = ResponseAuth.readAll reader := by
  have accepts : ∀ reply t, response.sessionReply n s = .ok reply t ↔
      t = s ∧ response.tag = .sessions ∧ ReplyForm n reply response.data := by
    intro reply t
    rw [Response.sessionReply_ok_iff, replyForm_iff]
  refine ⟨accepts, ?_, ?_, ?_, ResponseAuth.readAll_eq, ?_⟩
  · intro formless
    refine reports_of_not_ok (response.still_sessionReply n) (response.returned_sessionReply n s) ?_
    intro reply t ran
    exact formless ⟨reply, ((accepts reply t).mp ran).2⟩
  · intro reply form
    obtain ⟨count, -, written⟩ := replyForm_iff.mp form
    exact ⟨count, written.symm, fun other form' => form'.unique form⟩
  · intro reader entry later ran
    exact ResponseAuth.read_advances ran
  · intro tries reader enough
    exact ResponseAuth.readUpTo_eq enough (by omega)

/-- A key and its only entry are found in their bytes, and without the last byte nothing is. -/
theorem sessionReply_exact_split :
    let reply : SessionReply := ⟨[0x80000001], [0, 2, 0xab, 0xcd], [⟨[], 1, []⟩]⟩
    let data : Bytes := [0x80, 0, 0, 1, 0, 0, 0, 4, 0, 2, 0xab, 0xcd, 0, 0, 1, 0, 0]
    let response : Response := ⟨.sessions, 0, data⟩
    let cut : Response := ⟨.sessions, 0, data.dropLast⟩
    ReplyForm 1 reply data ∧ response.sessionReply 1 () = .ok reply () ∧
      (∀ other, ReplyForm 1 other data → other = reply) ∧
        (¬ ∃ other, ReplyForm 1 other cut.data) ∧
          ∃ fault, cut.sessionReply 1 () = .error (.error fault) () := by
  intro reply data response cut
  have read : response.sessionReply 1 () = .ok reply () := rfl
  have missing : cut.sessionReply 1 () = .error (.error (Fault.of (.underflow .u16 2 1))) () := rfl
  have form : ReplyForm 1 reply data := (((sessionReply_exact response 1 ()).1 reply ()).mp read).2.2
  have formless : ¬ ∃ other, ReplyForm 1 other cut.data := by
    intro h
    obtain ⟨other, form'⟩ := h
    have read' := ((sessionReply_exact cut 1 ()).1 other ()).mpr ⟨rfl, rfl, form'⟩
    rw [missing] at read'
    cases read'
  have unique := ((sessionReply_exact response 1 ()).2.2.1 reply form).2.2
  refine ⟨form, read, unique, formless, (sessionReply_exact cut 1 ()).2.1 ?_⟩
  intro h
  obtain ⟨other, -, form'⟩ := h
  exact formless ⟨other, form'⟩

end Tpm
end TrustAnchor
