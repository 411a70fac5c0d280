import TrustAnchor.Proofs.Tpm.Session

/-!
Errors that do not say that the session is closed.

Only the holder of a session can know that it has been ended.  The operations report what their own checks
find and what the channel reports; so if the channel does not say it (`Channel.Neutral`), none of them does.
-/

namespace TrustAnchor

open Act Wire

variable {ω σ α : Type}

/-- If the step ended with an error, then not because the session is closed. -/
abbrev Neutral (result : EStateM.Result (Stop Fault) σ α) : Prop := Blames (· ≠ .sessionClosed) result

/-- No failure of the channel says that a session is closed. -/
def Channel.Neutral (channel : Channel ω) : Prop :=
  ∀ command world fault, channel.answer command world = .error fault → fault.cause ≠ .sessionClosed

/-! ## Reading -/

theorem Wire.Decodes.neutral {read : Read α} {layout : α → Bytes → Prop} (decodes : Decodes read layout)
    (reader : Reader) : Neutral (read reader) := by
  refine blames_mono ?_ (decodes.short reader)
  rintro _ ⟨field, needed, left, rfl⟩
  nofun

theorem Wire.Decodes.neutral_within {read : Read α} {layout : α → Bytes → Prop}
    (decodes : Decodes read layout) (data : Bytes) (s : σ) : Neutral (read.within data s) :=
  blames_within decodes.neutral data s

namespace Tpm

theorem ResponseAuth.neutral_readUpTo (n : Nat) (reader : Reader) :
    Neutral (ResponseAuth.readUpTo n reader) := by
  induction n generalizing reader with
  | zero => trivial
  | succ n ih =>
    by_cases empty : reader.rest = []
    · obtain ⟨position, rest⟩ := reader
      cases empty
      rw [ResponseAuth.readUpTo_at_end]
      trivial
    · rw [ResponseAuth.readUpTo_succ empty]
      refine blames_bind (ResponseAuth.decodes_read.neutral reader) fun first later _ => ?_
      exact blames_bind (ih later) fun _ _ _ => trivial

theorem neutral_readDigest (reader : Reader) : Neutral (readDigest reader) := by
  refine blames_bind (Reader.decodes_sized.neutral reader) fun digest later _ => ?_
  refine blames_bind ?_ fun _ _ _ => trivial
  rw [Reader.finish, bind_ok (get_eq later)]
  by_cases more : (!later.isAtEnd) = true
  · rw [if_pos more]
    show Cause.trailing _ ≠ Cause.sessionClosed
    exact Cause.noConfusion
  · rw [if_neg more]
    trivial

namespace Response

theorem neutral_readFrom (received : Bytes) (reader : Reader) : Neutral (readFrom received reader) := by
  refine blames_bind (Reader.decodes_u16.neutral reader) fun raw afterTag _ => ?_
  cases Tag.ofCode? raw with
  | none => exact nofun
  | some tag =>
    refine blames_bind (Reader.decodes_u32.neutral afterTag) fun size afterSize _ => ?_
    by_cases bad : size.toNat < headerLength ∨ received.length < size.toNat
    · rw [if_pos bad]
      exact nofun
    · rw [if_neg bad]
      refine blames_bind (Reader.decodes_u32.neutral afterSize) fun code afterCode _ => ?_
      exact blames_bind (blames_demand _ afterCode) fun _ _ _ => trivial

theorem neutral_parse (received : Bytes) (s : σ) : Neutral (parse received s) := by
  unfold parse
  by_cases short : received.length < headerLength
  · rw [if_pos short]
    exact nofun
  · rw [if_neg short]
    exact blames_within (neutral_readFrom received) received s

theorem neutral_ensureSuccess (response : Response) (s : σ) : Neutral (response.ensureSuccess s) := by
  unfold ensureSuccess
  by_cases good : response.isSuccess = true
  · rw [if_pos good]
    trivial
  · rw [if_neg good]
    exact nofun

theorem neutral_readSessionReply (n : Nat) (reader : Reader) : Neutral (readSessionReply n reader) := by
  refine blames_bind ((Reader.decodes_u32s n).neutral reader) fun handles afterHandles _ => ?_
  refine blames_bind (Reader.decodes_u32.neutral afterHandles) fun size afterSize _ => ?_
  refine blames_bind ((Reader.decodes_bytes _).neutral afterSize) fun parameters afterParameters _ => ?_
  refine blames_bind ?_ fun _ _ _ => trivial
  rw [ResponseAuth.readAll, bind_ok (get_eq afterParameters)]
  exact ResponseAuth.neutral_readUpTo _ afterParameters

theorem neutral_sessionReply (response : Response) (n : Nat) (s : σ) :
    Neutral (response.sessionReply n s) := by
  unfold sessionReply
  by_cases area : response.tag ≠ .sessions
  · rw [if_pos area]
    exact nofun
  · rw [if_neg area]
    exact blames_within (neutral_readSessionReply n) _ s

end Response

/-! ## Commands -/

variable {channel : Channel ω}

theorem neutral_exchange (neutral : channel.Neutral) (command : Bytes) (machine : Machine ω) :
    Neutral (Machine.exchange channel command machine) := by
  cases came : channel.answer command machine.world with
  | ok reply =>
    rw [Machine.exchange_of_ok came]
    trivial
  | error fault =>
    rw [Machine.exchange_of_error came]
    exact neutral command machine.world fault came

theorem neutral_execute (neutral : channel.Neutral) (command : Command) (machine : Machine ω) :
    Neutral (execute channel command machine) := by
  rw [execute_eq]
  exact blames_bind (neutral_exchange neutral _ machine) fun reply later _ =>
    Response.neutral_parse reply later

theorem neutral_perform (neutral : channel.Neutral) (command : Command) (activity : Activity)
    (machine : Machine ω) : Neutral (perform channel command activity machine) :=
  blames_bind (neutral_execute neutral command machine) fun response later _ =>
    blames_bind (blames_during (Response.neutral_ensureSuccess response later)) fun _ _ _ => trivial

theorem neutral_flushContext (neutral : channel.Neutral) (handle : Handle) (machine : Machine ω) :
    Neutral (flushContext channel handle machine) :=
  blames_bind (neutral_perform neutral _ _ machine) fun _ _ _ => trivial

theorem neutral_getRandom (neutral : channel.Neutral) (n : UInt16) (machine : Machine ω) :
    Neutral (getRandom channel n machine) := by
  refine blames_bind (neutral_perform neutral _ _ machine) fun response later _ => ?_
  refine blames_bind (Reader.decodes_sized.neutral_within _ later) fun random last _ => ?_
  by_cases more : n.toNat < random.length
  · rw [if_pos more]
    exact nofun
  · rw [if_neg more]
    trivial

theorem neutral_readPublic (neutral : channel.Neutral) (handle : Handle) (machine : Machine ω) :
    Neutral (readPublic channel handle machine) :=
  blames_bind (neutral_perform neutral _ _ machine) fun _ later _ =>
    blames_bind (decodes_readPublicAnswer.neutral_within _ later) fun _ _ _ => trivial

theorem neutral_createPrimary (neutral : channel.Neutral) (hierarchy : Handle) (template : Template)
    (machine : Machine ω) : Neutral (createPrimary channel hierarchy template machine) := by
  refine blames_bind (neutral_perform neutral _ _ machine) fun response later _ => ?_
  refine blames_bind (Response.neutral_sessionReply response 1 later) fun reply parsed _ => ?_
  refine blames_bind (blames_demand _ parsed) fun handle found _ => ?_
  exact blames_bind (decodes_readPrimaryName.neutral_within _ found) fun _ _ _ => trivial

theorem neutral_selfTest (neutral : channel.Neutral) (full : Bool) (machine : Machine ω) :
    Neutral (selfTest channel full machine) := by
  refine blames_bind (neutral_execute neutral _ machine) fun response later _ => ?_
  by_cases testing : ResponseCode.ofCode response.code = .testing
  · rw [if_pos testing]
    trivial
  · rw [if_neg testing]
    exact blames_during (Response.neutral_ensureSuccess response later)

theorem neutral_getTestResult (neutral : channel.Neutral) (machine : Machine ω) :
    Neutral (getTestResult channel machine) :=
  blames_bind (neutral_perform neutral _ _ machine) fun _ later _ =>
    decodes_readTestResult.neutral_within _ later

theorem neutral_verify (command : CommandCode) (sent : Authorization) (parameters : Bytes)
    (received : ResponseAuth) (session : HmacSession) :
    Neutral (HmacSession.verify command sent parameters received session) := by
  refine blames_bind trivial fun _ later _ => ?_
  by_cases bad : received.hmac ≠ HmacSession.expectedHmac command sent parameters received
  · rw [if_pos bad]
    exact nofun
  · rw [if_neg bad]
    trivial

theorem neutral_hmac (neutral : channel.Neutral) (key : KeyObject) (data : Bytes) (session : HmacSession)
    (machine : Machine ω) : Neutral (hmac channel key data (session, machine)) := by
  cases h : hmacParameters session data with
  | error fault =>
    rw [hmac_of_error h]
    unfold hmacParameters maxBuffer at h
    by_cases long : maxBufferLength < data.length
    · rw [if_pos long] at h
      cases h
      exact nofun
    · rw [if_neg long] at h
      cases h
  | ok parameters =>
    rw [hmac_of_ok h]
    refine blames_bind (blames_onSecond (neutral_perform neutral _ _ _)) fun response later _ => ?_
    refine blames_bind (Response.neutral_sessionReply response 0 later) fun reply parsed _ => ?_
    cases reply.auth.head? with
    | none => exact nofun
    | some received =>
      refine blames_bind (blames_onFirst (neutral_verify _ _ _ received parsed.1)) fun _ last _ => ?_
      exact blames_within neutral_readDigest reply.parameters last

end Tpm
end TrustAnchor
