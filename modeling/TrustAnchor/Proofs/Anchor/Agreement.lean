import TrustAnchor.Anchor.Simulator
import TrustAnchor.Memory
import TrustAnchor.Proofs.Anchor.Connection
import TrustAnchor.Proofs.Context.Keys
import TrustAnchor.Proofs.Tpm.Provisioned

/-!
A TPM with the simulator's master keys gives the simulator's keys.

The device speaks a protocol for what the simulator computes at once, and the two are compared through what
both of them realize: HMACs under the master keys.  For the simulator there is nothing to it.  For the device
the connection and the TPM have to stay `Linked`: the same session and the same nonce on both sides, and no
name in the connection but the TPM's own.
-/

namespace TrustAnchor

open Act

variable {ω : Type} {keys : Slot → Bytes} {ready : ω → Prop}

namespace TpmDevice

open Tpm

/-- From every world that is ready, dialling leads to a TPM with these keys. -/
def Reaches (dial : Option String → EStateM Fault ω (Channel ω)) (settings : TpmDevice)
    (keys : Slot → Bytes) (ready : ω → Prop) : Prop :=
  ∀ world, ready world → ∃ channel later holds, dial settings.path world = .ok channel later ∧
    ready later ∧ Provisioned channel settings.keyHandles keys ready holds

namespace Connection

/-- Connection and TPM agree on the session, on the nonce and on the names of the keys. -/
def Linked (keys : Slot → Bytes) (ready : ω → Prop) (state : Connection ω × Machine ω) : Prop :=
  ∃ holds held, Provisioned state.1.channel state.1.keyHandles keys ready holds ∧
    holds held state.2.world ∧ state.1.session = some held.client ∧
      ∀ slot key, state.1.keys.get slot = some key →
        key = ⟨state.1.keyHandles.get slot, held.names (state.1.keyHandles.get slot)⟩

theorem linked_start {channel : Channel ω} {keyHandles : PerSlot Handle} {holds : Held → ω → Prop}
    (tpm : Provisioned channel keyHandles keys ready holds) (machine : Machine ω)
    (idle : ready machine.world) :
    ∃ connection later, start channel keyHandles machine = .ok connection later ∧
      Linked keys ready (connection, later) := by
  obtain ⟨held, later, started, holding⟩ := tpm.start_ok idle
  refine ⟨_, later, start_of_ok keyHandles started, holds, held, tpm, holding, rfl, ?_⟩
  intro slot key known
  rw [PerSlot.get_both] at known
  cases known

/-- The name of a slot's key is found, whether or not it has been asked for before. -/
theorem slotKey_linked {connection : Connection ω} {machine : Machine ω} {holds : Held → ω → Prop}
    {held : Held} (tpm : Provisioned connection.channel connection.keyHandles keys ready holds)
    (holding : holds held machine.world)
    (known : ∀ slot key, connection.keys.get slot = some key →
      key = ⟨connection.keyHandles.get slot, held.names (connection.keyHandles.get slot)⟩) (slot : Slot) :
    let key : KeyObject := ⟨connection.keyHandles.get slot, held.names (connection.keyHandles.get slot)⟩
    ∃ names later, slotKey slot (connection, machine) = .ok key ({ connection with keys := names }, later) ∧
      holds held later.world ∧ ∀ slot key, names.get slot = some key →
        key = ⟨connection.keyHandles.get slot, held.names (connection.keyHandles.get slot)⟩ := by
  intro key
  cases found : connection.keys.get slot with
  | some cached =>
    refine ⟨connection.keys, machine, ?_, holding, known⟩
    rw [slotKey_of_known found, known slot cached found]
  | none =>
    obtain ⟨publicArea, later, read, still_holding⟩ := tpm.readPublic_ok holding slot
    refine ⟨_, later, slotKey_of_ok found read, still_holding, fun other entry seen => ?_⟩
    by_cases this : other = slot
    · subst this
      rw [PerSlot.get_set_self] at seen
      exact (Option.some.inj seen).symm
    · rw [PerSlot.get_set_of_ne _ this] at seen
      exact known other entry seen

/-- A linked connection gives the HMAC under the slot's key, and stays linked. -/
theorem hmac_linked {state : Connection ω × Machine ω} (linked : Linked keys ready state) (slot : Slot)
    {message : Bytes} (fits : message.length ≤ maxBufferLength) :
    ∃ later, Connection.hmac slot message state = .ok (Hmac.sha256 (keys slot) message) later ∧
      Linked keys ready later := by
  obtain ⟨connection, machine⟩ := state
  obtain ⟨holds, held, tpm, holding, shared, known⟩ := linked
  obtain ⟨names, later, found, still_holding, known'⟩ := slotKey_linked tpm holding known slot
  obtain ⟨newer, last, digested, at_last⟩ := tpm.hmac_ok still_holding slot fits
  refine ⟨({ connection with session := some ({ held with nonce := newer } : Held).client, keys := names },
    last), ?_, holds, { held with nonce := newer }, tpm, at_last, rfl, known'⟩
  rw [Connection.hmac, bind_ok found, hmacWith_eq]
  have shared : connection.session = some held.client := shared
  simp only [onSession, shared, digested]

/-- Closing a linked connection succeeds and leaves the TPM ready for the next one. -/
theorem close_linked {connection : Connection ω} {machine : Machine ω}
    (linked : Linked keys ready (connection, machine)) :
    ∃ later, close connection machine = .ok () later ∧ ready later.world := by
  obtain ⟨holds, held, tpm, holding, shared, -⟩ := linked
  obtain ⟨later, flushed, idle⟩ := tpm.flush_ok holding
  refine ⟨later, ?_, idle⟩
  have shared : connection.session = some held.client := shared
  have ran : (held.client.flush connection.channel).attempt machine = .ok (.ok ()) later := by
    have flushed : held.client.flush connection.channel machine = .ok () later := flushed
    simp only [attempt, flushed]
  rw [close]
  simp only [shared]
  rw [bind_ok ran]
  rfl

end Connection

theorem realizes_anchor {dial : Option String → EStateM Fault ω (Channel ω)} {settings : TpmDevice}
    (unsalted : settings.saltHandle = none) (reaches : Reaches dial settings keys ready) (reserve : Allocator) :
    Context.Realizes (anchor reserve dial settings) (fun slot => Hmac.sha256 (keys slot))
      (fun machine => ready machine.world) (Connection.Linked keys ready) where
  width _ _ := Hmac.length_sha256 _ _
  connect machine idle := by
    obtain ⟨channel, world, holds, dialled, still_idle, tpm⟩ := reaches machine.world idle
    obtain ⟨connection, later, started, linked⟩ :=
      Connection.linked_start tpm { machine with world } still_idle
    have connects : connect dial settings machine =
        Connection.start channel settings.keyHandles { machine with world } :=
      @connect_eq _ _ _ _ { machine with world } _ unsalted dialled
    exact ⟨connection, later, connects.trans started, linked⟩
  hmac state slot message linked length := by
    refine Connection.hmac_linked linked slot ?_
    rw [length]
    decide
  close connection machine linked := Connection.close_linked linked

end TpmDevice

theorem Simulator.realizes_anchor (host : Host ω) (settings : Simulator) :
    Context.Realizes (anchor host settings) (fun slot => Hmac.sha256 (masterKey slot))
      (fun _ => True) (fun _ => True) where
  width _ _ := Hmac.length_sha256 _ _
  connect machine _ := ⟨_, machine, rfl, trivial⟩
  hmac state _ _ _ _ := ⟨state, rfl, trivial⟩
  close _ machine _ := ⟨machine, rfl, trivial⟩

namespace Context

variable {ω' : Type}

/-- With a TPM that holds the simulator's master keys at the end of every channel, the device and the
simulator give the same answer to every call of every run, the keys and the errors alike; and it is the
answer that is expected of HMACs under these keys. -/
theorem backends_agree {dial : Option String → EStateM Fault ω (Channel ω)} {settings : TpmDevice}
    (unsalted : settings.saltHandle = none)
    (reaches : settings.Reaches dial Simulator.masterKey ready) {machine : Machine ω}
    (idle : ready machine.world) (reserve : Allocator) (host : Host ω') (simulator : Simulator)
    (machine' : Machine ω') (calls : List KeyCall) :
    let device := outcomes (KeyCall.perform (TpmDevice.anchor reserve dial settings)) calls (.closed, machine)
    let simulated := outcomes (KeyCall.perform (Simulator.anchor host simulator)) calls (.closed, machine')
    device = simulated ∧
      device = expected (fun slot => Hmac.sha256 (Simulator.masterKey slot)) calls false := by
  intro device simulated
  have told : device = _ :=
    outcomes_of_realizes (TpmDevice.realizes_anchor unsalted reaches reserve) calls (.closed idle)
  have told' : simulated = _ :=
    outcomes_of_realizes (Simulator.realizes_anchor host simulator) calls (.closed trivial)
  exact ⟨told.trans told'.symm, told⟩

/-- A host without files. -/
def bareHost : Host Unit where
  present _ _ := false
  openFile _ := throw .notFound
  write _ _ := throw .notFound
  read _ _ := throw .notFound
  contents _ _ := .error (.opening .notFound)
  reserve := Memory.reserve
  readJson? := Json.parse?

/-- The settings of a device whose keys are those of the vault. -/
def vaultSettings : TpmDevice := ⟨none, Tpm.Vault.keyHandles, none⟩

/-- A run with calls on a closed context, a slot that does not exist, and a second session. -/
theorem backends_agree_vault :
    let dial : Option String → EStateM Fault Bytes (Channel Bytes) :=
      fun _ => pure (Tpm.Vault.channel Simulator.masterKey)
    let calls : List KeyCall := [.deriveKey 0 [1, 2, 3, 4, 5, 6, 7, 8] 16, .connect,
      .deriveKey 0 [1, 2, 3, 4, 5, 6, 7, 8] 16, .deriveKey 1 [1, 2, 3, 4, 5, 6, 7, 8] 32, .deriveKey 2 [] 0,
      .connect, .close, .close, .connect, .deriveKey 1 [8, 7, 6, 5, 4, 3, 2, 1] 32]
    vaultSettings.saltHandle = none ∧ vaultSettings.keyHandles.first ≠ vaultSettings.keyHandles.second ∧
      vaultSettings.Reaches dial Simulator.masterKey (fun _ => True) ∧
        outcomes (KeyCall.perform (TpmDevice.anchor bareHost.reserve dial vaultSettings)) calls
            (.closed, Machine.new [] (Entropy.ofBytes [])) =
          outcomes (KeyCall.perform (Simulator.anchor bareHost ⟨"machine-id"⟩)) calls
            (.closed, Machine.new () (Entropy.ofBytes [])) := by
  intro dial calls
  have reaches : vaultSettings.Reaches dial Simulator.masterKey (fun _ => True) := fun nonce _ =>
    ⟨_, nonce, _, rfl, trivial, Tpm.Vault.provisioned⟩
  exact ⟨rfl, by decide, reaches, (backends_agree rfl reaches trivial bareHost.reserve bareHost ⟨"machine-id"⟩
    (Machine.new () (Entropy.ofBytes [])) calls).1⟩

end Context
end TrustAnchor
