import TrustAnchor.Anchor.Simulator
import TrustAnchor.Proofs.Context.Derivation
import TrustAnchor.Proofs.Context.Failure
import TrustAnchor.Proofs.Uuid

/-!
From the file with the machine id to the text of an identifier.

The digits are cut off the front of a text by the number of their bytes, read in pairs, stamped with a version and
a variant, and written again.  What comes out is described here on the digits alone: `MachineId.Readable` says which
contents of the file give an identifier at all, and `Uuid.Spelled` how its text comes from their first 32
digits.  `identifier_of_machine_id` puts the two together for an open context, for every content.
-/

namespace TrustAnchor

open Act

variable {ω σ : Type}

namespace MachineId

/-! ## Reading -/

/-- A text that begins with 32 hexadecimal digits.  Whatever follows them is not looked at. -/
structure Readable (content : Bytes) : Prop where
  text : ∃ text : String, content = Utf8.encode text
  enough : 32 ≤ content.length
  digits : ∀ b ∈ content.take 32, Hex.IsDigit b

/-- No character straddles the end of the digits. -/
theorem leading?_of_readable {content : Bytes} (readable : Readable content) :
    leading? digitCount content = some (content.take 32) := by
  rcases readable.text with ⟨text, same⟩
  rw [← String.ofList_toList (s := text), Utf8.encode_ofList] at same
  have split : text.toList.flatMap String.utf8EncodeChar = content.take 32 ++ content.drop 32 := by
    rw [List.take_append_drop]
    exact same.symm
  have ascii : ∀ b ∈ content.take 32, b.toNat < 128 := by
    intro b member
    have digit := readable.digits b member
    unfold Hex.IsDigit at digit
    omega
  have starts := Utf8.starts_behind_ascii ascii split
  show (if content.length < 32 then none
    else if (content.drop 32).head?.any Utf8.isContinuation then none
    else some (content.take 32)) = _
  rw [if_neg (Nat.not_lt.mpr readable.enough), starts]
  rfl

theorem take_of_leading? {content digits : Bytes} (cut : leading? digitCount content = some digits) :
    32 ≤ content.length ∧ digits = content.take 32 := by
  have cut : (if content.length < 32 then none
    else if (content.drop 32).head?.any Utf8.isContinuation then none
    else some (content.take 32)) = some digits := cut
  by_cases short : content.length < 32
  · rw [if_pos short] at cut
    cases cut
  · rw [if_neg short] at cut
    by_cases inside : (content.drop 32).head?.any Utf8.isContinuation = true
    · rw [if_pos inside] at cut
      cases cut
    · rw [if_neg inside] at cut
      cases cut
      exact ⟨Nat.not_lt.mp short, rfl⟩

/-- The pairs of 32 digits are as many bytes as an identity has. -/
theorem vector_of_decode {digits bytes : Bytes} (width : digits.length = 32)
    (read : Hex.decode digits = .ok bytes) :
    digits.map Hex.lower = Hex.encode bytes ∧
      ∃ raw : RawIdentity, Bytes.toVector? uuidLength bytes = some raw ∧ raw.toList = bytes := by
  have pairs : digits.length % 2 = 0 := by rw [width]
  have same := (Hex.decode_ok_iff pairs).mp read
  have count := congrArg List.length same
  rw [List.length_map, width, Hex.length_encode] at count
  exact ⟨same, Bytes.toVector?_of_length (by rw [uuidLength]; omega)⟩

theorem parse_of_readable {content : Bytes} (readable : Readable content) (s : σ) :
    ∃ raw, parse content s = .ok raw s ∧
      (content.take 32).map Hex.lower = Hex.encode raw.toList := by
  have width : (content.take 32).length = 32 := List.length_take_of_le readable.enough
  rcases (Hex.decode_reads_iff (by rw [width])).mpr readable.digits with ⟨bytes, read⟩
  rcases vector_of_decode width read with ⟨same, raw, made, bytes_eq⟩
  refine ⟨raw, ?_, ?_⟩
  · unfold parse
    simp only [leading?_of_readable readable, read, made]
    rfl
  · rw [same, bytes_eq]

/-- Either the digits are there and are read, or an error is reported.  Nothing crashes: what is read from 32
digits fills an identity. -/
theorem parse_cases (content : Bytes) (s : σ) :
    (32 ≤ content.length ∧ (∀ b ∈ content.take 32, Hex.IsDigit b) ∧ ∃ raw, parse content s = .ok raw s) ∨
      ∃ fault, parse content s = .error (.error fault) s := by
  unfold parse
  cases cut : leading? digitCount content with
  | none => exact .inr ⟨_, rfl⟩
  | some digits =>
    rcases take_of_leading? cut with ⟨enough, digits_eq⟩
    have width : digits.length = 32 := by
      rw [digits_eq]
      exact List.length_take_of_le enough
    dsimp only
    cases read : Hex.decode digits with
    | error bad => exact .inr ⟨_, rfl⟩
    | ok bytes =>
      have all_digits := (Hex.decode_reads_iff (by rw [width])).mp ⟨bytes, read⟩
      rw [digits_eq] at all_digits
      rcases vector_of_decode width read with ⟨-, raw, made, -⟩
      refine .inl ⟨enough, all_digits, raw, ?_⟩
      simp only [made]
      rfl

theorem readable_of_parse {text : String} {content : Bytes} (written : content = Utf8.encode text)
    {raw : RawIdentity} {s t : σ} (ran : parse content s = .ok raw t) : Readable content := by
  rcases parse_cases content s with ⟨enough, digits, -⟩ | ⟨fault, refused⟩
  · exact ⟨⟨text, written⟩, enough, digits⟩
  · cases refused.symm.trans ran

theorem still_parse (content : Bytes) : Still (parse content : Act Fault σ RawIdentity) := by
  intro s
  rcases parse_cases content s with ⟨-, -, raw, ran⟩ | ⟨fault, ran⟩
  · rw [ran, after_ok]
  · rw [ran, after_error]

theorem returned_parse (content : Bytes) (s : σ) : Returned (parse content s) := by
  rcases parse_cases content s with ⟨-, -, raw, ran⟩ | ⟨fault, ran⟩
  · rw [ran]
    trivial
  · rw [ran]
    trivial

/-! ## The file -/

variable {host : Host ω} {path : String} {world : ω} {content : Bytes}

theorem still_load (host : Host ω) (path : String) (world : ω) :
    Still (load host path world : Act Fault σ RawIdentity) :=
  still_bind (keeps_ofExcept frame_still _) fun text => keeps_during (still_parse text)

theorem returned_load (host : Host ω) (path : String) (world : ω) (s : σ) :
    Returned (load host path world s) :=
  returned_bind (returned_ofExcept _ _) fun text later _ => returned_during (returned_parse text later)

theorem load_of_readable (stored : host.contents path world = .ok content) (readable : Readable content)
    (s : σ) :
    ∃ raw, load host path world s = .ok raw s ∧
      (content.take 32).map Hex.lower = Hex.encode raw.toList := by
  rcases parse_of_readable readable s with ⟨raw, parsed, same⟩
  have text := Utf8.decode?_isSome_iff.mpr readable.text
  have read : host.readText path world = .ok content := by
    rw [Host.readText, stored]
    exact if_pos text
  refine ⟨raw, ?_, same⟩
  rw [load, read]
  exact during_of_ok parsed

theorem readable_of_load (stored : host.contents path world = .ok content) {raw : RawIdentity} {s t : σ}
    (ran : load host path world s = .ok raw t) : Readable content := by
  rw [load, Host.readText, stored] at ran
  by_cases text : (Utf8.decode? content).isSome = true
  · simp only [text, if_true] at ran
    rcases Utf8.decode?_isSome_iff.mp text with ⟨text, written⟩
    exact readable_of_parse written (during_eq_ok_iff.mp ran)
  · simp only [text] at ran
    cases ran

/-! ## The digits -/

/-- The first 32 characters of a content in lower case. -/
def lowerDigits (content : Bytes) : List Char :=
  (content.take 32).map fun b => (Char.ofNat b.toNat).toLower

theorem lowerDigits_eq (content : Bytes) :
    lowerDigits content = Uuid.characters ((content.take 32).map Hex.lower) := by
  have same : ∀ b : UInt8, (Char.ofNat b.toNat).toLower = Char.ofNat (Hex.lower b).toNat :=
    forall_byte (by decide +kernel)
  rw [lowerDigits, Uuid.characters, List.map_map]
  exact List.map_congr_left fun b _ => same b

end MachineId

namespace Simulator

open MachineId

/-! ## The operation -/

theorem identity_eq (host : Host ω) (session : Session) (machine : Machine ω) :
    identity host (session, machine) =
      load host session.machineIdPath machine.world (session, machine) := rfl

theorem calm_anchor (host : Host ω) (settings : Simulator) : Context.Calm (anchor host settings) where
  connect _ := trivial
  hmac _ _ _ := trivial
  random _ _ := trivial
  identity state := returned_load host state.1.machineIdPath state.2.world state
  selfTest _ := trivial
  close _ _ := trivial

variable {host : Host ω} {settings : Simulator} {session : Session} {machine : Machine ω} {content : Bytes}

theorem getDeviceUuid_of_readable (stored : host.contents session.machineIdPath machine.world = .ok content)
    (readable : Readable content) :
    ∃ raw, Context.getDeviceUuid (anchor host settings) (⟨some session, false⟩, machine) =
        .ok (Uuid.ofRaw raw) (⟨some session, false⟩, machine) ∧
      lowerDigits content = Uuid.characters (Hex.encode raw.toList) := by
  rcases load_of_readable stored readable (session, machine) with ⟨raw, loaded, same⟩
  refine ⟨raw, ?_, ?_⟩
  · rw [Context.getDeviceUuid, Context.withSession_open]
    show Context.stepped ((identity host >>= _) (session, machine)) = _
    rw [bind_ok ((identity_eq host session machine).trans loaded)]
    rfl
  · rw [lowerDigits_eq, same]

theorem getDeviceUuid_of_unreadable (stored : host.contents session.machineIdPath machine.world = .ok content)
    (unreadable : ¬ Readable content) :
    ∃ fault, Context.getDeviceUuid (anchor host settings) (⟨some session, false⟩, machine) =
      .error (.error (.trustAnchor fault)) (⟨some session, false⟩, machine) := by
  have failed : ∀ raw t, load host session.machineIdPath machine.world (session, machine) ≠ .ok raw t :=
    fun raw t loaded => unreadable (readable_of_load stored loaded)
  rcases reports_of_not_ok (still_load host _ _) (returned_load host _ _ _) failed with ⟨fault, refused⟩
  refine ⟨fault, ?_⟩
  rw [Context.getDeviceUuid, Context.withSession_open]
  show Context.stepped ((identity host >>= _) (session, machine)) = _
  rw [bind_error ((identity_eq host session machine).trans refused)]
  rfl

/-- An open simulator gives an identifier if and only if the whole file is a text and begins with 32 hexadecimal
digits; otherwise it reports an error, and either way nothing changes.  The digits of the identifier are those
of the file in lower case, but for the version and the variant, and files with the same digits in either case give
the same identifier.  That the lock is not poisoned is no restriction: no run poisons it. -/
theorem identifier_of_machine_id (host : Host ω) (settings : Simulator) (session : Session)
    (machine : Machine ω) {content : Bytes}
    (stored : host.contents session.machineIdPath machine.world = .ok content) :
    let state : Context Session × Machine ω := (⟨some session, false⟩, machine)
    let result := Context.getDeviceUuid (anchor host settings) state
    ((∃ uuid, outcome result = .ok uuid) ↔ Readable content) ∧
    (∀ uuid, outcome result = .ok uuid → Uuid.Spelled (lowerDigits content) uuid.toText) ∧
    (¬ Readable content → ∃ fault, outcome result = .error (.error (.trustAnchor fault))) ∧
    after result = state ∧
    (Readable content → ∀ (host' : Host ω) (settings' : Simulator) (session' : Session) (machine' : Machine ω)
      (content' : Bytes), host'.contents session'.machineIdPath machine'.world = .ok content' →
        Readable content' → lowerDigits content' = lowerDigits content →
          outcome (Context.getDeviceUuid (anchor host' settings') (⟨some session', false⟩, machine')) =
            outcome result) ∧
    ∀ calls, (Context.run (anchor host settings) calls (.closed, machine)).1.poisoned = false := by
  intro state result
  have calm := calm_anchor host settings
  have ends : Readable content ∧ (∃ raw, result = .ok (Uuid.ofRaw raw) state ∧
      lowerDigits content = Uuid.characters (Hex.encode raw.toList)) ∨
      ¬ Readable content ∧ ∃ fault, result = .error (.error (.trustAnchor fault)) state := by
    by_cases readable : Readable content
    · exact .inl ⟨readable, getDeviceUuid_of_readable stored readable⟩
    · exact .inr ⟨readable, getDeviceUuid_of_unreadable stored readable⟩
  refine ⟨?succeeds, ?spelled, ?refused, ?unchanged, ?determined,
    fun calls => Context.unpoisoned_run calm calls rfl⟩
  case succeeds =>
    rcases ends with ⟨readable, raw, ran, -⟩ | ⟨unreadable, fault, ran⟩
    · rw [ran]
      exact ⟨fun _ => readable, fun _ => ⟨_, rfl⟩⟩
    · rw [ran]
      exact ⟨nofun, fun readable => absurd readable unreadable⟩
  case spelled =>
    intro uuid gave
    rcases ends with ⟨-, raw, ran, digits⟩ | ⟨-, fault, ran⟩
    · rw [ran] at gave
      cases gave
      rw [digits]
      exact Uuid.spelled_toText raw
    · rw [ran] at gave
      cases gave
  case refused =>
    intro unreadable
    rcases ends with ⟨readable, -⟩ | ⟨-, fault, ran⟩
    · exact absurd readable unreadable
    · rw [ran]
      exact ⟨fault, rfl⟩
  case unchanged =>
    rcases ends with ⟨-, raw, ran, -⟩ | ⟨-, fault, ran⟩
    · rw [ran, after_ok]
    · rw [ran, after_error]
  case determined =>
    intro readable host' settings' session' machine' content' stored' readable' same
    rcases getDeviceUuid_of_readable stored readable with ⟨raw, ran, digits⟩
    rcases getDeviceUuid_of_readable stored' readable' with ⟨raw', ran', digits'⟩
    rw [digits, digits'] at same
    have bytes_eq := Hex.encode_injective (Uuid.characters_injective same)
    have raw_eq : raw' = raw := Vector.toList_inj.mp bytes_eq
    show outcome (Context.getDeviceUuid _ _) = outcome (Context.getDeviceUuid _ _)
    rw [ran, ran', raw_eq]
    rfl

/-- A host on which there is nothing but one file, under every name.  The world is its content. -/
def oneFile : Host Bytes where
  present _ _ := true
  openFile _ := throw .notFound
  write _ _ := throw .notFound
  read _ _ := throw .notFound
  contents _ content := .ok content
  reserve := Memory.reserve
  readJson? := Json.parse?

/-- Digits in both cases with a character of two bytes behind them, and the same in lower case alone. -/
theorem identifier_of_machine_id_mixed :
    let low : List Char := ['a', 'b', 'c', 'd', 'e', 'f']
    let high : List Char := ['A', 'B', 'C', 'D', 'E', 'F']
    let decimal : List Char := ['0', '1', '2', '3', '4', '5', '6', '7', '8', '9']
    let mixed := Utf8.encode (String.ofList (decimal ++ high ++ decimal ++ low ++ ['é', '\n']))
    let plain := Utf8.encode (String.ofList (decimal ++ low ++ decimal ++ low))
    let result := fun content : Bytes => Context.getDeviceUuid (anchor oneFile ⟨"machine-id"⟩)
      (⟨some ⟨"machine-id"⟩, false⟩, Machine.new content (Entropy.ofBytes []))
    oneFile.contents "machine-id" mixed = .ok mixed ∧
      ∃ uuid, outcome (result mixed) = .ok uuid ∧ outcome (result plain) = .ok uuid ∧
        uuid.toText.toList.filter (· ≠ '-') =
          decimal ++ ['a', 'b', '4', 'd', 'e', 'f', '8', '1', '2', '3', '4', '5', '6', '7', '8', '9'] ++ low := by
  intro low high decimal mixed plain result
  have mixed_eq : mixed = [48, 49, 50, 51, 52, 53, 54, 55, 56, 57, 65, 66, 67, 68, 69, 70, 48, 49, 50, 51, 52,
      53, 54, 55, 56, 57, 97, 98, 99, 100, 101, 102, 0xc3, 0xa9, 10] := by
    show Utf8.encode (String.ofList _) = _
    rw [Utf8.encode_ofList]
    decide
  have plain_eq : plain = [48, 49, 50, 51, 52, 53, 54, 55, 56, 57, 97, 98, 99, 100, 101, 102, 48, 49, 50, 51, 52,
      53, 54, 55, 56, 57, 97, 98, 99, 100, 101, 102] := by
    show Utf8.encode (String.ofList _) = _
    rw [Utf8.encode_ofList]
    decide
  have readable : Readable mixed :=
    ⟨⟨_, rfl⟩, by rw [mixed_eq]; decide, by rw [mixed_eq]; decide +kernel⟩
  have readable' : Readable plain :=
    ⟨⟨_, rfl⟩, by rw [plain_eq]; decide, by rw [plain_eq]; decide +kernel⟩
  have facts := identifier_of_machine_id oneFile ⟨"machine-id"⟩ ⟨"machine-id"⟩
    (Machine.new mixed (Entropy.ofBytes [])) rfl
  rcases facts.1.mpr readable with ⟨uuid, gave⟩
  have digits_eq := (facts.2.1 uuid gave).digits_eq
  have same : lowerDigits plain = lowerDigits mixed := by
    rw [mixed_eq, plain_eq]
    decide
  have gave' := facts.2.2.2.2.1 readable oneFile ⟨"machine-id"⟩ ⟨"machine-id"⟩
    (Machine.new plain (Entropy.ofBytes [])) plain rfl readable' same
  refine ⟨rfl, uuid, gave, gave'.trans gave, ?_⟩
  rw [digits_eq, mixed_eq]
  decide

end Simulator
end TrustAnchor
