import TrustAnchor.Action
import TrustAnchor.Anchor.Basic
import TrustAnchor.Anchor.Kind
import TrustAnchor.Anchor.Recorded
import TrustAnchor.Anchor.Scripted
import TrustAnchor.Anchor.Simulator
import TrustAnchor.Anchor.TpmDevice
import TrustAnchor.Backend
import TrustAnchor.Bytes
import TrustAnchor.Config
import TrustAnchor.Config.Document
import TrustAnchor.Config.Environment
import TrustAnchor.Context
import TrustAnchor.Derivation
import TrustAnchor.Entropy
import TrustAnchor.Error
import TrustAnchor.Fault
import TrustAnchor.Gather
import TrustAnchor.Hash.Hmac
import TrustAnchor.Hash.Sha256
import TrustAnchor.Host
import TrustAnchor.Host.Files
import TrustAnchor.Machine
import TrustAnchor.MachineId
import TrustAnchor.Memory
import TrustAnchor.Selection
import TrustAnchor.Slot
import TrustAnchor.Text.Blank
import TrustAnchor.Text.Decimal
import TrustAnchor.Text.Hex
import TrustAnchor.Text.Json
import TrustAnchor.Text.Quoted
import TrustAnchor.Text.Utf8
import TrustAnchor.Tpm.Algorithm
import TrustAnchor.Tpm.Attributes
import TrustAnchor.Tpm.Authorization
import TrustAnchor.Tpm.Code
import TrustAnchor.Tpm.Command
import TrustAnchor.Tpm.Device
import TrustAnchor.Tpm.Handle
import TrustAnchor.Tpm.Operations
import TrustAnchor.Tpm.Response
import TrustAnchor.Tpm.Scripted
import TrustAnchor.Tpm.Session
import TrustAnchor.Tpm.Structure
import TrustAnchor.Tpm.Template
import TrustAnchor.Uuid
import TrustAnchor.Version
import TrustAnchor.Wire.Item
import TrustAnchor.Wire.Reader
import TrustAnchor.Proofs.Action
import TrustAnchor.Proofs.Context.Run
import TrustAnchor.Proofs.Context.Keys
import TrustAnchor.Proofs.Recorded.Conservation
import TrustAnchor.Proofs.Tpm.Layout
import TrustAnchor.Proofs.Tpm.Exchange
import TrustAnchor.Proofs.Tpm.Session
import TrustAnchor.Proofs.Tpm.Causes
import TrustAnchor.Proofs.Tpm.Run
import TrustAnchor.Proofs.Tpm.Nonce
import TrustAnchor.Proofs.Tpm.Provisioned
import TrustAnchor.Proofs.Anchor.Release
import TrustAnchor.Proofs.Anchor.Trace
import TrustAnchor.Proofs.Anchor.Agreement
import TrustAnchor.Proofs.Recorded.Erasure
import TrustAnchor.Proofs.Gather
import TrustAnchor.Proofs.Context.Operations
import TrustAnchor.Proofs.Context.Failure
import TrustAnchor.Proofs.Wire.Script
import TrustAnchor.Proofs.Context.Threads
import TrustAnchor.Proofs.Context.Derivation
import TrustAnchor.Proofs.Anchor.Malformed
import TrustAnchor.Proofs.Tpm.HmacCommand
import TrustAnchor.Proofs.Tpm.Authentic
import TrustAnchor.Proofs.Tpm.Freshness
import TrustAnchor.Proofs.Selection
import TrustAnchor.Proofs.Tpm.SessionReply
import TrustAnchor.Proofs.Tpm.Template
import TrustAnchor.Proofs.Tpm.PrimaryCommand
import TrustAnchor.Proofs.Anchor.Identity
import TrustAnchor.Proofs.Context.Filling
import TrustAnchor.Proofs.Tpm.Binding
import TrustAnchor.Proofs.Anchor.Random
import TrustAnchor.Proofs.Anchor.Names
import TrustAnchor.Proofs.Tpm.Header
import TrustAnchor.Proofs.Tpm.Framing
import TrustAnchor.Proofs.Anchor.SelfTest
import TrustAnchor.Proofs.Text
import TrustAnchor.Proofs.Uuid
import TrustAnchor.Proofs.Anchor.MachineId
import TrustAnchor.Proofs.Blank
import TrustAnchor.Proofs.Lists
import TrustAnchor.Proofs.Version
import TrustAnchor.Proofs.Config
import TrustAnchor.Proofs.Anchor.DevicePath
import TrustAnchor.Proofs.Wire.Cursor
import TrustAnchor.Proofs.Tpm.Reads
