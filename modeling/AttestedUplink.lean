import AttestedUplink.Attestation.Attestor
import AttestedUplink.Attestation.Document
import AttestedUplink.Attestation.Envelope
import AttestedUplink.Attestation.Payload
import AttestedUplink.Attestation.Structure
import AttestedUplink.Attestation.Table
import AttestedUplink.Attestation.Verifier
import AttestedUplink.Bytes
import AttestedUplink.Cbor.Head
import AttestedUplink.Cbor.Value
import AttestedUplink.Certificate
import AttestedUplink.Certificate.AttributeLabel
import AttestedUplink.Certificate.Name
import AttestedUplink.Certificate.Oid
import AttestedUplink.Certificate.Signature
import AttestedUplink.Certificate.Time
import AttestedUplink.Der
import AttestedUplink.Digest
import AttestedUplink.Endpoint
import AttestedUplink.ErrorSlot
import AttestedUplink.Fault
import AttestedUplink.Frame
import AttestedUplink.Handshake
import AttestedUplink.Link.Commands
import AttestedUplink.Measurement.Cache
import AttestedUplink.Measurement.Set
import AttestedUplink.Net.Address
import AttestedUplink.Proofs.Attestation.Acceptance
import AttestedUplink.Proofs.Attestation.CrossCheck
import AttestedUplink.Proofs.Attestation.History
import AttestedUplink.Proofs.Attestation.Message
import AttestedUplink.Proofs.Attestation.Period
import AttestedUplink.Proofs.Attestation.Positions
import AttestedUplink.Proofs.Attestation.Precedence
import AttestedUplink.Proofs.Attestation.Shape
import AttestedUplink.Proofs.Attestation.SignedOctets
import AttestedUplink.Proofs.Attestation.Startup
import AttestedUplink.Proofs.Cbor.Prefix
import AttestedUplink.Proofs.Cbor.Writing
import AttestedUplink.Proofs.Checks
import AttestedUplink.Proofs.Endpoint.Display
import AttestedUplink.Proofs.Endpoint.Grammar
import AttestedUplink.Proofs.Frame.Buffer
import AttestedUplink.Proofs.Frame.Drain
import AttestedUplink.Proofs.Frame.Limits
import AttestedUplink.Proofs.Frame.Wire
import AttestedUplink.Proofs.Handshake.BlankLine
import AttestedUplink.Proofs.Handshake.Integrity
import AttestedUplink.Proofs.Handshake.Sendable
import AttestedUplink.Proofs.Handshake.Target
import AttestedUplink.Proofs.Link.Safety
import AttestedUplink.Proofs.Measurement.Comparison
import AttestedUplink.Proofs.Measurement.Sharing
import AttestedUplink.Proofs.Net.Groups
import AttestedUplink.Proofs.Net.Quads
import AttestedUplink.Proofs.Payload.Agreement
import AttestedUplink.Proofs.Payload.Keys
import AttestedUplink.Proofs.Payload.Spelling
import AttestedUplink.Proofs.Settings.Reading
import AttestedUplink.Proofs.Settings.Validation
import AttestedUplink.Proofs.Settings.Variables
import AttestedUplink.Proofs.Text.Cuts
import AttestedUplink.Proofs.Text.Hexadecimal
import AttestedUplink.Proofs.Text.Numerals
import AttestedUplink.Proofs.Text.Utf8
import AttestedUplink.Proofs.Tunnel.Attempt
import AttestedUplink.Proofs.Tunnel.FirstReport
import AttestedUplink.Proofs.Tunnel.Lifecycle
import AttestedUplink.Proofs.Tunnel.Moves
import AttestedUplink.Proofs.Tunnel.Ownership
import AttestedUplink.Proofs.Tunnel.Pacing
import AttestedUplink.Proofs.Tunnel.Promptness
import AttestedUplink.Proofs.Tunnel.Reception
import AttestedUplink.Proofs.Tunnel.Rehearsal
import AttestedUplink.Proofs.Tunnel.SlotHistory
import AttestedUplink.Proofs.Tunnel.Success
import AttestedUplink.Proofs.Tunnel.Transparency
import AttestedUplink.Proofs.Tunnel.WireImage
import AttestedUplink.Settings
import AttestedUplink.Settings.Attestation
import AttestedUplink.Settings.Link
import AttestedUplink.Signature
import AttestedUplink.Text.Quoted
import AttestedUplink.Text.Reading
import AttestedUplink.Tunnel.Forwarding
import AttestedUplink.Tunnel.Rehearsal
import AttestedUplink.Tunnel.Supervisor
import AttestedUplink.Tunnel.Writer
