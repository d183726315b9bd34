import QueryAudit.Main
import QueryAudit.Proofs.Ack.CutOff
import QueryAudit.Proofs.CommandLine.Switches
import QueryAudit.Proofs.CommandLine.Values
import QueryAudit.Proofs.Display
import QueryAudit.Proofs.Envelope
import QueryAudit.Proofs.Exit
import QueryAudit.Proofs.History
import QueryAudit.Proofs.Json.FieldOrder
import QueryAudit.Proofs.Logging
import QueryAudit.Proofs.Preview
import QueryAudit.Proofs.Request.Fixpoint
import QueryAudit.Proofs.Request.Login
import QueryAudit.Proofs.Request.Query
import QueryAudit.Proofs.Request.Stray
import QueryAudit.Proofs.RoundTrip
import QueryAudit.Proofs.Secrecy
import QueryAudit.Proofs.Settings.Decoding
import QueryAudit.Proofs.Settings.Layers
import QueryAudit.Proofs.Settings.Steps
