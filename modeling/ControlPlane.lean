import ControlPlane.Channel.Basic
import ControlPlane.Channel.Pages
import ControlPlane.Channel.Send
import ControlPlane.Cloudflare.Applications
import ControlPlane.Cloudflare.Client
import ControlPlane.Cloudflare.Envelope
import ControlPlane.Cloudflare.Owner
import ControlPlane.Credentials
import ControlPlane.Double.Basic
import ControlPlane.Double.Decimal
import ControlPlane.Duration
import ControlPlane.Fault
import ControlPlane.Http
import ControlPlane.HttpDate
import ControlPlane.Inspect
import ControlPlane.Json.Basic
import ControlPlane.Json.Outline
import ControlPlane.Json.Reader
import ControlPlane.Json.Token
import ControlPlane.Rehearsal
import ControlPlane.Retry
import ControlPlane.Run
import ControlPlane.Settings
import ControlPlane.Text.Basic
import ControlPlane.Text.CombiningClass
import ControlPlane.Text.Composed
import ControlPlane.Text.Composite
import ControlPlane.Text.Mark
import ControlPlane.Text.Printable
import ControlPlane.Text.Utf8
import ControlPlane.Url.Basic
import ControlPlane.Url.Direction
import ControlPlane.Url.Domain
import ControlPlane.Url.Folding.Letters
import ControlPlane.Url.Folding.Refused
import ControlPlane.Url.Folding.Words
import ControlPlane.Url.Host
import ControlPlane.Url.Joining
import ControlPlane.Url.Parse
import ControlPlane.Url.Path
import ControlPlane.Url.Percent
import ControlPlane.Url.Punycode
import ControlPlane.Vault.Client
import ControlPlane.Proofs.Attempts
import ControlPlane.Proofs.Scripted
import ControlPlane.Proofs.Steps
import ControlPlane.Proofs.Sending
import ControlPlane.Proofs.Token
import ControlPlane.Proofs.Walk
import ControlPlane.Proofs.Progress
import ControlPlane.Proofs.Cancellation
import ControlPlane.Proofs.Stripping
import ControlPlane.Proofs.Decimals
import ControlPlane.Proofs.Form
import ControlPlane.Proofs.Listing
import ControlPlane.Proofs.Agreement
import ControlPlane.Proofs.Budget
import ControlPlane.Proofs.Retrying
import ControlPlane.Proofs.Paths
import ControlPlane.Proofs.Mount
import ControlPlane.Proofs.Segments
import ControlPlane.Proofs.Operations
import ControlPlane.Proofs.Phases
import ControlPlane.Proofs.Secrecy
import ControlPlane.Proofs.Quoting
import ControlPlane.Proofs.Shape
import ControlPlane.Proofs.Disclosure
import ControlPlane.Proofs.Pauses
import ControlPlane.Proofs.Grammar
import ControlPlane.Proofs.Lexing
import ControlPlane.Proofs.Parsing
import ControlPlane.Proofs.Meaning
import ControlPlane.Proofs.Printing
import ControlPlane.Proofs.Records
import ControlPlane.Proofs.Envelopes
import ControlPlane.Proofs.Keeping
import ControlPlane.Proofs.Lookup
import ControlPlane.Proofs.Rounding
import ControlPlane.Proofs.Backoff
import ControlPlane.Proofs.Jitter
import ControlPlane.Proofs.Cleaning
import ControlPlane.Proofs.Joined
import ControlPlane.Proofs.Applications
import ControlPlane.Proofs.Endings
import ControlPlane.Proofs.Secrets
import ControlPlane.Proofs.Signing
import ControlPlane.Proofs.Issuing
import ControlPlane.Proofs.Asking
import ControlPlane.Proofs.Serving
import ControlPlane.Proofs.Defaults
