import Turnstile.Main
import Turnstile.Nesting
import Turnstile.Proofs.Charset.Utf8
import Turnstile.Proofs.Descent
import Turnstile.Proofs.Evaluation
import Turnstile.Proofs.Passage
import Turnstile.Proofs.Mirror
import Turnstile.Proofs.Residue
import Turnstile.Proofs.Isolation
import Turnstile.Proofs.Challenge
import Turnstile.Proofs.Http.Headers
import Turnstile.Proofs.Store
import Turnstile.Proofs.Store.History
import Turnstile.Proofs.UserMap
import Turnstile.Proofs.Text.Parts
import Turnstile.Proofs.UserMap.RoundTrip
import Turnstile.Proofs.Admission
import Turnstile.Proofs.Base64
import Turnstile.Proofs.Text.Lower
import Turnstile.Proofs.Credentials.Grammar
import Turnstile.Proofs.Charset.Reversible
import Turnstile.Proofs.Credentials.RoundTrip
import Turnstile.Proofs.Coherence
import Turnstile.Proofs.Nesting
import Turnstile.Proofs.Refusal
import Turnstile.Proofs.Login
import Turnstile.Proofs.Refusal.Alike
import Turnstile.Proofs.Secrecy
import Turnstile.Proofs.Anonymity
import Turnstile.Proofs.Crossing
import Turnstile.Proofs.Ungated
import Turnstile.Proofs.Succession
import Turnstile.Proofs.Refusal.Routing
import Turnstile.Proofs.Challenge.Quoting
import Turnstile.Proofs.UserMap.Faults
import Turnstile.Proofs.UserMap.Joined
import Turnstile.Proofs.Audit
import Turnstile.Proofs.Http.FirstMatch
import Turnstile.Proofs.Service
import Turnstile.Proofs.UserMap.Attributes
import Turnstile.Proofs.CommandLine
