import Shakedown.Main
import Shakedown.Proofs.Check
import Shakedown.Proofs.SmokeRun
import Shakedown.Proofs.Address
import Shakedown.Proofs.Bearer
import Shakedown.Proofs.Isolation
import Shakedown.Proofs.Secrecy
import Shakedown.Proofs.Load.Order
import Shakedown.Proofs.Load.Patience
import Shakedown.Proofs.ExitCode
import Shakedown.Proofs.Verdict
import Shakedown.Proofs.Record.Echo
import Shakedown.Proofs.Record.Numbers
import Shakedown.Proofs.Address.Home
import Shakedown.Proofs.TokenInfo.Parameter
import Shakedown.Proofs.Identifiers
import Shakedown.Proofs.Load.AppUrl
import Shakedown.Proofs.Load.RecordUrls
import Shakedown.Proofs.Load.Listing
import Shakedown.Proofs.Health
import Shakedown.Proofs.Report
import Shakedown.Proofs.Load.Failures
import Shakedown.Proofs.Load.Delay
import Shakedown.Proofs.Record.Dates
