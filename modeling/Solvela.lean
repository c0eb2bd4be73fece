import Solvela.Foundations.Effects
import Solvela.Foundations.Transitions
import Solvela.Foundations.Recency
import Solvela.Foundations.Windows
import Solvela.Foundations.Delimited
import Solvela.Foundations.Challenges
import Solvela.Integers
import Solvela.Protocol
import Solvela.Cache.Model
import Solvela.Session.Model
import Solvela.Quality
import Solvela.Config
import Solvela.Error
import Solvela.Crates
import Solvela.Crates.Sample
import Solvela.Http
import Solvela.Wallet
import Solvela.Signer
import Solvela.Client.Model
import Solvela.Proxy.Model
import Solvela.Balance.Model
import Solvela.Client.Signing
import Solvela.Client.Handshake
import Solvela.Client.Calls
import Solvela.Proxy.Forwarding
import Solvela.Client.Payment
import Solvela.Client.Charging
import Solvela.Client.Terms
import Solvela.Client.Budget
import Solvela.Client.Fallback
import Solvela.Client.Runs
import Solvela.Client.Routing
import Solvela.Cache.Correctness
import Solvela.Client.Transparency
import Solvela.Session.History
import Solvela.Session.Concurrency
import Solvela.Balance.Reply
import Solvela.Session.Escalation
import Solvela.Client.Answers
import Solvela.Client.Accounting
import Solvela.Client.Replay
import Solvela.Client.Recording
import Solvela.Balance.Guard
import Solvela.Client.Atomicity
import Solvela.Client.Agreement
import Solvela.Proxy.Framing
import Solvela.Proxy.Responses
import Solvela.Foundations.Files
import Solvela.Wallet.Files
import Solvela.Wallet.Keys
import Solvela.Foundations.Words
import Solvela.Quality.Loops
import Solvela.Client.Hashing
import Solvela.Quality.Rules
import Solvela.Session.Cleanup
import Solvela.Client.Offers
import Solvela.Client.Resends
import Solvela.Wallet.Saving
import Solvela.Wallet.Racing
import Solvela.Foundations.Dialogues
import Solvela.Foundations.Interleavings
import Solvela.Concurrent.Model
import Solvela.Concurrent.Talks
import Solvela.Concurrent.Calls
import Solvela.Concurrent.Payments
import Solvela.Concurrent.Alone
import Solvela.Concurrent.Snapshots
import Solvela.Concurrent.Hits
import Solvela.Concurrent.Sessions
import Solvela.Concurrent.Progress
import Solvela.Cli.Machine
import Solvela.Cli.Commands
import Solvela.Cli.Footprints
import Solvela.Cli.Doctor
import Solvela.Cli.Spending
import Solvela.Cli.WalletHistory
import Solvela.Concurrent.Fallbacks
import Solvela.Foundations.Doubles
import Solvela.Decimals
import Solvela.Proxy.Startup
