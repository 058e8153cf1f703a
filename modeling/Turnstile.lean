import Turnstile.Simulation.Run
import Turnstile.Simulation.Server
import Turnstile.Simulation.Shared
import Turnstile.Server.Address
import Turnstile.Settings.Json
import Turnstile.Proofs.Store.Ledger
import Turnstile.Proofs.Queue.Waiting
import Turnstile.Proofs.Lock.Exclusion
import Turnstile.Proofs.Lock.Unlock
import Turnstile.Proofs.Lock.Among
import Turnstile.Proofs.Lock.Belief
import Turnstile.Proofs.Lock.Expiry
import Turnstile.Proofs.Lock.Refusal
import Turnstile.Proofs.Lock.Tenure
import Turnstile.Proofs.Lock.Renewal
import Turnstile.Proofs.Lock.Nesting
import Turnstile.Proofs.Queue.Line
import Turnstile.Proofs.Store.Lifetime
import Turnstile.Proofs.Lua.Body
import Turnstile.Proofs.Lua.Dataset
import Turnstile.Proofs.Lua.Ranking
import Turnstile.Proofs.Lua.Run
import Turnstile.Proofs.Lua.View
import Turnstile.Proofs.Lua.Agreement
import Turnstile.Proofs.Store.Separation
import Turnstile.Proofs.Names
import Turnstile.Proofs.Lock.Guards
import Turnstile.Proofs.Lock.First
import Turnstile.Proofs.Queue.Dates
import Turnstile.Proofs.Json.Written
import Turnstile.Proofs.Settings.Written
import Turnstile.Proofs.Server.Sent
import Turnstile.Proofs.Queue.Delay
import Turnstile.Proofs.Kinds
import Turnstile.Proofs.Queue.Collections
import Turnstile.Proofs.Queue.Unread
import Turnstile.Proofs.Lock.Diary
import Turnstile.Proofs.Lock.Attempt
import Turnstile.Proofs.Lock.Schedule
import Turnstile.Proofs.Lock.WaitingOut
import Turnstile.Proofs.Lock.Cancellation
import Turnstile.Proofs.Lock.Site
import Turnstile.Proofs.Lock.Untouched
import Turnstile.Proofs.Lock.Release
import Turnstile.Proofs.Store.Confinement
import Turnstile.Proofs.Settings.Normal
import Turnstile.Proofs.Queue.Series
import Turnstile.Proofs.Queue.Drain
import Turnstile.Proofs.Queue.Items
import Turnstile.Proofs.Lock.Chronicle
import Turnstile.Proofs.Store.Sweeping
import Turnstile.Proofs.Identity.Minted
import Turnstile.Proofs.Identity.Serials
import Turnstile.Proofs.Json.Passing
import Turnstile.Proofs.Json.Overlay
import Turnstile.Proofs.Settings.Partial
import Turnstile.Proofs.Store.Asked
