import Turnstile.Text.Blank
import Turnstile.Time

/-!
# Settings of locks, queues and the store connection

Settings can be built freely. `invalid?` names the first thing that is wrong with them, in
the order in which they are looked at; handles and queues are made from settings for which
it finds nothing.
-/

namespace Turnstile

/-- What can be wrong with settings. -/
inductive InvalidSetting where
  | blankUrl
  | blankLockSpace
  | shortLease
  | zeroPoll
  | blankQueueSpace
  | sharedQueueSpace
deriving DecidableEq, Repr

/-- The text that reports invalid settings. -/
def InvalidSetting.message (invalid : InvalidSetting) : String :=
  "invalid config: " ++
    match invalid with
    | blankUrl => "redis_url must not be empty"
    | blankLockSpace => "lock namespace must not be empty"
    | shortLease => "lock lease must be at least one millisecond"
    | zeroPoll => "lock poll interval must not be zero"
    | blankQueueSpace => "queue namespaces must not be empty"
    | sharedQueueSpace => "queue and delayed queue namespaces must differ"

/-- The key of a name in a key space. -/
def keyIn (space name : String) : String := space ++ ":" ++ name

/-! ## Locks -/

/-- The settings of locks. Lengths of time are in nanoseconds. -/
structure LockSettings where
  /-- The key space of the locks. -/
  space : String := "distributed_lock"
  /-- How long a lock is held unless it is renewed. -/
  lease : Nat := 30 * Time.second
  /-- How long to wait between two attempts. -/
  poll : Nat := 10 * Time.millisecond
  /-- How long to wait for a lock in all. -/
  wait : Nat := 10 * Time.second
deriving DecidableEq, Repr

/-- What is wrong with settings of locks. -/
def LockSettings.invalid? (s : LockSettings) : Option InvalidSetting :=
  if Text.isBlank s.space then some .blankLockSpace
  else if Time.millis s.lease = 0 then some .shortLease
  else if s.poll = 0 then some .zeroPoll
  else none

/-! ## Queues -/

/-- The settings of queues: the key spaces of the two collections behind each name. -/
structure QueueSettings where
  /-- The key space of the lists. -/
  space : String := "queue"
  /-- The key space of the sorted sets. -/
  delayedSpace : String := "delayed_queue"
deriving DecidableEq, Repr

/-- What is wrong with settings of queues. -/
def QueueSettings.invalid? (s : QueueSettings) : Option InvalidSetting :=
  if Text.isBlank s.space || Text.isBlank s.delayedSpace then some .blankQueueSpace
  else if s.space = s.delayedSpace then some .sharedQueueSpace
  else none

/-! ## All together -/

/-- The settings of a process that uses locks and queues of one server. -/
structure Settings where
  url : String := "redis://127.0.0.1:6379/0"
  lock : LockSettings := {}
  queue : QueueSettings := {}
deriving DecidableEq, Repr

/-- What is wrong with settings: with the address, else with those of the locks, else with
those of the queues. -/
def Settings.invalid? (s : Settings) : Option InvalidSetting :=
  if Text.isBlank s.url then some .blankUrl else s.lock.invalid? <|> s.queue.invalid?

theorem LockSettings.invalid?_default : ({} : LockSettings).invalid? = none := by decide

theorem QueueSettings.invalid?_default : ({} : QueueSettings).invalid? = none := by decide

theorem LockSettings.poll_pos {s : LockSettings} (h : s.invalid? = none) : 0 < s.poll := by
  unfold LockSettings.invalid? at h
  grind

theorem LockSettings.one_le_millis {s : LockSettings} (h : s.invalid? = none) :
    1 ≤ Time.millis s.lease := by
  unfold LockSettings.invalid? at h
  grind

end Turnstile
