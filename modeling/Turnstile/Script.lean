/-!
# Scripts

Everything a lock or a queue does to the store is one of thirteen scripts, each of which
the store runs indivisibly. A script has a name, by which it is known, and a body in Lua,
which a server runs. `Command` enumerates the thirteen and `Command.script` gives each its
name and body; `Command.ofName?` finds a command by its name (`ofName?_name`).
-/

namespace Turnstile

/-- A named program for the store. -/
structure Script where
  name : String
  body : String
deriving DecidableEq, Repr

/-- What a client can have the store do. -/
inductive Command where
  /-- Take a lock key that is absent, for one lease. -/
  | acquire
  /-- Reset the lease of a lock key whose token starts as given. -/
  | reenter
  /-- Reset the lease of a lock key that holds just the given token. -/
  | renew
  /-- Delete a lock key that holds just the given token. -/
  | release
  /-- Look up the token in a lock key. -/
  | owner
  /-- Append a payload to a list. -/
  | push
  /-- Take the first payload of a list. -/
  | pop
  /-- The length of a list. -/
  | len
  /-- Give a payload its due date in a sorted set. -/
  | delayedPush
  /-- Take the first payload of a sorted set, if it is due. -/
  | delayedPop
  /-- Take a given payload out of a sorted set. -/
  | delayedRemove
  /-- The size of a sorted set. -/
  | delayedLen
  /-- Delete keys. -/
  | destroy
deriving DecidableEq, Repr

namespace Command

/-- Every command: first those of the locks, then those of the queues. -/
def all : List Command :=
  [acquire, reenter, renew, release, owner, push, pop, len, delayedPush, delayedPop,
    delayedRemove, delayedLen, destroy]

theorem mem_all (c : Command) : c ∈ all := by cases c <;> decide

/-- The name a command goes by. -/
def name : Command → String
  | acquire => "lock.acquire"
  | reenter => "lock.reenter"
  | renew => "lock.renew"
  | release => "lock.release"
  | owner => "lock.owner"
  | push => "queue.push"
  | pop => "queue.pop"
  | len => "queue.len"
  | delayedPush => "queue.delayed_push"
  | delayedPop => "queue.delayed_pop"
  | delayedRemove => "queue.delayed_remove"
  | delayedLen => "queue.delayed_len"
  | destroy => "queue.destroy"

/-- The lines of a command's body, which begins and ends with a line feed. -/
def lines : Command → List String
  | acquire =>
    ["if redis.call('set', KEYS[1], ARGV[1], 'NX', 'PX', ARGV[2]) then",
      "    return 1",
      "end",
      "return 0"]
  | reenter =>
    ["local holder = redis.call('get', KEYS[1])",
      "if holder and string.sub(holder, 1, string.len(ARGV[1])) == ARGV[1] then",
      "    redis.call('pexpire', KEYS[1], ARGV[2])",
      "    return 1",
      "end",
      "return 0"]
  | renew =>
    ["if redis.call('get', KEYS[1]) == ARGV[1] then",
      "    redis.call('pexpire', KEYS[1], ARGV[2])",
      "    return 1",
      "end",
      "return 0"]
  | release =>
    ["if redis.call('get', KEYS[1]) == ARGV[1] then",
      "    return redis.call('del', KEYS[1])",
      "end",
      "return 0"]
  | owner => ["return redis.call('get', KEYS[1])"]
  | push => ["return redis.call('rpush', KEYS[1], ARGV[1])"]
  | pop => ["return redis.call('lpop', KEYS[1])"]
  | len => ["return redis.call('llen', KEYS[1])"]
  | delayedPush => ["return redis.call('zadd', KEYS[1], ARGV[2], ARGV[1])"]
  | delayedPop =>
    ["local head = redis.call('zrange', KEYS[1], 0, 0, 'WITHSCORES')",
      "if #head == 0 then",
      "    return nil",
      "end",
      "if tonumber(head[2]) > tonumber(ARGV[1]) then",
      "    return nil",
      "end",
      "redis.call('zrem', KEYS[1], head[1])",
      "return head[1]"]
  | delayedRemove => ["return redis.call('zrem', KEYS[1], ARGV[1])"]
  | delayedLen => ["return redis.call('zcard', KEYS[1])"]
  | destroy => ["return redis.call('del', unpack(KEYS))"]

/-- A command as the script that carries it out. -/
def script (c : Command) : Script where
  name := c.name
  body := "\n" ++ "\n".intercalate c.lines ++ "\n"

/-- The command of a name. -/
def ofName? (n : String) : Option Command := all.find? fun c => c.name == n

/-- Names tell the commands apart. -/
theorem name_injective {c d : Command} (h : c.name = d.name) : c = d := by
  revert h
  cases c <;> cases d <;> simp [name]

/-- Every command is found by its name. -/
theorem ofName?_name (c : Command) : ofName? c.name = some c := by
  cases c <;> simp [ofName?, all, name]

/-- A command is found by no other name than its own. -/
theorem name_of_ofName? {n : String} {c : Command} (h : ofName? n = some c) : c.name = n := by
  simpa using List.find?_some h

end Command

end Turnstile
