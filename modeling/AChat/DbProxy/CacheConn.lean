import AChat.Lib.Reach
import Std.Data.TreeMap

/-!
Contract: on which contexts a cache connection issues its commands.

A command goes to the context that `init` left in place. Two paths leave one in place that no
command may use: a `SELECT` that is not answered with `OK`, and the lost reply of `EXISTS`,
where the context is freed and kept. From then on each command goes to that context.

Owns: the cache connection and its operations, the log of what is done with its contexts, and
the invariant of its runs.
-/

namespace AChat.DbProxy

open Lib

namespace CacheContext

/-! ### Commands and replies -/

inductive Arg where
  | text (value : String)
  | number (value : Int)
deriving DecidableEq, Repr

/-- What is handed to `redisCommand` or to `redisCommandArgv`. -/
inductive Request where
  | format (format : String) (args : List Arg)
  | argv (argv : List String)
deriving DecidableEq, Repr

inductive ReplyType where
  | string
  | array
  | integer
  | nil
  | status
  | error
deriving DecidableEq, Repr

/-- An element of an array. -/
structure Element where
  type : ReplyType
  str : String
deriving DecidableEq, Repr

structure RedisReply where
  type : ReplyType
  integer : Int
  str : String
  element : List Element
deriving DecidableEq, Repr

/-- What `redisConnectWithTimeout` returns. -/
inductive Connected where
  | null
  | err
  | context
deriving DecidableEq, Repr

/-- What an operation meets: the time, and the answers to what it may issue. No reply is a lost
reply. -/
structure Env where
  curTime : UInt64
  connected : Connected
  selected : Option RedisReply
  reply : Option RedisReply
deriving DecidableEq, Repr

/-! ### The connection -/

/-- What was done with a context. -/
inductive Entry where
  | connected (context : Nat)
  | selected (context : Nat) (dbNum : Int) (ok : Bool)
  | command (context : Option Nat) (request : Request)
  | freed (context : Nat)
deriving DecidableEq, Repr

/-- The two failures that leave the context in place. -/
inductive Failure where
  | select
  | exists
deriving DecidableEq, Repr

/-- A cache connection with the database number of its pool, the number of contexts that were
made, what was done with them, the last one first, and the failure that left the context in place,
if one did. -/
structure CacheConn where
  dbNum : Int
  cacheContext : Option Nat
  lastConnectTime : UInt64
  alive : Bool
  nextContext : Nat
  log : List Entry
  leftBy : Option Failure
deriving DecidableEq, Repr

def new (dbNum : Int) : CacheConn :=
  ⟨dbNum, none, 0, true, 0, [], none⟩

namespace CacheConn

def record (conn : CacheConn) (entry : Entry) : CacheConn :=
  { conn with log := entry :: conn.log }

/-- Freeing no context does nothing. -/
def redisFree (conn : CacheConn) : CacheConn :=
  match conn.cacheContext with
  | none => conn
  | some context => conn.record (.freed context)

/-- `redisFree` and a null pointer after it. -/
def drop (conn : CacheConn) : CacheConn :=
  { conn.redisFree with cacheContext := none, leftBy := none }

def redisConnect (conn : CacheConn) : CacheConn :=
  { conn with
    cacheContext := some conn.nextContext
    nextContext := conn.nextContext + 1
    log := .connected conn.nextContext :: conn.log }

def select (conn : CacheConn) (ok : Bool) : CacheConn :=
  match conn.cacheContext with
  | none => conn
  | some context => conn.record (.selected context conn.dbNum ok)

def redisCommand (conn : CacheConn) (request : Request) : CacheConn :=
  conn.record (.command conn.cacheContext request)

def leave (conn : CacheConn) (failure : Failure) : CacheConn :=
  { conn with leftBy := some failure }

/-- `~CacheConn` -/
def destroy (conn : CacheConn) : CacheConn :=
  { conn.drop with alive := false }

/-- A status reply that starts with `OK`. -/
def isOk (reply : RedisReply) : Bool :=
  reply.type == .status && "OK".toList.isPrefixOf reply.str.toList

def init (conn : CacheConn) (env : Env) : Nat × CacheConn :=
  if conn.cacheContext.isSome then (0, conn)
  else if env.curTime < conn.lastConnectTime + 4 then (1, conn)
  else
    let tried := { conn with lastConnectTime := env.curTime }
    match env.connected with
    | .null => (1, tried)
    | .err => (1, tried.redisConnect.drop)
    | .context =>
        if env.selected.any isOk then (0, tried.redisConnect.select true)
        else (2, (tried.redisConnect.select false).leave .select)

section Operations

variable {Result : Type}

/-- What the operations share: `init`, the command, if there is one, and the reply. A lost reply
drops the context. -/
def operate (conn : CacheConn) (env : Env) (request : Option Request) (failed : Result)
    (read : RedisReply → Result) : Result × CacheConn :=
  match conn.init env with
  | (0, ready) =>
      match request with
      | none => (failed, ready)
      | some request =>
          match env.reply with
          | none => (failed, (ready.redisCommand request).drop)
          | some reply => (read reply, ready.redisCommand request)
  | (_, conn) => (failed, conn)

/-! ### Strings -/

def stringOf (reply : RedisReply) : String :=
  if reply.type = .string then reply.str else ""

def get (conn : CacheConn) (env : Env) (key : String) : String × CacheConn :=
  conn.operate env (some (.format "GET %s" [.text key])) "" stringOf

def setex (conn : CacheConn) (env : Env) (key : String) (timeout : Int) (value : String) :
    String × CacheConn :=
  conn.operate env (some (.format "SETEX %s %d %s" [.text key, .number timeout, .text value])) ""
    RedisReply.str

def set (conn : CacheConn) (env : Env) (key value : String) : String × CacheConn :=
  conn.operate env (some (.format "SET %s %s" [.text key, .text value])) "" RedisReply.str

/-- No command without keys, or for one empty key. -/
def mgetRequest (keys : List String) : Option Request :=
  if keys.isEmpty then none
  else if (" ".intercalate keys).isEmpty then none
  else some (.format ("MGET " ++ " ".intercalate keys) [])

def mget (conn : CacheConn) (env : Env) (keys : List String) (ret : Std.TreeMap String String) :
    (Bool × Std.TreeMap String String) × CacheConn :=
  conn.operate env (mgetRequest keys) (false, ret) fun reply =>
    (true,
      if reply.type = .array then
        (keys.zip reply.element).foldl
          (fun ret entry =>
            if entry.2.type = .string then ret.insert entry.1 entry.2.str else ret) ret
      else ret)

/-- A lost reply frees the context and does not drop it. -/
def isExists (conn : CacheConn) (env : Env) (key : String) : Bool × CacheConn :=
  match conn.init env with
  | (0, ready) =>
      let asked := ready.redisCommand (.format "EXISTS %s" [.text key])
      match env.reply with
      | none => (false, asked.redisFree.leave .exists)
      | some reply => (reply.integer != 0, asked)
  | (_, conn) => (false, conn)

/-! ### Hashes -/

def hdel (conn : CacheConn) (env : Env) (key field : String) : Int × CacheConn :=
  conn.operate env (some (.format "HDEL %s %s" [.text key, .text field])) 0 RedisReply.integer

def hget (conn : CacheConn) (env : Env) (key field : String) : String × CacheConn :=
  conn.operate env (some (.format "HGET %s %s" [.text key, .text field])) "" stringOf

/-- Field and value by turns. -/
def pairs : List Element → List (String × String)
  | field :: value :: rest => (field.str, value.str) :: pairs rest
  | _ => []

def hgetAll (conn : CacheConn) (env : Env) (key : String) (ret : Std.TreeMap String String) :
    (Bool × Std.TreeMap String String) × CacheConn :=
  conn.operate env (some (.format "HGETALL %s" [.text key])) (false, ret) fun reply =>
    (true,
      if reply.type = .array ∧ reply.element.length % 2 = 0 then
        (pairs reply.element).foldl (fun ret pair => ret.insertIfNew pair.1 pair.2) ret
      else ret)

def hset (conn : CacheConn) (env : Env) (key field value : String) : Int × CacheConn :=
  conn.operate env (some (.format "HSET %s %s %s" [.text key, .text field, .text value])) (-1)
    RedisReply.integer

def hincrBy (conn : CacheConn) (env : Env) (key field : String) (value : Int) : Int × CacheConn :=
  conn.operate env (some (.format "HINCRBY %s %s %ld" [.text key, .text field, .number value])) (-1)
    RedisReply.integer

def hmset (conn : CacheConn) (env : Env) (key : String) (hash : Std.TreeMap String String) :
    String × CacheConn :=
  conn.operate env
    (some (.argv ("HMSET" :: key :: hash.toList.flatMap fun entry => [entry.1, entry.2]))) ""
    RedisReply.str

/-- The elements of an array, behind what is there. -/
def appendElements (ret : List String) (reply : RedisReply) : Bool × List String :=
  (true, if reply.type = .array then ret ++ reply.element.map Element.str else ret)

def hmget (conn : CacheConn) (env : Env) (key : String) (fields ret : List String) :
    (Bool × List String) × CacheConn :=
  conn.operate env (some (.argv ("HMGET" :: key :: fields))) (false, ret) (appendElements ret)

/-! ### Counters and lists -/

def incrBy (conn : CacheConn) (env : Env) (key : String) (value : Int) : Int × CacheConn :=
  conn.operate env (some (.format "INCRBY %s %ld" [.text key, .number value])) (-1)
    RedisReply.integer

def incr (conn : CacheConn) (env : Env) (key : String) : Int × CacheConn :=
  conn.operate env (some (.format "INCR %s" [.text key])) (-1) RedisReply.integer

def decr (conn : CacheConn) (env : Env) (key : String) : Int × CacheConn :=
  conn.operate env (some (.format "DECR %s" [.text key])) (-1) RedisReply.integer

def lpush (conn : CacheConn) (env : Env) (key value : String) : Int × CacheConn :=
  conn.operate env (some (.format "LPUSH %s %s" [.text key, .text value])) (-1) RedisReply.integer

def rpush (conn : CacheConn) (env : Env) (key value : String) : Int × CacheConn :=
  conn.operate env (some (.format "RPUSH %s %s" [.text key, .text value])) (-1) RedisReply.integer

def llen (conn : CacheConn) (env : Env) (key : String) : Int × CacheConn :=
  conn.operate env (some (.format "LLEN %s" [.text key])) (-1) RedisReply.integer

def lrange (conn : CacheConn) (env : Env) (key : String) (start last : Int) (ret : List String) :
    (Bool × List String) × CacheConn :=
  conn.operate env (some (.format "LRANGE %s %d %d" [.text key, .number start, .number last]))
    (false, ret) (appendElements ret)

end Operations

end CacheConn

/-! ### Runs -/

inductive Op where
  | init
  | get (key : String)
  | setex (key : String) (timeout : Int) (value : String)
  | set (key value : String)
  | mget (keys : List String) (ret : Std.TreeMap String String)
  | isExists (key : String)
  | hdel (key field : String)
  | hget (key field : String)
  | hgetAll (key : String) (ret : Std.TreeMap String String)
  | hset (key field value : String)
  | hincrBy (key field : String) (value : Int)
  | incrBy (key : String) (value : Int)
  | hmset (key : String) (hash : Std.TreeMap String String)
  | hmget (key : String) (fields ret : List String)
  | incr (key : String)
  | decr (key : String)
  | lpush (key value : String)
  | rpush (key value : String)
  | llen (key : String)
  | lrange (key : String) (start last : Int) (ret : List String)
  | destroy

/-- The connection after an operation. -/
def perform (conn : CacheConn) (env : Env) : Op → CacheConn
  | .init => (conn.init env).2
  | .get key => (conn.get env key).2
  | .setex key timeout value => (conn.setex env key timeout value).2
  | .set key value => (conn.set env key value).2
  | .mget keys ret => (conn.mget env keys ret).2
  | .isExists key => (conn.isExists env key).2
  | .hdel key field => (conn.hdel env key field).2
  | .hget key field => (conn.hget env key field).2
  | .hgetAll key ret => (conn.hgetAll env key ret).2
  | .hset key field value => (conn.hset env key field value).2
  | .hincrBy key field value => (conn.hincrBy env key field value).2
  | .incrBy key value => (conn.incrBy env key value).2
  | .hmset key hash => (conn.hmset env key hash).2
  | .hmget key fields ret => (conn.hmget env key fields ret).2
  | .incr key => (conn.incr env key).2
  | .decr key => (conn.decr env key).2
  | .lpush key value => (conn.lpush env key value).2
  | .rpush key value => (conn.rpush env key value).2
  | .llen key => (conn.llen env key).2
  | .lrange key start last ret => (conn.lrange env key start last ret).2
  | .destroy => conn.destroy

/-- Nothing is called on a destroyed connection. -/
def step (conn : CacheConn) (event : Env × Op) : CacheConn :=
  if conn.alive then perform conn event.1 event.2 else conn

/-! ### Valid contexts -/

/-- The context was made and not freed. -/
def Live (log : List Entry) (context : Nat) : Prop :=
  .connected context ∈ log ∧ .freed context ∉ log

/-- `SELECT` of the database was answered with `OK`. -/
def Selected (dbNum : Int) (log : List Entry) (context : Nat) : Prop :=
  .selected context dbNum true ∈ log

/-- Each command was issued on a live and selected context, and no context was freed twice. -/
def Valid (dbNum : Int) : List Entry → Prop
  | [] => True
  | .command context _ :: past =>
      (∃ valid, context = some valid ∧ Live past valid ∧ Selected dbNum past valid) ∧
        Valid dbNum past
  | .freed context :: past => .freed context ∉ past ∧ Valid dbNum past
  | .connected _ :: past => Valid dbNum past
  | .selected _ _ _ :: past => Valid dbNum past

/-- The operation issues a command when `init` succeeds. -/
def Op.commands : Op → Bool
  | .init | .destroy => false
  | .mget keys _ => (CacheConn.mgetRequest keys).isSome
  | _ => true

/-- A context that one of the failures left in place is not used: after a failed `SELECT` no
command is issued, and after the lost reply of `EXISTS` the connection is not destroyed either. -/
def Spared (conn : CacheConn) (event : Env × Op) : Prop :=
  conn.alive = true → match conn.leftBy with
  | none => True
  | some .select => event.2.commands = false
  | some .exists => event.2.commands = false ∧ event.2 ≠ .destroy

/-- No `SELECT` fails, and the reply of `EXISTS` is not lost. -/
def Answered (event : Env × Op) : Prop :=
  event.1.selected.any CacheConn.isOk = true ∧
    ∀ key, event.2 = .isExists key → event.1.reply.isSome = true

/-! ### Logs -/

section Logs

variable {dbNum : Int} {log later : List Entry} {context : Nat}

theorem Valid.tail {entry : Entry} (valid : Valid dbNum (entry :: log)) : Valid dbNum log := by
  cases entry with
  | command => exact valid.2
  | freed => exact valid.2
  | connected => exact valid
  | selected => exact valid

/-- What was done before was valid, too. -/
theorem Valid.of_append (valid : Valid dbNum (later ++ log)) : Valid dbNum log := by
  induction later with
  | nil => exact valid
  | cons entry rest inductionHypothesis => exact inductionHypothesis valid.tail

/-- The context that an entry is about, when it is not a command. -/
def Entry.about : Entry → Option Nat
  | .connected context => some context
  | .selected context _ _ => some context
  | .freed context => some context
  | .command _ _ => none

/-- What the log says about the context that is held. -/
def Holds (dbNum : Int) (log : List Entry) (held : Option Nat) : Option Failure → Prop
  | none => ∀ context, held = some context → Live log context ∧ Selected dbNum log context
  | some .select => ∃ context, held = some context ∧ Live log context ∧
      ¬Selected dbNum log context
  | some .exists => ∃ context, held = some context ∧ .freed context ∈ log

theorem Live.command {context : Nat} {other : Option Nat} {request : Request}
    (live : Live log context) : Live (.command other request :: log) context := by
  refine ⟨List.mem_cons_of_mem _ live.1, ?_⟩
  intro member
  rcases List.mem_cons.mp member with same | before
  · cases same
  · exact live.2 before

theorem Live.selected {context other : Nat} {ok : Bool} (live : Live log context) :
    Live (.selected other dbNum ok :: log) context := by
  refine ⟨List.mem_cons_of_mem _ live.1, ?_⟩
  intro member
  rcases List.mem_cons.mp member with same | before
  · cases same
  · exact live.2 before

end Logs

/-! ### The invariant -/

/-- The log is valid, and about contexts that were made. -/
structure Logged (conn : CacheConn) : Prop where
  valid : Valid conn.dbNum conn.log
  known : ∀ entry ∈ conn.log, ∀ context, entry.about = some context → context < conn.nextContext

structure Sound (conn : CacheConn) : Prop extends Logged conn where
  holds : Holds conn.dbNum conn.log conn.cacheContext conn.leftBy

/-- The context that is held may be used. -/
structure Ready (conn : CacheConn) : Prop extends Sound conn where
  unspoilt : conn.leftBy = none
  held : conn.cacheContext.isSome = true

theorem Ready.usable {conn : CacheConn} {context : Nat} (ready : Ready conn)
    (held : conn.cacheContext = some context) :
    Live conn.log context ∧ Selected conn.dbNum conn.log context := by
  have holds := ready.holds
  rw [ready.unspoilt] at holds
  exact holds context held

theorem sound_new (dbNum : Int) : Sound (new dbNum) where
  valid := trivial
  known := fun _ member => absurd member List.not_mem_nil
  holds := fun _ held => nomatch held

section Steps

variable {conn : CacheConn} {env : Env} {context : Nat}

namespace Logged

/-- What is about a context that was not made is not in the log. -/
theorem not_mem_log (logged : Logged conn) {entry : Entry}
    (about : entry.about = some conn.nextContext) : entry ∉ conn.log :=
  fun member => Nat.lt_irrefl _ (logged.known entry member _ about)

/-- A log gets longer by an entry about a context that was made. -/
theorem known_cons (logged : Logged conn) {entry : Entry}
    (about : ∀ context, entry.about = some context → context < conn.nextContext) :
    ∀ member ∈ entry :: conn.log, ∀ context, member.about = some context →
      context < conn.nextContext := by
  intro member among
  rcases List.mem_cons.mp among with rfl | before
  · exact about
  · exact logged.known member before

theorem known_of_live (logged : Logged conn) (live : Live conn.log context) :
    ∀ other, some context = some other → other < conn.nextContext := by
  intro other same
  rw [← Option.some.inj same]
  exact logged.known _ live.1 _ rfl

/-- A live context may be freed. -/
theorem redisFree (logged : Logged conn) (held : conn.cacheContext = some context)
    (live : Live conn.log context) :
    conn.redisFree = conn.record (.freed context) ∧ Logged (conn.record (.freed context)) := by
  refine ⟨?_, ⟨live.2, logged.valid⟩, logged.known_cons (logged.known_of_live live)⟩
  unfold CacheConn.redisFree
  rw [held]

theorem drop (logged : Logged conn) (held : conn.cacheContext = some context)
    (live : Live conn.log context) : Sound conn.drop := by
  obtain ⟨same, freed⟩ := logged.redisFree held live
  unfold CacheConn.drop
  rw [same]
  exact ⟨⟨freed.valid, freed.known⟩, fun _ none => nomatch none⟩

theorem drop_of_none (logged : Logged conn) (none : conn.cacheContext = none) :
    Sound conn.drop := by
  have same : conn.redisFree = conn := by
    unfold CacheConn.redisFree
    rw [none]
  unfold CacheConn.drop
  rw [same]
  exact ⟨⟨logged.valid, logged.known⟩, fun _ none => nomatch none⟩

/-- A context that is made now is live, and no `SELECT` was issued on it. -/
theorem redisConnect (logged : Logged conn) :
    Logged conn.redisConnect ∧ Live conn.redisConnect.log conn.nextContext ∧
      ∀ ok, .selected conn.nextContext conn.dbNum ok ∉ conn.redisConnect.log := by
  refine ⟨⟨logged.valid, ?_⟩, ⟨List.mem_cons_self, ?_⟩, ?_⟩
  · intro entry member context about
    rcases List.mem_cons.mp member with rfl | before
    · rw [← Option.some.inj about]
      exact Nat.lt_succ_self _
    · exact Nat.lt_succ_of_lt (logged.known entry before context about)
  · intro member
    rcases List.mem_cons.mp member with same | before
    · cases same
    · exact logged.not_mem_log rfl before
  · intro ok member
    rcases List.mem_cons.mp member with same | before
    · cases same
    · exact logged.not_mem_log rfl before

end Logged

/-! ### `init` -/

/-- `SELECT` is issued on the context that was made. -/
theorem Logged.connected (logged : Logged conn) (ok : Bool) :
    Logged (conn.redisConnect.select ok) ∧
      Live (conn.redisConnect.select ok).log conn.nextContext := by
  obtain ⟨made, live, _⟩ := logged.redisConnect
  exact ⟨⟨made.valid, made.known_cons (made.known_of_live live)⟩, live.selected⟩

theorem Logged.ready_select (logged : Logged conn) (unspoilt : conn.leftBy = none) :
    Ready (conn.redisConnect.select true) := by
  obtain ⟨after, live⟩ := logged.connected true
  refine ⟨⟨after, ?_⟩, unspoilt, rfl⟩
  show Holds conn.dbNum _ (some conn.nextContext) conn.leftBy
  rw [unspoilt]
  intro context held
  rw [← Option.some.inj held]
  exact ⟨live, List.mem_cons_self⟩

/-- After a failed `SELECT` a context without one is held. -/
theorem Logged.leave_select (logged : Logged conn) :
    Sound ((conn.redisConnect.select false).leave .select) := by
  obtain ⟨after, live⟩ := logged.connected false
  refine ⟨⟨after.valid, after.known⟩, ⟨conn.nextContext, rfl, live, ?_⟩⟩
  intro member
  rcases List.mem_cons.mp member with same | before
  · cases same
  · exact logged.redisConnect.2.2 true before

/-- `init` gets a context that may be used, or one that nothing is issued on now. -/
theorem Sound.init (sound : Sound conn) (unspoilt : conn.leftBy = none) (env : Env) :
    Sound (conn.init env).2 ∧ ((conn.init env).1 = 0 → Ready (conn.init env).2) := by
  unfold CacheConn.init
  split
  · rename_i held
    exact ⟨sound, fun _ => ⟨sound, unspoilt, held⟩⟩
  · rename_i notHeld
    have none : conn.cacheContext = none := Option.not_isSome_iff_eq_none.mp notHeld
    split
    · exact ⟨sound, fun wrong => absurd wrong Nat.one_ne_zero⟩
    · have tried : Logged { conn with lastConnectTime := env.curTime } :=
        ⟨sound.valid, sound.known⟩
      dsimp only
      split
      · exact ⟨⟨tried, sound.holds⟩, fun wrong => absurd wrong Nat.one_ne_zero⟩
      · obtain ⟨made, live, _⟩ := tried.redisConnect
        exact ⟨made.drop rfl live, fun wrong => absurd wrong Nat.one_ne_zero⟩
      · split
        · have ready : Ready (CacheConn.select _ true) := tried.ready_select unspoilt
          exact ⟨ready.toSound, fun _ => ready⟩
        · exact ⟨tried.leave_select, fun wrong => absurd wrong (Nat.succ_ne_zero 1)⟩

/-! ### Commands -/

theorem Ready.command (ready : Ready conn) (request : Request) :
    Ready (conn.redisCommand request) where
  valid := by
    obtain ⟨context, held⟩ := Option.isSome_iff_exists.mp ready.held
    exact ⟨⟨context, held, ready.usable held⟩, ready.valid⟩
  known := ready.known_cons fun _ about => nomatch about
  holds := by
    show Holds conn.dbNum _ conn.cacheContext conn.leftBy
    rw [ready.unspoilt]
    intro context held
    have usable := ready.usable held
    exact ⟨usable.1.command, List.mem_cons_of_mem _ usable.2⟩
  unspoilt := ready.unspoilt
  held := ready.held

theorem Ready.drop (ready : Ready conn) : Sound conn.drop := by
  obtain ⟨context, held⟩ := Option.isSome_iff_exists.mp ready.held
  exact ready.toLogged.drop held (ready.usable held).1

/-- After the lost reply of `EXISTS` a freed context is held. -/
theorem Ready.leave_freed (ready : Ready conn) : Sound (conn.redisFree.leave .exists) := by
  obtain ⟨context, held⟩ := Option.isSome_iff_exists.mp ready.held
  obtain ⟨same, freed⟩ := ready.redisFree held (ready.usable held).1
  rw [same]
  exact ⟨⟨freed.valid, freed.known⟩, ⟨context, held, List.mem_cons_self⟩⟩

/-! ### Operations -/

/-- What an operation does with the connection, where `lost` is done when the reply is lost. -/
def attempt (conn : CacheConn) (env : Env) (request : Option Request)
    (lost : CacheConn → CacheConn) : CacheConn :=
  match conn.init env with
  | (0, ready) =>
      match request with
      | none => ready
      | some request =>
          if env.reply.isSome then ready.redisCommand request
          else lost (ready.redisCommand request)
  | (_, conn) => conn

theorem operate_snd {Result : Type} (request : Option Request) (failed : Result)
    (read : RedisReply → Result) :
    (conn.operate env request failed read).2 = attempt conn env request CacheConn.drop := by
  unfold CacheConn.operate attempt
  split
  · cases request with
    | none => rfl
    | some request => cases env.reply <;> rfl
  · rfl

theorem isExists_snd (key : String) :
    (conn.isExists env key).2 =
      attempt conn env (some (.format "EXISTS %s" [.text key]))
        fun conn => conn.redisFree.leave .exists := by
  unfold CacheConn.isExists attempt
  split
  · cases env.reply <;> rfl
  · rfl

def Op.lost : Op → CacheConn → CacheConn
  | .isExists _ => fun conn => conn.redisFree.leave .exists
  | _ => CacheConn.drop

/-- Every operation is an attempt, with a command or without. -/
theorem perform_eq_attempt (conn : CacheConn) (env : Env) {op : Op} (other : op ≠ .destroy) :
    ∃ request, request.isSome = op.commands ∧
      perform conn env op = attempt conn env request op.lost := by
  cases op with
  | init =>
      refine ⟨none, rfl, ?_⟩
      show (conn.init env).2 = attempt conn env none CacheConn.drop
      unfold attempt
      rcases conn.init env with ⟨_ | failure, after⟩ <;> rfl
  | destroy => exact absurd rfl other
  | isExists key => exact ⟨_, rfl, isExists_snd key⟩
  | mget keys ret => exact ⟨CacheConn.mgetRequest keys, rfl, operate_snd ..⟩
  | _ => exact ⟨some _, rfl, operate_snd ..⟩

theorem Ready.lost (ready : Ready conn) (op : Op) : Sound (op.lost conn) := by
  cases op with
  | isExists key => exact ready.leave_freed
  | _ => exact ready.drop

theorem Sound.attempt (sound : Sound conn) (unspoilt : conn.leftBy = none)
    (request : Option Request) (op : Op) : Sound (attempt conn env request op.lost) := by
  have initialized := sound.init unspoilt env
  unfold CacheContext.attempt
  split
  · rename_i ready result
    rw [result] at initialized
    have ready := initialized.2 rfl
    cases request with
    | none => exact ready.toSound
    | some request =>
        dsimp only
        split
        · exact (ready.command request).toSound
        · exact (ready.command request).lost op
  · rename_i result
    rw [result] at initialized
    exact initialized.1

/-- What a lost reply leads to comes on top of the log. -/
theorem lost_log (conn : CacheConn) (op : Op) : ∃ later, (op.lost conn).log = later ++ conn.log := by
  have freed : ∃ later, conn.redisFree.log = later ++ conn.log := by
    unfold CacheConn.redisFree
    split
    · exact ⟨[], rfl⟩
    · exact ⟨[_], rfl⟩
  cases op with
  | isExists key => exact freed
  | _ => exact freed

theorem lost_dbNum (conn : CacheConn) (op : Op) : (op.lost conn).dbNum = conn.dbNum := by
  have freed : conn.redisFree.dbNum = conn.dbNum := by
    unfold CacheConn.redisFree
    split <;> rfl
  cases op with
  | isExists key => exact freed
  | _ => exact freed

/-- With a context that is held `init` does nothing. -/
theorem attempt_of_held (held : conn.cacheContext = some context) (request : Option Request)
    (lost : CacheConn → CacheConn) :
    attempt conn env request lost =
      match request with
      | none => conn
      | some request =>
          if env.reply.isSome then conn.redisCommand request
          else lost (conn.redisCommand request) := by
  unfold attempt CacheConn.init
  rw [if_pos (Option.isSome_iff_exists.mpr ⟨context, held⟩)]
  rfl

/-- A context that is held is what the command goes to. -/
theorem usable_of_attempt (held : conn.cacheContext = some context) {op : Op} {request : Request}
    (valid : Valid (attempt conn env (some request) op.lost).dbNum
      (attempt conn env (some request) op.lost).log) :
    Live conn.log context ∧ Selected conn.dbNum conn.log context := by
  have commanded : Valid conn.dbNum (conn.redisCommand request).log := by
    rw [attempt_of_held held] at valid
    dsimp only at valid
    split at valid
    · exact valid
    · obtain ⟨later, log⟩ := lost_log (conn.redisCommand request) op
      rw [lost_dbNum, log] at valid
      exact valid.of_append
  obtain ⟨⟨other, same, usable⟩, _⟩ := commanded
  rw [held] at same
  rw [Option.some.inj same]
  exact usable

/-! ### Steps -/

theorem Sound.destroy (sound : Sound conn) (unfreed : conn.leftBy ≠ some .exists) :
    Sound conn.destroy := by
  have dropped : Sound conn.drop := by
    have holds := sound.holds
    rcases left : conn.leftBy with _ | _ | _
    · cases held : conn.cacheContext with
      | none => exact sound.drop_of_none held
      | some context =>
          rw [left] at holds
          exact sound.toLogged.drop held (holds context held).1
    · rw [left] at holds
      obtain ⟨context, held, live, _⟩ := holds
      exact sound.toLogged.drop held live
    · exact absurd left unfreed
  exact ⟨⟨dropped.valid, dropped.known⟩, dropped.holds⟩

/-- One of the failures left a context in place. -/
theorem Sound.held_of_left (sound : Sound conn) {failure : Failure}
    (left : conn.leftBy = some failure) :
    ∃ context, conn.cacheContext = some context ∧
      ¬(Live conn.log context ∧ Selected conn.dbNum conn.log context) := by
  have holds := sound.holds
  rw [left] at holds
  cases failure with
  | select =>
      obtain ⟨context, held, _, unselected⟩ := holds
      exact ⟨context, held, fun usable => unselected usable.2⟩
  | «exists» =>
      obtain ⟨context, held, freed⟩ := holds
      exact ⟨context, held, fun usable => usable.1.2 freed⟩

/-- Without a command the context that is held stays. -/
theorem Sound.quiet (sound : Sound conn) {failure : Failure} (left : conn.leftBy = some failure)
    {op : Op} (other : op ≠ .destroy) (quiet : op.commands = false) :
    perform conn env op = conn := by
  obtain ⟨context, held, _⟩ := sound.held_of_left left
  obtain ⟨request, issued, same⟩ := perform_eq_attempt conn env other
  rw [quiet, Option.isSome_eq_false_iff, Option.isNone_iff_eq_none] at issued
  rw [same, issued, attempt_of_held held]

/-- A command goes to the context that was left in place. -/
theorem Sound.not_valid_command (sound : Sound conn) {failure : Failure}
    (left : conn.leftBy = some failure) {op : Op} (commands : op.commands = true) :
    ¬Valid (perform conn env op).dbNum (perform conn env op).log := by
  obtain ⟨context, held, unusable⟩ := sound.held_of_left left
  have other : op ≠ .destroy := by
    intro same
    rw [same] at commands
    cases commands
  obtain ⟨request, issued, same⟩ := perform_eq_attempt conn env other
  rw [commands] at issued
  obtain ⟨request, rfl⟩ := Option.isSome_iff_exists.mp issued
  rw [same]
  exact fun valid => unusable (usable_of_attempt held valid)

/-- A freed context that is held is freed again by the destructor. -/
theorem Sound.not_valid_destroy (sound : Sound conn) (left : conn.leftBy = some .exists) :
    ¬Valid conn.destroy.dbNum conn.destroy.log := by
  have holds := sound.holds
  rw [left] at holds
  obtain ⟨context, held, freed⟩ := holds
  have log : conn.destroy.log = .freed context :: conn.log := by
    show conn.redisFree.log = _
    unfold CacheConn.redisFree
    rw [held]
    rfl
  rw [log]
  exact fun valid => valid.1 freed

theorem Sound.step (sound : Sound conn) {event : Env × Op} (spared : Spared conn event) :
    Sound (step conn event) := by
  obtain ⟨env, op⟩ := event
  unfold CacheContext.step
  split
  · rename_i alive
    have spared := spared alive
    by_cases ends : op = .destroy
    · subst ends
      refine sound.destroy ?_
      intro left
      rw [left] at spared
      exact spared.2 rfl
    · show Sound (perform conn env op)
      cases left : conn.leftBy with
      | none =>
          obtain ⟨request, _, same⟩ := perform_eq_attempt conn env ends
          rw [same]
          exact sound.attempt left request op
      | some failure =>
          have quiet : op.commands = false := by
            rw [left] at spared
            cases failure with
            | select => exact spared
            | «exists» => exact spared.1
          rw [sound.quiet left ends quiet]
          exact sound
  · exact sound

/-- A step keeps the log valid exactly when it spares the context that was left in place. -/
theorem Sound.valid_step_iff (sound : Sound conn) (event : Env × Op) :
    Valid (CacheContext.step conn event).dbNum (CacheContext.step conn event).log ↔
      Spared conn event := by
  constructor
  · intro valid alive
    unfold CacheContext.step at valid
    rw [if_pos alive] at valid
    rcases left : conn.leftBy with _ | failure
    · trivial
    · have quiet : event.2.commands = false := by
        by_contra commands
        exact sound.not_valid_command left (Bool.not_eq_false _ ▸ commands) valid
      cases failure with
      | select => exact quiet
      | «exists» =>
          refine ⟨quiet, ?_⟩
          intro ends
          rw [ends] at valid
          exact sound.not_valid_destroy left valid
  · exact fun spared => (sound.step spared).valid

/-! ### Answered commands -/

theorem init_unspoilt (unspoilt : conn.leftBy = none)
    (answered : env.selected.any CacheConn.isOk = true) : (conn.init env).2.leftBy = none := by
  unfold CacheConn.init
  split
  · exact unspoilt
  · split
    · exact unspoilt
    · dsimp only
      split
      · exact unspoilt
      · rfl
      · exact unspoilt

theorem step_unspoilt (unspoilt : conn.leftBy = none) {event : Env × Op}
    (answered : Answered event) : (step conn event).leftBy = none := by
  obtain ⟨env, op⟩ := event
  unfold step
  split
  · by_cases ends : op = .destroy
    · rw [ends]
      rfl
    · obtain ⟨request, _, same⟩ := perform_eq_attempt conn env ends
      have initialized := init_unspoilt unspoilt answered.1
      show (perform conn env op).leftBy = none
      rw [same]
      unfold attempt
      split
      · rename_i result
        rw [result] at initialized
        cases request with
        | none => exact initialized
        | some request =>
            dsimp only
            split
            · exact initialized
            · rename_i lost
              cases op with
              | isExists key => exact absurd (answered.2 key rfl) lost
              | _ => rfl
      · rename_i result
        rw [result] at initialized
        exact initialized
  · exact unspoilt

end Steps

/-! ### All runs -/

/-- All along a run commands go to live and selected contexts and no context is freed twice,
exactly when no step of it uses a context that a failed `SELECT` or a lost reply of `EXISTS` left
in place. -/
theorem always_valid_iff_spared (dbNum : Int) (events : List (Env × Op)) :
    Always step (fun conn => Valid conn.dbNum conn.log) (new dbNum) events ↔
      Meets step Spared (new dbNum) events :=
  always_iff_meets (fun _ event sound _ => Sound.valid_step_iff sound event)
    (fun _ _ sound _ spared => Sound.step sound spared) (fun _ sound => sound.valid) events
    (sound_new dbNum) (meets_true _ _ _)

/-- While every `SELECT` is answered with `OK` and every `EXISTS` is answered, no context is left
in place. -/
theorem sound_of_answered {dbNum : Int} {conn : CacheConn}
    (reach : Reach step (fun _ event => Answered event) (new dbNum) conn) :
    Sound conn ∧ conn.leftBy = none := by
  refine reach.invariant (fun conn => Sound conn ∧ conn.leftBy = none) ⟨sound_new dbNum, rfl⟩ ?_
  rintro conn event ⟨sound, unspoilt⟩ answered
  have spared : Spared conn event := by
    intro _
    rw [unspoilt]
    trivial
  exact ⟨sound.step spared, step_unspoilt unspoilt answered⟩

def answering (reply : Option RedisReply) : Env :=
  ⟨1000, .context, some ⟨.status, 0, "OK", []⟩, reply⟩

/-- The reply of `EXISTS` is lost, and the connection is used again. -/
def lostExists : List (Env × Op) :=
  [(answering none, .isExists "key"), (answering none, .get "key")]

theorem lostExists_not_valid :
    ¬Always step (fun conn => Valid conn.dbNum conn.log) (new 0) lostExists := by
  intro always
  have log : (step (step (new 0) (answering none, .isExists "key")) (answering none, .get "key")).log =
      [.freed 0, .command (some 0) (.format "GET %s" [.text "key"]), .freed 0,
        .command (some 0) (.format "EXISTS %s" [.text "key"]), .selected 0 0 true, .connected 0] := by
    decide
  have last : Valid _ _ := always.2.2
  rw [log] at last
  exact last.1 (List.mem_cons_of_mem _ List.mem_cons_self)

end CacheContext

end AChat.DbProxy
