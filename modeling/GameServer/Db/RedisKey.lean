import GameServer.Db.TransactionExecutor

/-!
# Names in Redis

All zones share one Redis. A key belongs to the zone that it is prefixed with, and to the
shard that it hashes to. Before a command is sent its keys are looked up in its arguments:
a short table says where they are, and for every command that is not in the table the
first argument is taken for its only key.
-/

namespace Db

open Gateway (Bytes text)

/-- `SplitMix64`. -/
def splitMix64 (x : UInt64) : UInt64 :=
  let x := x + 0x9E3779B97F4A7C15
  let x := (x ^^^ (x >>> 30)) * 0xBF58476D1CE4E5B9
  let x := (x ^^^ (x >>> 27)) * 0x94D049BB133111EB
  x ^^^ (x >>> 31)

def hashKey (s : Bytes) : UInt64 :=
  splitMix64 (s.foldl (fun h c => (h ^^^ c.toUInt64) * 0x100000001B3) 0xCBF29CE484222325)

structure RedisNamespace where
  zoneId : Nat := 0
  sceneId : Nat := 0
  deriving DecidableEq, Repr

namespace RedisNamespace

variable (ns : RedisNamespace)

def valid : Bool := ns.zoneId ≠ 0

def zonePrefix : Bytes := text "zone:" ++ decimal ns.zoneId ++ text ":"

def scenePrefix : Bytes :=
  if ns.sceneId = 0 then ns.zonePrefix
  else ns.zonePrefix ++ text "scene:" ++ decimal ns.sceneId ++ text ":"

def zoneKey (name : Bytes) : Bytes := ns.zonePrefix ++ name

def sceneKey (name : Bytes) : Bytes := ns.scenePrefix ++ name

/-- A player takes its keys along from scene to scene. -/
def playerKey (playerId : Nat) (name : Bytes) : Bytes :=
  ns.zonePrefix ++ text "player:" ++ decimal playerId ++ text ":" ++ name

def owns (key : Bytes) : Bool := ns.valid && ns.zonePrefix.isPrefixOf key

end RedisNamespace

inductive RedisKeyShape where
  | noKey
  | singleKey
  | allArgsAreKeys
  | msetPairs
  | evalKeys
  deriving DecidableEq, Repr

/-- `IsNoKeyCommand`. -/
def noKeyCommands : List Bytes :=
  ["PING", "ECHO", "INFO", "TIME", "DBSIZE", "FLUSHALL", "FLUSHDB", "SELECT", "AUTH", "CLIENT",
    "COMMAND", "CONFIG", "LASTSAVE", "SAVE", "BGSAVE", "ROLE", "WAIT", "RANDOMKEY", "UNWATCH",
    "DISCARD", "MULTI", "EXEC", "PUBLISH", "PUBSUB", "SUBSCRIBE", "UNSUBSCRIBE", "PSUBSCRIBE",
    "PUNSUBSCRIBE"].map text

/-- `IsAllArgsKeysCommand`. -/
def allArgsKeysCommands : List Bytes :=
  ["DEL", "UNLINK", "EXISTS", "MGET", "WATCH", "TOUCH", "PFCOUNT", "SDIFF", "SINTER",
    "SUNION"].map text

/-- `IsMsetCommand`. -/
def msetCommands : List Bytes := ["MSET", "MSETNX"].map text

/-- `IsEvalCommand`. -/
def evalCommands : List Bytes := ["EVAL", "EVALSHA", "EVAL_RO", "EVALSHA_RO"].map text

def redisCommandKeyShape (command : Bytes) : RedisKeyShape :=
  let cmd := command.map toUpper
  if cmd ∈ noKeyCommands then .noKey
  else if cmd ∈ allArgsKeysCommands then .allArgsAreKeys
  else if cmd ∈ msetCommands then .msetPairs
  else if cmd ∈ evalCommands then .evalKeys
  else .singleKey

def redisShardOf (key : Bytes) (shardCount : Nat) : Nat :=
  if shardCount ≤ 1 then 0 else (hashKey key).toNat % shardCount

section Numbers

def isSpace (c : UInt8) : Bool := c = 32 ∨ (9 ≤ c ∧ c ≤ 13)

def isDigit (c : UInt8) : Bool := 48 ≤ c ∧ c ≤ 57

def digitsValue (ds : Bytes) : Nat := ds.foldl (fun v d => 10 * v + (d.toNat - 48)) 0

/-- `std::strtol` with base 10: what follows the digits is passed over, and what does not fit is
cut to the bounds. -/
def strtol (s : Bytes) : Int :=
  match s.dropWhile isSpace with
  | 45 :: t => max (-2 ^ 63) (-(digitsValue (t.takeWhile isDigit) : Int))
  | 43 :: t => min (2 ^ 63 - 1) (digitsValue (t.takeWhile isDigit))
  | t => min (2 ^ 63 - 1) (digitsValue (t.takeWhile isDigit))

end Numbers

section Validate

/-- A message about a command. -/
def commandError (command : Bytes) (problem : String) : Bytes :=
  text "redis command '" ++ command ++ text "' " ++ text problem

/-- The positions at which the arguments of a command are taken for keys. -/
def checkedPositions (command : Bytes) (args : List Bytes) : Except Bytes (List Nat) :=
  match redisCommandKeyShape command with
  | .noKey => .ok []
  | .singleKey =>
    if args.length < 2 then .error (commandError command "requires a key") else .ok [1]
  | .allArgsAreKeys =>
    if args.length < 2 then .error (commandError command "requires at least one key")
    else .ok (List.range' 1 (args.length - 1))
  | .msetPairs =>
    if args.length < 3 ∨ (args.length - 1) % 2 ≠ 0 then
      .error (commandError command "requires key/value pairs")
    else .ok (List.range' 1 ((args.length - 1) / 2) 2)
  | .evalKeys =>
    if args.length < 3 then .error (commandError command "requires numkeys")
    else
      let numKeys := strtol (args[2]?.getD [])
      if numKeys < 0 ∨ args.length - 3 < numKeys.toNat then
        .error (commandError command "has invalid numkeys")
      else .ok (List.range' 3 numKeys.toNat)

variable (ns : RedisNamespace) (shardCount : Nat)

/-- The loop over the keys with the shard of those before, if there are any. -/
def checkKeys (first : Bytes) : List Bytes → Option Nat → Except Bytes Nat
  | [], shard => .ok (shard.getD 0)
  | key :: keys, shard =>
    if key.isEmpty then .error (text "redis key must not be empty")
    else if !ns.owns key then
      .error (text "redis key outside namespace: '" ++ key ++
        text "' (use db.key.zone/scene/player)")
    else
      let s := redisShardOf key shardCount
      match shard with
      | none => checkKeys first keys (some s)
      | some shard =>
        if s ≠ shard then
          .error (text "redis multi-key command crosses shards: '" ++ first ++ text "' vs '" ++
            key ++ text "'")
        else checkKeys first keys (some shard)

/-- The name that a command without keys is routed by. -/
def routeKey (args : List Bytes) : Bytes := args[1]?.getD (args.headD [])

/-- The shard that a command goes to, or why it is refused. -/
def validateRedisCommand (args : List Bytes) : Except Bytes Nat :=
  let shardCount := if shardCount = 0 then 1 else shardCount
  match args with
  | [] => .error (text "empty redis command")
  | command :: _ =>
    if command.isEmpty then .error (text "empty redis command")
    else do
      let positions ← checkedPositions command args
      match positions.filterMap (args[·]?) with
      | [] => .ok (redisShardOf (routeKey args) shardCount)
      | first :: keys =>
        if !ns.valid then .error (text "redis namespace not configured (zoneId == 0)")
        else checkKeys ns shardCount first (first :: keys) none

end Validate

section Verification

variable {ns : RedisNamespace} {shardCount shard : Nat} {args : List Bytes}

theorem owns_append (ns : RedisNamespace) (h : ns.valid = true) (s : Bytes) :
    ns.owns (ns.zonePrefix ++ s) = true := by
  unfold RedisNamespace.owns
  rw [h, Bool.true_and, List.isPrefixOf_iff_prefix]
  exact List.prefix_append _ _

theorem scenePrefix_eq (ns : RedisNamespace) : ∃ s, ns.scenePrefix = ns.zonePrefix ++ s := by
  unfold RedisNamespace.scenePrefix
  split
  · exact ⟨[], (List.append_nil _).symm⟩
  · exact ⟨_, by rw [List.append_assoc, List.append_assoc]⟩

/-- The keys that are made for a zone are its own. -/
theorem owns_made (ns : RedisNamespace) (h : ns.valid = true) (playerId : Nat) (name : Bytes) :
    ns.owns (ns.zoneKey name) = true ∧ ns.owns (ns.sceneKey name) = true ∧
      ns.owns (ns.playerKey playerId name) = true := by
  obtain ⟨s, hs⟩ := scenePrefix_eq ns
  have hplayer : ns.playerKey playerId name = ns.zonePrefix ++
      (text "player:" ++ (decimal playerId ++ (text ":" ++ name))) := by
    simp only [RedisNamespace.playerKey, List.append_assoc]
  refine ⟨owns_append ns h name, ?_, ?_⟩
  · rw [RedisNamespace.sceneKey, hs, List.append_assoc]
    exact owns_append ns h (s ++ name)
  · rw [hplayer]
    exact owns_append ns h _

/-- The shard of no shards is that of one. -/
theorem redisShardOf_zero (key : Bytes) :
    redisShardOf key (if shardCount = 0 then 1 else shardCount) = redisShardOf key shardCount := by
  by_cases hzero : shardCount = 0
  · rw [if_pos hzero, hzero, redisShardOf, redisShardOf, if_pos (Nat.le_refl 1),
      if_pos (Nat.zero_le 1)]
  · rw [if_neg hzero]

/-- The keys that pass belong to the zone and to one shard. -/
theorem checkKeys_spec {first : Bytes} {keys : List Bytes} {before : Option Nat}
    (h : checkKeys ns shardCount first keys before = .ok shard) :
    (∀ key ∈ keys, ns.owns key = true ∧ redisShardOf key shardCount = shard) ∧
      ∀ s, before = some s → shard = s := by
  induction keys generalizing before with
  | nil =>
    cases h
    exact ⟨fun _ hkey => (List.not_mem_nil hkey).elim, fun s hs => by rw [hs]; rfl⟩
  | cons key keys ih =>
    unfold checkKeys at h
    split at h
    · cases h
    split at h
    · cases h
    rename_i howns
    have howns : ns.owns key = true := by simpa using howns
    dsimp only at h
    split at h
    · obtain ⟨hall, hshard⟩ := ih h
      have hkey : shard = redisShardOf key shardCount := hshard _ rfl
      exact ⟨List.forall_mem_cons.mpr ⟨⟨howns, hkey.symm⟩, hall⟩, nofun⟩
    · split at h
      · cases h
      rename_i hsame
      obtain ⟨hall, hshard⟩ := ih h
      have hkey := not_not.mp hsame
      refine ⟨List.forall_mem_cons.mpr ⟨⟨howns, hkey.trans (hshard _ rfl).symm⟩, hall⟩, ?_⟩
      rintro s ⟨⟩
      exact hshard _ rfl

end Verification

end Db
