import Mathlib.Data.List.TakeWhile
import GameServer.Db.RedisKey

/-!
# What a checked command can reach

Redis says of each of its commands at which positions the keys are. Here is what it says
of those that have a key elsewhere than in the first argument alone. A command that passes
the check may have keys at positions that the check does not look at, and these may be in
any zone.
-/

namespace Db

open Gateway (Bytes text)

inductive Access where
  | read
  | write
  deriving DecidableEq, Repr

/-- An option of a command: a word with so many arguments, with a key, or with keys up to the end. -/
inductive OptionWord where
  | skip (count : Nat)
  | key
  | keys
  deriving DecidableEq, Repr

/-- Where a command has its keys. -/
inductive KeySpec where
  | none
  | first
  | pair (a b : Access)
  | every (a : Access)
  | into
  | popped
  | alternate
  | counted
  | script (a : Access)
  | stored (options : Nat) (words : List (String × OptionWord))
  | migrated (words : List (String × OptionWord))
  deriving DecidableEq, Repr

namespace Redis

section Documentation

def sortWords : List (String × OptionWord) :=
  [("ASC", .skip 0), ("DESC", .skip 0), ("ALPHA", .skip 0), ("LIMIT", .skip 2), ("BY", .skip 1),
    ("GET", .skip 1), ("STORE", .key)]

def radiusWords : List (String × OptionWord) :=
  [("WITHCOORD", .skip 0), ("WITHDIST", .skip 0), ("WITHHASH", .skip 0), ("ASC", .skip 0),
    ("DESC", .skip 0), ("ANY", .skip 0), ("COUNT", .skip 1), ("STORE", .key), ("STOREDIST", .key)]

def migrateWords : List (String × OptionWord) :=
  [("COPY", .skip 0), ("REPLACE", .skip 0), ("AUTH", .skip 1), ("AUTH2", .skip 2), ("KEYS", .keys)]

/-- The number of arguments, with the command (at least so many if it is negative), and the keys of
the commands of Redis that do not have their only key in the first argument. Commands that take
a number, an operation or a subcommand there are refused with the name of a key, and are left out.
The options of COPY and the directions of LMOVE and BLMOVE are not read: a call that Redis refuses
for them counts with its keys. -/
def documented : List (List String × Int × KeySpec) :=
  [(["PING", "ECHO", "INFO", "TIME", "DBSIZE", "FLUSHALL", "FLUSHDB", "SELECT", "AUTH", "CLIENT",
      "COMMAND", "CONFIG", "LASTSAVE", "SAVE", "BGSAVE", "ROLE", "WAIT", "RANDOMKEY", "UNWATCH",
      "DISCARD", "MULTI", "EXEC", "PUBLISH", "PUBSUB", "SUBSCRIBE", "UNSUBSCRIBE", "PSUBSCRIBE",
      "PUNSUBSCRIBE", "REPLICAOF", "SLAVEOF"], -1, .none),
    (["DEL", "UNLINK", "PFCOUNT"], -2, .every .write),
    (["EXISTS", "MGET", "WATCH", "TOUCH", "SDIFF", "SINTER", "SUNION"], -2, .every .read),
    (["MSET", "MSETNX"], -3, .alternate),
    (["EVAL", "EVALSHA"], -3, .script .write),
    (["EVAL_RO", "EVALSHA_RO"], -3, .script .read),
    (["RENAME", "RENAMENX", "RPOPLPUSH"], 3, .pair .write .write),
    (["SMOVE", "BRPOPLPUSH"], 4, .pair .write .write),
    (["LMOVE"], 5, .pair .write .write),
    (["BLMOVE"], 6, .pair .write .write),
    (["COPY"], -3, .pair .read .write),
    (["ZRANGESTORE"], -5, .pair .write .read),
    (["GEOSEARCHSTORE"], -8, .pair .write .read),
    (["LCS"], -3, .pair .read .read),
    (["SDIFFSTORE", "SINTERSTORE", "SUNIONSTORE"], -3, .into),
    (["PFMERGE"], -2, .into),
    (["BLPOP", "BRPOP", "BZPOPMIN", "BZPOPMAX"], -3, .popped),
    (["ZUNIONSTORE", "ZINTERSTORE", "ZDIFFSTORE"], -4, .counted),
    (["SORT"], -2, .stored 2 sortWords),
    (["GEORADIUS"], -6, .stored 6 radiusWords),
    (["GEORADIUSBYMEMBER"], -5, .stored 5 radiusWords),
    (["MIGRATE"], -6, .migrated migrateWords)]

/-- The entry of a command in capitals. -/
def entryOf (cmd : Bytes) : Int × KeySpec :=
  ((documented.find? fun entry => cmd ∈ entry.1.map text).map (·.2)).getD (-2, .first)

/-- A number as Redis takes it: without a sign, a blank or a leading zero. -/
def count (s : Bytes) : Option Nat :=
  if s = [48] then some 0
  else match s with
    | [] => none
    | c :: _ =>
      if c ≠ 48 ∧ s.all isDigit ∧ digitsValue s < 2 ^ 63 then some (digitsValue s) else none

/-- The positions of the keys among options; `none` is a syntax error. Of several keys the last one
counts. -/
def scanOptions (words : List (String × OptionWord)) :
    List Bytes → Nat → Nat → Option (List Nat)
  | [], _, 0 => some []
  | [], _, _ + 1 => none
  | _ :: ws, i, skip + 1 => scanOptions words ws (i + 1) skip
  | w :: ws, i, 0 =>
    match words.find? fun word => text word.1 = w.map toUpper with
    | none => none
    | some (_, .skip n) => scanOptions words ws (i + 1) n
    | some (_, .key) =>
      (scanOptions words ws (i + 1) 1).map fun ps => if ps.isEmpty then [i + 1] else ps
    | some (_, .keys) => some (List.range' (i + 1) ws.length)

end Documentation

section Meaning

def arityOk (arity : Int) (n : Nat) : Bool := if arity < 0 then -arity ≤ n else arity = n

def positionsOf (args : List Bytes) : KeySpec → List (Access × Nat)
  | .none => []
  | .first => [(.write, 1)]
  | .pair a b => [(a, 1), (b, 2)]
  | .every a => (List.range' 1 (args.length - 1)).map (a, ·)
  | .into => (.write, 1) :: (List.range' 2 (args.length - 2)).map (.read, ·)
  | .popped => (List.range' 1 (args.length - 2)).map (.write, ·)
  | .alternate =>
    if (args.length - 1) % 2 ≠ 0 then []
    else (List.range' 1 ((args.length - 1) / 2) 2).map (.write, ·)
  | .counted =>
    match (args[2]?).bind count with
    | none => []
    | some k =>
      if k = 0 ∨ args.length - 3 < k then []
      else (.write, 1) :: (List.range' 3 k).map (.read, ·)
  | .script a =>
    match (args[2]?).bind count with
    | none => []
    | some k => if args.length - 3 < k then [] else (List.range' 3 k).map (a, ·)
  | .stored options words =>
    match scanOptions words (args.drop options) options 0 with
    | none => []
    | some ps => (.read, 1) :: ps.map (.write, ·)
  | .migrated words =>
    match scanOptions words (args.drop 6) 6 0 with
    | none => []
    | some ps =>
      let a := if text "COPY" ∈ (args.drop 6).map (·.map toUpper) then .read else .write
      if args[3]?.getD [] = [] then ps.map (a, ·) else if ps.isEmpty then [(a, 3)] else []

/-- The positions at which a command has keys, and what it does with them. -/
def keyPositions (args : List Bytes) : List (Access × Nat) :=
  match args with
  | [] => []
  | command :: _ =>
    let entry := entryOf (command.map toUpper)
    if arityOk entry.1 args.length then positionsOf args entry.2 else []

/-- A command that discards all keys: of the data base, or of a server that becomes a replica. -/
def floods (args : List Bytes) : Bool :=
  match args.map (·.map toUpper) with
  | [cmd] => cmd ∈ ["FLUSHALL", "FLUSHDB"].map text
  | [cmd, mode] => cmd ∈ ["FLUSHALL", "FLUSHDB"].map text ∧ mode ∈ ["ASYNC", "SYNC"].map text
  | [cmd, host, port] =>
    cmd ∈ ["REPLICAOF", "SLAVEOF"].map text ∧ ¬ (host = text "NO" ∧ port = text "ONE") ∧
      (count port).isSome
  | _ => false

end Meaning

end Redis

/-- A Redis with the keys that a command comes to without naming them in a documented place: those
that a script or the patterns of a sort make up, those of the commands that EXEC runs, and those of
the commands of modules. -/
structure Redis where
  indirect : List Bytes → List (Access × Bytes)

namespace Redis

variable (R : Redis) (ns : RedisNamespace) (shardCount shard : Nat) (args : List Bytes)

/-- The keys that a command reads or writes. -/
def Uses (a : Access) (key : Bytes) : Prop :=
  floods args = true ∨ (∃ i, (a, i) ∈ keyPositions args ∧ args[i]? = some key) ∨
    (a, key) ∈ R.indirect args

/-- A command writes keys of the zone only, and all of its keys are on the shard. -/
def Confined : Prop :=
  (∀ key, R.Uses args .write key → ns.owns key = true) ∧
    ∀ a key, R.Uses args a key → redisShardOf key shardCount = shard

/-- The positions that the check does not look at. -/
def further : List (Access × Nat) :=
  if redisCommandKeyShape (args.headD []) = .singleKey then
    (keyPositions args).filter (·.2 ≠ 1)
  else []

/-- The name that a command is routed by. -/
def routed : Bytes :=
  match checkedPositions (args.headD []) args with
  | .ok positions => (positions.filterMap (args[·]?)).headD (routeKey args)
  | .error _ => routeKey args

/-- A key that is as if it had been looked at. -/
def Fits (use : Access × Bytes) : Prop :=
  (use.1 = .write → ns.owns use.2 = true) ∧
    redisShardOf use.2 shardCount = redisShardOf (routed args) shardCount

/-- The command does not discard all keys, and the keys that are not looked at fit. -/
def Covered : Prop :=
  floods args = false ∧
    (∀ a i key, (a, i) ∈ further args → args[i]? = some key → Fits ns shardCount args (a, key)) ∧
    ∀ use ∈ R.indirect args, Fits ns shardCount args use

section Shapes

/-- The commands of a shape are in its table. -/
theorem mem_of_shape (command : Bytes) :
    match redisCommandKeyShape command with
    | .noKey => command.map toUpper ∈ noKeyCommands
    | .allArgsAreKeys => command.map toUpper ∈ allArgsKeysCommands
    | .msetPairs => command.map toUpper ∈ msetCommands
    | .evalKeys => command.map toUpper ∈ evalCommands
    | .singleKey => True := by
  unfold redisCommandKeyShape
  dsimp only
  by_cases h1 : command.map toUpper ∈ noKeyCommands
  · rw [if_pos h1]
    exact h1
  by_cases h2 : command.map toUpper ∈ allArgsKeysCommands
  · rw [if_neg h1, if_pos h2]
    exact h2
  by_cases h3 : command.map toUpper ∈ msetCommands
  · rw [if_neg h1, if_neg h2, if_pos h3]
    exact h3
  by_cases h4 : command.map toUpper ∈ evalCommands
  · rw [if_neg h1, if_neg h2, if_neg h3, if_pos h4]
    exact h4
  · rw [if_neg h1, if_neg h2, if_neg h3, if_neg h4]
    trivial

theorem entryOf_noKey : ∀ cmd ∈ noKeyCommands, (entryOf cmd).2 = .none := by decide +kernel

theorem entryOf_allArgs : ∀ cmd ∈ allArgsKeysCommands,
    (entryOf cmd).2 = .every .read ∨ (entryOf cmd).2 = .every .write := by decide +kernel

theorem entryOf_mset : ∀ cmd ∈ msetCommands, (entryOf cmd).2 = .alternate := by decide +kernel

theorem entryOf_eval : ∀ cmd ∈ evalCommands,
    (entryOf cmd).2 = .script .read ∨ (entryOf cmd).2 = .script .write := by decide +kernel

/-- A number that Redis takes is the one that the check reads. -/
theorem strtol_of_count {s : Bytes} {k : Nat} (h : count s = some k) : strtol s = k := by
  unfold count at h
  split at h
  · rename_i hzero
    cases h
    subst hzero
    decide
  cases s with
  | nil => cases h
  | cons c cs =>
  dsimp only at h
  split at h
  · rename_i hdigits
    obtain ⟨-, hall, hlt⟩ := hdigits
    cases h
    have hc : isDigit c = true := (List.all_eq_true.mp hall) c List.mem_cons_self
    have hbounds : 48 ≤ c ∧ c ≤ 57 := of_decide_eq_true hc
    have hnat : 48 ≤ c.toNat ∧ c.toNat ≤ 57 := by
      simp only [UInt8.le_iff_toNat_le] at hbounds
      exact hbounds
    have hblank : isSpace c = false := by
      simp only [isSpace, decide_eq_false_iff_not, not_or, not_and_or, UInt8.le_iff_toNat_le,
        ← UInt8.toNat_inj]
      refine ⟨fun h => ?_, .inr fun h => ?_⟩
      · simp at h
        omega
      · simp at h
        omega
    have hdrop : (c :: cs).dropWhile isSpace = c :: cs := by
      rw [List.dropWhile_cons, hblank, if_neg Bool.false_ne_true]
    have htake : (c :: cs).takeWhile isDigit = c :: cs :=
      List.takeWhile_eq_self_iff.mpr fun x hx => (List.all_eq_true.mp hall) x hx
    unfold strtol
    rw [hdrop]
    split
    · rename_i hminus
      cases hminus
      simp at hnat
    · rename_i hplus
      cases hplus
      simp at hnat
    · rw [htake]
      omega
  · cases h

end Shapes

section Confinement

variable {R : Redis} {ns : RedisNamespace} {shardCount shard : Nat} {args : List Bytes}
  {command : Bytes} {rest : List Bytes} {positions : List Nat} {a : Access} {i : Nat}

theorem mem_keyPositions (h : (a, i) ∈ keyPositions (command :: rest)) :
    (a, i) ∈ positionsOf (command :: rest) (entryOf (command.map toUpper)).2 := by
  unfold keyPositions at h
  dsimp only at h
  split at h
  · exact h
  · cases h

theorem mem_map_pair {ps : List Nat} {b : Access} (h : (a, i) ∈ ps.map (b, ·)) : i ∈ ps := by
  obtain ⟨j, hj, heq⟩ := List.mem_map.mp h
  cases heq
  exact hj

/-- The keys of a command are looked at, but for the further ones. -/
theorem checked_or_further (hcheck : checkedPositions command (command :: rest) = .ok positions)
    (h : (a, i) ∈ keyPositions (command :: rest)) :
    i ∈ positions ∨ (a, i) ∈ further (command :: rest) := by
  have hmem := mem_of_shape command
  have hspec := mem_keyPositions h
  unfold checkedPositions at hcheck
  cases hshape : redisCommandKeyShape command with
  | singleKey =>
    rw [hshape] at hcheck
    dsimp only at hcheck
    split at hcheck
    · cases hcheck
    cases hcheck
    by_cases hone : i = 1
    · exact .inl (List.mem_singleton.mpr hone)
    · refine .inr ?_
      unfold further
      rw [List.headD_cons, if_pos hshape, List.mem_filter]
      exact ⟨h, decide_eq_true hone⟩
  | noKey =>
    rw [hshape] at hmem
    rw [entryOf_noKey _ hmem] at hspec
    cases hspec
  | allArgsAreKeys =>
    rw [hshape] at hmem hcheck
    dsimp only at hcheck
    split at hcheck
    · cases hcheck
    cases hcheck
    rcases entryOf_allArgs _ hmem with hentry | hentry
    all_goals
      rw [hentry] at hspec
      exact .inl (mem_map_pair hspec)
  | msetPairs =>
    rw [hshape] at hmem hcheck
    dsimp only at hcheck
    split at hcheck
    · cases hcheck
    rename_i hpairs
    cases hcheck
    rw [entryOf_mset _ hmem] at hspec
    unfold positionsOf at hspec
    rw [if_neg fun hodd => hpairs (.inr hodd)] at hspec
    exact .inl (mem_map_pair hspec)
  | evalKeys =>
    rw [hshape] at hmem hcheck
    dsimp only at hcheck
    split at hcheck
    · cases hcheck
    split at hcheck
    · cases hcheck
    cases hcheck
    have hscript : ∃ b, (a, i) ∈ positionsOf (command :: rest) (.script b) := by
      rcases entryOf_eval _ hmem with hentry | hentry
      · exact ⟨_, hentry ▸ hspec⟩
      · exact ⟨_, hentry ▸ hspec⟩
    obtain ⟨b, hscript⟩ := hscript
    rw [positionsOf] at hscript
    split at hscript
    · cases hscript
    rename_i k hk
    split at hscript
    · cases hscript
    obtain ⟨word, hword, hcount⟩ := Option.bind_eq_some_iff.mp hk
    rw [hword, Option.getD_some, strtol_of_count hcount]
    exact .inl (mem_map_pair hscript)

theorem further_subset (h : (a, i) ∈ further args) : (a, i) ∈ keyPositions args := by
  unfold further at h
  split at h
  · exact (List.mem_filter.mp h).1
  · cases h

/-- What the check has found out about a command that it lets pass. -/
theorem validate_spec (h : validateRedisCommand ns shardCount args = .ok shard) :
    ∃ command rest positions, args = command :: rest ∧
      checkedPositions command args = .ok positions ∧
      (∀ i ∈ positions, ∀ key, args[i]? = some key →
        ns.owns key = true ∧ redisShardOf key shardCount = shard) ∧
      redisShardOf (routed args) shardCount = shard := by
  unfold validateRedisCommand at h
  dsimp only at h
  split at h
  · cases h
  rename_i command rest
  split at h
  · cases h
  cases hcheck : checkedPositions command (command :: rest) with
  | error e =>
    rw [hcheck] at h
    cases h
  | ok positions =>
    rw [hcheck] at h
    replace h : (match positions.filterMap ((command :: rest)[·]?) with
      | [] => Except.ok (redisShardOf (routeKey (command :: rest))
          (if shardCount = 0 then 1 else shardCount))
      | first :: keys =>
        if (!ns.valid) = true then .error (text "redis namespace not configured (zoneId == 0)")
        else checkKeys ns (if shardCount = 0 then 1 else shardCount) first (first :: keys) none) =
      Except.ok shard := h
    have hrouted : routed (command :: rest) =
        (positions.filterMap ((command :: rest)[·]?)).headD (routeKey (command :: rest)) := by
      unfold routed
      rw [List.headD_cons, hcheck]
    refine ⟨command, rest, positions, rfl, hcheck, ?_⟩
    have hkey : ∀ i ∈ positions, ∀ key, (command :: rest)[i]? = some key →
        key ∈ positions.filterMap ((command :: rest)[·]?) := fun i hi key hkey =>
      List.mem_filterMap.mpr ⟨i, hi, hkey⟩
    cases hkeys : positions.filterMap ((command :: rest)[·]?) with
    | nil =>
      rw [hkeys] at h hkey hrouted
      refine ⟨fun i hi key hsome => (List.not_mem_nil (hkey i hi key hsome)).elim, ?_⟩
      rw [hrouted, ← redisShardOf_zero]
      exact Except.ok.inj h
    | cons first keys =>
      rw [hkeys] at h hkey hrouted
      dsimp only at h
      split at h
      · cases h
      obtain ⟨hall, -⟩ := checkKeys_spec h
      simp only [redisShardOf_zero] at hall
      refine ⟨fun i hi key hsome => hall key (hkey i hi key hsome), ?_⟩
      rw [hrouted]
      exact (hall first List.mem_cons_self).2

theorem owns_nil (ns : RedisNamespace) : ns.owns [] = false := by
  have hzone : ns.zonePrefix = 122 :: (text "one:" ++ decimal ns.zoneId ++ text ":") := rfl
  unfold RedisNamespace.owns
  rw [hzone]
  exact Bool.and_false _

/-- A command that passes the check is confined to its zone and its shard exactly if the keys that
the check does not look at are as if it had. -/
theorem redis_confined_iff (R : Redis) (ns : RedisNamespace) (shardCount : Nat) (args : List Bytes)
    (shard : Nat) (h : validateRedisCommand ns shardCount args = .ok shard) :
    R.Confined ns shardCount shard args ↔ R.Covered ns shardCount args := by
  obtain ⟨command, rest, positions, rfl, hcheck, hpositions, hrouted⟩ := validate_spec h
  constructor
  · rintro ⟨howns, hshard⟩
    refine ⟨?_, fun a i key hi hkey => ?_, fun use hmem => ?_⟩
    · rw [← Bool.not_eq_true]
      intro hfloods
      cases (owns_nil ns).symm.trans (howns [] (.inl hfloods))
    · have huse : R.Uses (command :: rest) a key := .inr (.inl ⟨i, further_subset hi, hkey⟩)
      exact ⟨fun hwrite => howns key (hwrite ▸ huse), (hshard a key huse).trans hrouted.symm⟩
    · have huse : R.Uses (command :: rest) use.1 use.2 := .inr (.inr hmem)
      exact ⟨fun hwrite => howns use.2 (hwrite ▸ huse), (hshard use.1 use.2 huse).trans hrouted.symm⟩
  · rintro ⟨hfloods, hfurther, hindirect⟩
    have hfits : ∀ a key, R.Uses (command :: rest) a key →
        (a = .write → ns.owns key = true) ∧ redisShardOf key shardCount = shard := by
      rintro a key (hflood | ⟨i, hi, hkey⟩ | hmem)
      · cases hfloods.symm.trans hflood
      · rcases checked_or_further hcheck hi with hlooked | hnot
        · obtain ⟨howns, hshard⟩ := hpositions i hlooked key hkey
          exact ⟨fun _ => howns, hshard⟩
        · obtain ⟨howns, hshard⟩ := hfurther a i key hnot hkey
          exact ⟨howns, hshard.trans hrouted⟩
      · obtain ⟨howns, hshard⟩ := hindirect _ hmem
        exact ⟨howns, hshard.trans hrouted⟩
    exact ⟨fun key huse => (hfits .write key huse).1 rfl, fun a key huse => (hfits a key huse).2⟩

def zoneOne : RedisNamespace := { zoneId := 1 }

def setKey : List Bytes := [text "SET", text "zone:1:a", text "5"]

theorem redis_confined_iff_set : Confined ⟨fun _ => []⟩ zoneOne 4 (redisShardOf (text "zone:1:a") 4)
    setKey := by
  have hfurther : further setKey = [] := by decide +kernel
  refine (redis_confined_iff _ zoneOne 4 setKey _ (by decide +kernel)).mpr
    ⟨by decide +kernel, fun a i key hi => ?_, fun use hmem => (List.not_mem_nil hmem).elim⟩
  rw [hfurther] at hi
  cases hi

/-- A key is given the name of a key of another zone. -/
def renameAway : List Bytes := [text "RENAME", text "zone:1:a", text "zone:2:b"]

/-- The check lets it pass, and the key of the other zone is written. -/
theorem renameAway_not_confined : validateRedisCommand zoneOne 1 renameAway = .ok 0 ∧
    ∀ R : Redis, ¬ R.Confined zoneOne 1 0 renameAway := by
  refine ⟨by decide +kernel, fun R hconfined => ?_⟩
  have huse : R.Uses renameAway .write (text "zone:2:b") :=
    .inr (.inl ⟨2, by decide +kernel, by decide +kernel⟩)
  have howns : zoneOne.owns (text "zone:2:b") = false := by decide +kernel
  cases howns.symm.trans (hconfined.1 _ huse)

end Confinement

end Redis

end Db
