import GameServer.Gateway.Session

/-!
# Registered backends

A backend connection is pending until it announces itself. Scenes have a pool of
channels for each instance; when a channel of a newer incarnation registers, the
channels of the older one are given up. A connection that was replaced stays known
by name, without a service, until it is closed.
-/

namespace Gateway

/-- A connection that is registered under an identity; without a service it is not. -/
structure ServiceEndpoint where
  connName : ConnName
  serviceId : Nat := 0
  zoneId : Nat := 0
  sceneId : Nat := 0
  channelId : Nat := 0
  sceneIncarnation : Nat := 0
  deriving DecidableEq, Repr

/-- `BackendKey`, which is also `ServiceInstanceKey`. -/
structure BackendKey where
  serviceId : Nat
  zoneId : Nat
  sceneId : Nat
  deriving DecidableEq, Repr

/-- A slot of a pool: `ready` unless it is empty. -/
structure BackendConn where
  connName : ConnName := 0
  channelId : Nat
  connectionGeneration : Nat := 0
  sceneIncarnation : Nat := 0
  ready : Bool := false
  deriving DecidableEq, Repr

structure BackendConnPool where
  sceneIncarnation : Nat := 0
  channels : List BackendConn
  deriving DecidableEq, Repr

structure ServiceRegistry where
  connPoolSize : Nat
  byName : Table ConnName ServiceEndpoint := ∅
  byService : Table Nat ConnName := ∅
  byInstance : Table BackendKey ConnName := ∅
  backendConnPools : Table BackendKey BackendConnPool := ∅
  pendingConn : Table ConnName Unit := ∅
  nextRoundRobin : Table BackendKey Nat := ∅

def ServiceEndpoint.key (ep : ServiceEndpoint) : BackendKey := ⟨ep.serviceId, ep.zoneId, ep.sceneId⟩

/-- What is left of a registration that was replaced. -/
def ServiceEndpoint.demoted (ep : ServiceEndpoint) : ServiceEndpoint := { connName := ep.connName }

namespace ServiceRegistry

/-- The constructor: the pool size is at least one. -/
def new (poolSize : Nat) : ServiceRegistry := { connPoolSize := max poolSize 1 }

def addPending (reg : ServiceRegistry) (connName : ConnName) : Bool × ServiceRegistry :=
  if connName = 0 ∨ (reg.byName.lookup connName).isSome ∨ (reg.pendingConn.lookup connName).isSome
  then (false, reg)
  else (true, { reg with pendingConn := reg.pendingConn.insert connName () })

def getByName (reg : ServiceRegistry) (connName : ConnName) : Option ServiceEndpoint :=
  match reg.byName.lookup connName with
  | some ep => some ep
  | none => (reg.pendingConn.lookup connName).map fun _ => { connName }

def getByChannel (reg : ServiceRegistry) (connName : ConnName) : Option ServiceEndpoint :=
  reg.getByName connName

def freshPool (reg : ServiceRegistry) : BackendConnPool where
  channels := (List.range reg.connPoolSize).map fun i => { channelId := i }

def demote (reg : ServiceRegistry) (connName : ConnName) : Table ConnName ServiceEndpoint :=
  match reg.byName.lookup connName with
  | some ep => reg.byName.insert connName ep.demoted
  | none => reg.byName

/-- Give up a slot of the old incarnation, unless the new one holds it already. The name of the
first connection given up is remembered. -/
def giveUp (sceneIncarnation : Nat) (same : Bool)
    (acc : ConnName × ServiceRegistry × List BackendConn) (slot : BackendConn) :
    ConnName × ServiceRegistry × List BackendConn :=
  let (replaced, reg, slots) := acc
  if !slot.ready ∨ slot.connName = 0 ∨ (same ∧ slot.sceneIncarnation = sceneIncarnation) then
    (replaced, reg, slots ++ [slot])
  else
    (if replaced = 0 ∧ (reg.byName.lookup slot.connName).isSome then slot.connName else replaced,
      { reg with byName := reg.demote slot.connName },
      slots ++
        [{ channelId := slot.channelId, connectionGeneration := slot.connectionGeneration + 1 }])

/-- The process of a scene was restarted: its old channels are given up. -/
def replaceIncarnation (reg : ServiceRegistry) (key : BackendKey) (pool : BackendConnPool)
    (connName : ConnName) (sceneIncarnation : Nat) :
    ConnName × ServiceRegistry × BackendConnPool :=
  if sceneIncarnation ≠ 0 ∧ pool.sceneIncarnation ≠ 0 ∧ sceneIncarnation ≠ pool.sceneIncarnation
  then
    let same := pool.channels.any fun slot =>
      slot.ready ∧ slot.connName = connName ∧ slot.sceneIncarnation = sceneIncarnation
    let (replaced, reg, channels) :=
      pool.channels.foldl (giveUp sceneIncarnation same) (0, reg, [])
    let pool : BackendConnPool := { sceneIncarnation, channels }
    (replaced,
      { reg with
        backendConnPools := reg.backendConnPools.insert key pool
        byInstance := reg.byInstance.erase key
        byService :=
          match reg.byService.lookup key.serviceId with
          | some legacy =>
            if (reg.byName.lookup legacy).any (·.serviceId = 0) then
              reg.byService.erase key.serviceId
            else reg.byService
          | none => reg.byService },
      pool)
  else (0, { reg with backendConnPools := reg.backendConnPools.insert key pool }, pool)

/-- The slot is held by another connection, which has to give way. -/
def replaceSlot (reg : ServiceRegistry) (key : BackendKey) (slot : BackendConn)
    (connName replaced : ConnName) : Option (ConnName × ServiceRegistry) :=
  if slot.ready ∧ slot.connName ≠ connName then
    match reg.byName.lookup slot.connName with
    | none => none
    | some _ => some (slot.connName,
      { reg with
        byName := reg.demote slot.connName
        byService :=
          if reg.byService.lookup key.serviceId = some slot.connName then
            reg.byService.erase key.serviceId
          else reg.byService
        byInstance :=
          if reg.byInstance.lookup key = some slot.connName then reg.byInstance.erase key
          else reg.byInstance })
  else some (replaced, reg)

/-- Empty the slot of a pool that a connection still holds. -/
def clearSlot (reg : ServiceRegistry) (key : BackendKey) (channelId : Nat) (connName : ConnName) :
    Table BackendKey BackendConnPool :=
  match reg.backendConnPools.lookup key with
  | none => reg.backendConnPools
  | some pool =>
    match pool.channels[channelId]? with
    | none => reg.backendConnPools
    | some slot =>
      if slot.connName = connName then
        reg.backendConnPools.insert key
          { pool with channels := pool.channels.set channelId { channelId } }
      else reg.backendConnPools

/-- The connection has announced itself before: only the same identity is accepted again. -/
def replaceRecord (reg : ServiceRegistry) (endpoint : ServiceEndpoint) (replaced : ConnName) :
    Option (ConnName × ServiceRegistry) :=
  match reg.byName.lookup endpoint.connName with
  | none => some (replaced, reg)
  | some old =>
    if old ≠ { endpoint with connName := old.connName } then none
    else some (endpoint.connName,
      { reg with
        backendConnPools := reg.clearSlot old.key old.channelId endpoint.connName
        byName := reg.byName.insert endpoint.connName { old with serviceId := 0 } })

/-- The connection takes its slot. -/
def enroll (reg : ServiceRegistry) (endpoint : ServiceEndpoint) : ServiceRegistry :=
  let key := endpoint.key
  let pool := (reg.backendConnPools.lookup key).getD reg.freshPool
  let generation := ((pool.channels[endpoint.channelId]?).map (·.connectionGeneration)).getD 0
  { reg with
    backendConnPools := reg.backendConnPools.insert key
      { sceneIncarnation := endpoint.sceneIncarnation
        channels := pool.channels.set endpoint.channelId
          { connName := endpoint.connName
            channelId := endpoint.channelId
            connectionGeneration := generation + 1
            sceneIncarnation := endpoint.sceneIncarnation
            ready := true } }
    byName := reg.byName.insert endpoint.connName endpoint
    pendingConn := reg.pendingConn.erase endpoint.connName
    byInstance := reg.byInstance.insert key endpoint.connName
    byService := reg.byService.insert endpoint.serviceId endpoint.connName }

/-- `Bind`, with the name of the connection that was replaced (0 if none); a refusal may still
have changed the registry. -/
def bind (reg : ServiceRegistry) (endpoint : ServiceEndpoint) :
    Option ConnName × ServiceRegistry :=
  if endpoint.serviceId = 0 ∨ reg.connPoolSize ≤ endpoint.channelId then (none, reg)
  else match reg.pendingConn.lookup endpoint.connName with
    | none => (none, reg)
    | some _ =>
      let key := endpoint.key
      let pool := (reg.backendConnPools.lookup key).getD reg.freshPool
      let (replaced, reg, pool) :=
        reg.replaceIncarnation key pool endpoint.connName endpoint.sceneIncarnation
      match pool.channels[endpoint.channelId]? with
      | none => (none, reg)
      | some slot =>
        match reg.replaceSlot key slot endpoint.connName replaced with
        | none => (none, reg)
        | some (replaced, reg) =>
          match reg.replaceRecord endpoint replaced with
          | none => (none, reg)
          | some (replaced, reg) => (some replaced, reg.enroll endpoint)

/-- The channels of a pool that can be chosen. -/
def BackendConnPool.selectable (pool : BackendConnPool) : List BackendConn :=
  pool.channels.filter fun channel => channel.ready ∧
    (pool.sceneIncarnation = 0 ∨ channel.sceneIncarnation = pool.sceneIncarnation)

def getPool (reg : ServiceRegistry) (key : BackendKey) : List ServiceEndpoint :=
  match reg.backendConnPools.lookup key with
  | none => []
  | some pool =>
    (BackendConnPool.selectable pool).filterMap fun channel => reg.byName.lookup channel.connName

def getByScene (reg : ServiceRegistry) (key : BackendKey) : Option ServiceEndpoint :=
  (reg.getPool key).head?

/-- The next channel of the pool in turn. -/
def selectByScene (reg : ServiceRegistry) (key : BackendKey) :
    Option ServiceEndpoint × ServiceRegistry :=
  match reg.backendConnPools.lookup key with
  | none => (none, reg)
  | some pool =>
    let ready := BackendConnPool.selectable pool
    let next := (reg.nextRoundRobin.lookup key).getD 0
    match ready[next % ready.length]? with
    | none => (none, reg)
    | some selected =>
      (reg.byName.lookup selected.connName,
        { reg with nextRoundRobin := reg.nextRoundRobin.insert key (next + 1) })

/-- One endpoint of every instance of the service. -/
def getInstances (reg : ServiceRegistry) (serviceId zoneId : Nat) : List ServiceEndpoint :=
  (reg.backendConnPools.entries.filter fun row =>
      row.1.serviceId = serviceId ∧ row.1.zoneId = zoneId).filterMap fun row =>
    ((row.2.channels.filter (·.ready)).filterMap fun channel =>
      reg.byName.lookup channel.connName).head?

def getByService (reg : ServiceRegistry) (serviceId : Nat) : Option ServiceEndpoint :=
  (reg.byService.lookup serviceId).bind reg.byName.lookup

/-- The slot of a closed connection is emptied; the last channel takes the incarnation along. -/
def vacate (reg : ServiceRegistry) (removed : ServiceEndpoint) :
    Table BackendKey BackendConnPool :=
  match reg.backendConnPools.lookup removed.key with
  | none => reg.backendConnPools
  | some pool =>
    match pool.channels[removed.channelId]? with
    | none => reg.backendConnPools
    | some slot =>
      if slot.connName = removed.connName then
        let channels := pool.channels.set removed.channelId
          { channelId := removed.channelId
            connectionGeneration := slot.connectionGeneration + 1 }
        let active := channels.any fun channel =>
          channel.ready ∧ channel.sceneIncarnation = pool.sceneIncarnation
        reg.backendConnPools.insert removed.key
          { channels := channels
            sceneIncarnation := if active then pool.sceneIncarnation else 0 }
      else reg.backendConnPools

/-- The first registered connection that passes the test. -/
def successor (byName : Table ConnName ServiceEndpoint) (p : ServiceEndpoint → Bool) :
    Option ConnName :=
  (byName.entries.find? fun row => row.2.serviceId ≠ 0 ∧ p row.2).map (·.1)

def removeByName (reg : ServiceRegistry) (connName : ConnName) :
    Option ServiceEndpoint × ServiceRegistry :=
  match reg.pendingConn.lookup connName with
  | some _ =>
    (some { connName }, { reg with pendingConn := reg.pendingConn.erase connName })
  | none =>
    match reg.byName.lookup connName with
    | none => (none, reg)
    | some removed =>
      let byName := reg.byName.erase connName
      if removed.serviceId = 0 then (some removed, { reg with byName := byName })
      else
        (some removed,
          { reg with
            backendConnPools := reg.vacate { removed with connName }
            byName := byName
            byInstance :=
              if reg.byInstance.lookup removed.key = some connName then
                match successor byName fun ep => ep.key = removed.key with
                | some name => reg.byInstance.insert removed.key name
                | none => reg.byInstance.erase removed.key
              else reg.byInstance
            byService :=
              if reg.byService.lookup removed.serviceId = some connName then
                match successor byName fun ep => ep.serviceId = removed.serviceId with
                | some name => reg.byService.insert removed.serviceId name
                | none => reg.byService.erase removed.serviceId
              else reg.byService })

def size (reg : ServiceRegistry) : Nat := reg.byName.size + reg.pendingConn.size

end ServiceRegistry

end Gateway
