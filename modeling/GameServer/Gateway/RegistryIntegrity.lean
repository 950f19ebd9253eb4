import GameServer.Lib.Run
import GameServer.Gateway.Registry

/-!
# The indexes of the registry agree

A registered connection holds exactly one ready slot, the slot and the name record
carry the same identity, and the service and instance entries name registered
connections. Announcements give scenes an incarnation and other services none.
-/

namespace Gateway

namespace ServiceRegistry

variable {reg reg' : ServiceRegistry}

/-- The record of the connection that holds a slot. -/
def identity (key : BackendKey) (slot : BackendConn) : ServiceEndpoint where
  connName := slot.connName
  serviceId := key.serviceId
  zoneId := key.zoneId
  sceneId := key.sceneId
  channelId := slot.channelId
  sceneIncarnation := slot.sceneIncarnation

/-- The slot of a pool. -/
def Slot (reg : ServiceRegistry) (key : BackendKey) (i : Nat) (slot : BackendConn) : Prop :=
  ∃ pool, reg.backendConnPools.lookup key = some pool ∧ pool.channels[i]? = some slot

/-- A registered connection that was not replaced: it still holds its slot. -/
def Bound (reg : ServiceRegistry) (ep : ServiceEndpoint) : Prop :=
  reg.byName.lookup ep.connName = some ep ∧ ep.serviceId ≠ 0 ∧ ∃ slot,
    Slot reg ep.key ep.channelId slot ∧ slot.ready = true ∧ slot.connName = ep.connName

/-- What holds of every slot of a pool. -/
structure SlotKept (reg : ServiceRegistry) (key : BackendKey) (incarnation i : Nat)
    (slot : BackendConn) : Prop where
  channelId : slot.channelId = i
  empty : slot.ready = false → slot.connName = 0
  name : slot.ready = true → slot.connName ≠ 0
  service : slot.ready = true → key.serviceId ≠ 0
  incarnation : slot.ready = true → slot.sceneIncarnation = incarnation
  scene : slot.ready = true → (key.serviceId = ServerID.kScene ↔ slot.sceneIncarnation ≠ 0)
  record : slot.ready = true → reg.byName.lookup slot.connName = some (identity key slot)

/-- The invariant of the registry. -/
structure Integrity (reg : ServiceRegistry) : Prop where
  size : ∀ key pool, reg.backendConnPools.lookup key = some pool →
    pool.channels.length = reg.connPoolSize
  slots : ∀ key pool i slot, reg.backendConnPools.lookup key = some pool →
    pool.channels[i]? = some slot → SlotKept reg key pool.sceneIncarnation i slot
  named : ∀ name ep, reg.byName.lookup name = some ep → ep.connName = name
  bound : ∀ name ep, reg.byName.lookup name = some ep → ep.serviceId ≠ 0 → Bound reg ep
  pending : ∀ name u, reg.pendingConn.lookup name = some u →
    name ≠ 0 ∧ reg.byName.lookup name = none
  byService : ∀ service name, reg.byService.lookup service = some name →
    ∃ ep, reg.byName.lookup name = some ep ∧ ep.serviceId ≠ 0 ∧ ep.serviceId = service
  byInstance : ∀ key name, reg.byInstance.lookup key = some name →
    ∃ ep, reg.byName.lookup name = some ep ∧ ep.serviceId ≠ 0 ∧ ep.key = key

/-- An endpoint that a selection for the instance can return. -/
def Selectable (reg : ServiceRegistry) (key : BackendKey) (ep : ServiceEndpoint) : Prop :=
  (reg.selectByScene key).1 = some ep ∨ reg.getByScene key = some ep ∨ ep ∈ reg.getPool key ∨
    (ep ∈ reg.getInstances key.serviceId key.zoneId ∧ ep.sceneId = key.sceneId) ∨
    (reg.getByService key.serviceId = some ep ∧ ep.zoneId = key.zoneId ∧ ep.sceneId = key.sceneId)

/-- The indexes agree, and what they lead to is registered and current. -/
structure Consistent (reg : ServiceRegistry) : Prop where
  incarnation : ∀ key pool slot, reg.backendConnPools.lookup key = some pool →
    slot ∈ pool.channels → slot.ready = true → slot.sceneIncarnation = pool.sceneIncarnation
  once : ∀ key key' i j slot slot', Slot reg key i slot → Slot reg key' j slot' →
    slot.connName ≠ 0 → slot.connName = slot'.connName → key = key' ∧ i = j
  record : ∀ key i slot, Slot reg key i slot → slot.ready = true → slot.channelId = i ∧
    reg.byName.lookup slot.connName = some (identity key slot)
  byService : ∀ service name, reg.byService.lookup service = some name →
    ∃ ep, reg.byName.lookup name = some ep ∧ Bound reg ep ∧ ep.serviceId = service
  byInstance : ∀ key name, reg.byInstance.lookup key = some name →
    ∃ ep, reg.byName.lookup name = some ep ∧ Bound reg ep ∧ ep.key = key
  selected : ∀ key ep, Selectable reg key ep → Bound reg ep ∧ ep.key = key
  one : ∀ key a b, Selectable reg key a → Selectable reg key b →
    a.sceneIncarnation = b.sceneIncarnation

section Queries

theorem Integrity.slot (h : Integrity reg) {key : BackendKey} {i : Nat} {slot : BackendConn}
    (hs : Slot reg key i slot) : ∃ pool, reg.backendConnPools.lookup key = some pool ∧
      SlotKept reg key pool.sceneIncarnation i slot := by
  obtain ⟨pool, hpool, hslot⟩ := hs
  exact ⟨pool, hpool, h.slots key pool i slot hpool hslot⟩

/-- A ready slot leads to a connection that holds it. -/
theorem Integrity.of_ready (h : Integrity reg) {key : BackendKey} {pool : BackendConnPool}
    {slot : BackendConn} (hpool : reg.backendConnPools.lookup key = some pool)
    (hmem : slot ∈ pool.channels) (hready : slot.ready = true) :
    reg.byName.lookup slot.connName = some (identity key slot) ∧ Bound reg (identity key slot) := by
  obtain ⟨i, hi⟩ := List.getElem?_of_mem hmem
  have hk := h.slots key pool i slot hpool hi
  have hrec := hk.record hready
  exact ⟨hrec, hrec, hk.service hready, slot, ⟨pool, hpool, by rw [← hi, ← hk.channelId]; rfl⟩,
    hready, rfl⟩

theorem Integrity.getPool (h : Integrity reg) {key : BackendKey} {ep : ServiceEndpoint}
    (hep : ep ∈ reg.getPool key) : Bound reg ep ∧ ep.key = key := by
  unfold ServiceRegistry.getPool at hep
  split at hep
  · cases hep
  rename_i pool hpool
  obtain ⟨slot, hslot, hlook⟩ := List.mem_filterMap.mp hep
  obtain ⟨hmem, hsel⟩ := List.mem_filter.mp hslot
  obtain ⟨hrec, hbound⟩ := h.of_ready hpool hmem (of_decide_eq_true hsel).1
  cases hrec.symm.trans hlook
  exact ⟨hbound, rfl⟩

theorem Integrity.selectByScene (h : Integrity reg) {key : BackendKey} {ep : ServiceEndpoint}
    (hep : (reg.selectByScene key).1 = some ep) : Bound reg ep ∧ ep.key = key := by
  unfold ServiceRegistry.selectByScene at hep
  split at hep
  · cases hep
  rename_i pool hpool
  simp only at hep
  split at hep
  · cases hep
  rename_i slot hslot
  obtain ⟨hmem, hsel⟩ := List.mem_filter.mp (List.mem_of_getElem? hslot)
  obtain ⟨hrec, hbound⟩ := h.of_ready hpool hmem (of_decide_eq_true hsel).1
  cases hrec.symm.trans hep
  exact ⟨hbound, rfl⟩

theorem Integrity.getInstances (h : Integrity reg) {service zone : Nat} {ep : ServiceEndpoint}
    (hep : ep ∈ reg.getInstances service zone) :
    Bound reg ep ∧ ep.serviceId = service ∧ ep.zoneId = zone := by
  unfold ServiceRegistry.getInstances at hep
  obtain ⟨⟨key, pool⟩, hrow, hhead⟩ := List.mem_filterMap.mp hep
  obtain ⟨hmem, hkey⟩ := List.mem_filter.mp hrow
  obtain ⟨hservice, hzone⟩ := of_decide_eq_true hkey
  obtain ⟨slot, hslot, hlook⟩ := List.mem_filterMap.mp (List.mem_of_mem_head? hhead)
  obtain ⟨hslot, hready⟩ := List.mem_filter.mp hslot
  obtain ⟨hrec, hbound⟩ := h.of_ready (Table.lookup_of_mem hmem) hslot hready
  cases hrec.symm.trans hlook
  exact ⟨hbound, hservice, hzone⟩

theorem Integrity.getByService (h : Integrity reg) {service : Nat} {ep : ServiceEndpoint}
    (hep : reg.getByService service = some ep) : Bound reg ep ∧ ep.serviceId = service := by
  obtain ⟨name, hname, hlook⟩ := Option.bind_eq_some_iff.mp hep
  obtain ⟨ep', hep', hne, hservice⟩ := h.byService service name hname
  cases hlook.symm.trans hep'
  exact ⟨h.bound name ep hlook hne, hservice⟩

theorem Integrity.selectable (h : Integrity reg) {key : BackendKey} {ep : ServiceEndpoint}
    (hep : Selectable reg key ep) : Bound reg ep ∧ ep.key = key := by
  rcases hep with hep | hep | hep | ⟨hep, hscene⟩ | ⟨hep, hzone, hscene⟩
  · exact h.selectByScene hep
  · exact h.getPool (List.mem_of_mem_head? hep)
  · exact h.getPool hep
  · obtain ⟨hbound, hservice, hzone⟩ := h.getInstances hep
    refine ⟨hbound, ?_⟩
    simp [ServiceEndpoint.key, hservice, hzone, hscene]
  · obtain ⟨hbound, hservice⟩ := h.getByService hep
    refine ⟨hbound, ?_⟩
    simp [ServiceEndpoint.key, hservice, hzone, hscene]

/-- A registered connection carries the incarnation of its pool. -/
theorem Integrity.incarnation (h : Integrity reg) {ep : ServiceEndpoint} (hb : Bound reg ep) :
    ∃ pool, reg.backendConnPools.lookup ep.key = some pool ∧
      ep.sceneIncarnation = pool.sceneIncarnation := by
  obtain ⟨hlook, _, slot, hslot, hready, hname⟩ := hb
  obtain ⟨pool, hpool, hk⟩ := h.slot hslot
  have hrec := hk.record hready
  rw [hname] at hrec
  have hep : ep = identity ep.key slot := Option.some.inj (hlook.symm.trans hrec)
  exact ⟨pool, hpool, (congrArg (·.sceneIncarnation) hep).trans (hk.incarnation hready)⟩

theorem Integrity.consistent (h : Integrity reg) : Consistent reg where
  incarnation := fun key pool slot hpool hmem hready => by
    obtain ⟨i, hi⟩ := List.getElem?_of_mem hmem
    exact (h.slots key pool i slot hpool hi).incarnation hready
  once := fun key key' i j slot slot' hs hs' hne hname => by
    obtain ⟨_, _, hk⟩ := h.slot hs
    obtain ⟨_, _, hk'⟩ := h.slot hs'
    have hready : slot.ready = true := by
      by_contra hoff
      exact hne (hk.empty (by simpa using hoff))
    have hready' : slot'.ready = true := by
      by_contra hoff
      exact hne (hname.trans (hk'.empty (by simpa using hoff)))
    have hrec := hk.record hready
    rw [hname, hk'.record hready'] at hrec
    simp only [identity, Option.some.injEq, ServiceEndpoint.mk.injEq] at hrec
    obtain ⟨_, h1, h2, h3, h4, _⟩ := hrec
    refine ⟨?_, ?_⟩
    · cases key
      cases key'
      simp only [BackendKey.mk.injEq]
      exact ⟨h1.symm, h2.symm, h3.symm⟩
    · rw [← hk.channelId, ← hk'.channelId, h4]
  record := fun key i slot hs hready => by
    obtain ⟨_, _, hk⟩ := h.slot hs
    exact ⟨hk.channelId, hk.record hready⟩
  byService := fun service name hname => by
    obtain ⟨ep, hep, hne, hservice⟩ := h.byService service name hname
    exact ⟨ep, hep, h.bound name ep hep hne, hservice⟩
  byInstance := fun key name hname => by
    obtain ⟨ep, hep, hne, hkey⟩ := h.byInstance key name hname
    exact ⟨ep, hep, h.bound name ep hep hne, hkey⟩
  selected := fun key ep hep => h.selectable hep
  one := fun key a b ha hb => by
    obtain ⟨hab, hak⟩ := h.selectable ha
    obtain ⟨hbb, hbk⟩ := h.selectable hb
    obtain ⟨pool, hpool, hinc⟩ := h.incarnation hab
    obtain ⟨pool', hpool', hinc'⟩ := h.incarnation hbb
    rw [hak] at hpool
    rw [hbk] at hpool'
    cases hpool.symm.trans hpool'
    exact hinc.trans hinc'.symm

end Queries

section Operations

theorem integrity_new (poolSize : Nat) : Integrity (new poolSize) where
  size := by simp [new]
  slots := by simp [new]
  named := by simp [new]
  bound := by simp [new]
  pending := by simp [new]
  byService := by simp [new]
  byInstance := by simp [new]

/-- The round robin and the pending connections are no part of the indexes. -/
theorem Integrity.frame (h : Integrity reg) (hsize : reg'.connPoolSize = reg.connPoolSize)
    (hname : reg'.byName = reg.byName) (hpools : reg'.backendConnPools = reg.backendConnPools)
    (hservice : reg'.byService = reg.byService) (hinstance : reg'.byInstance = reg.byInstance)
    (hpending : ∀ name u, reg'.pendingConn.lookup name = some u →
      name ≠ 0 ∧ reg.byName.lookup name = none) : Integrity reg' where
  size := by rw [hpools, hsize]; exact h.size
  slots := fun key pool i slot hpool hslot => by
    rw [hpools] at hpool
    have hk := h.slots key pool i slot hpool hslot
    exact ⟨hk.channelId, hk.empty, hk.name, hk.service, hk.incarnation, hk.scene,
      hname.symm ▸ hk.record⟩
  named := by rw [hname]; exact h.named
  bound := by
    intro name ep hep hne
    rw [hname] at hep
    have hb := h.bound name ep hep hne
    unfold Bound Slot at hb ⊢
    rw [hname, hpools]
    exact hb
  pending := by rw [hname]; exact hpending
  byService := by rw [hservice, hname]; exact h.byService
  byInstance := by rw [hinstance, hname]; exact h.byInstance

theorem Integrity.addPending (h : Integrity reg) (connName : ConnName) :
    Integrity (reg.addPending connName).2 := by
  unfold ServiceRegistry.addPending
  split
  · exact h
  rename_i hfree
  simp only [not_or, Bool.not_eq_true, Option.isSome_eq_false_iff, Option.isNone_iff_eq_none]
    at hfree
  refine h.frame rfl rfl rfl rfl rfl fun name u hu => ?_
  rw [Table.lookup_insert] at hu
  split at hu
  · rename_i heq
    rw [heq]
    exact ⟨hfree.1, hfree.2.1⟩
  · exact h.pending name u hu

theorem Integrity.afterSelect (h : Integrity reg) (key : BackendKey) :
    Integrity (reg.selectByScene key).2 := by
  unfold ServiceRegistry.selectByScene
  split
  · exact h
  simp only
  split
  · exact h
  · exact h.frame rfl rfl rfl rfl rfl h.pending

theorem successor_spec {byName : Table ConnName ServiceEndpoint} {p : ServiceEndpoint → Bool}
    {name : ConnName} (h : successor byName p = some name) :
    ∃ ep, byName.lookup name = some ep ∧ ep.serviceId ≠ 0 ∧ p ep = true := by
  obtain ⟨⟨k, ep⟩, hrow, rfl⟩ := Option.map_eq_some_iff.mp h
  have hsome := List.find?_some hrow
  obtain ⟨hne, hp⟩ := of_decide_eq_true hsome
  exact ⟨ep, Table.lookup_of_mem (List.mem_of_find?_eq_some hrow), hne, hp⟩

/-- An entry of an index after the removal of a connection. -/
theorem successor_entry {K : Type} [DecidableEq K] {index : Table K ConnName} {k : K} (k' : K)
    {byName : Table ConnName ServiceEndpoint} {connName name : ConnName}
    {p : ServiceEndpoint → Bool} (P : K → ServiceEndpoint → Prop)
    (hp : ∀ ep, p ep = true → P k' ep)
    (hindex : ∀ name, index.lookup k = some name →
      ∃ ep, byName.lookup name = some ep ∧ ep.serviceId ≠ 0 ∧ P k ep)
    (hlook : (if index.lookup k' = some connName then
        match successor (byName.erase connName) p with
        | some name => index.insert k' name
        | none => index.erase k'
      else index).lookup k = some name)
    (hother : index.lookup k = some connName → k = k') :
    ∃ ep, (byName.erase connName).lookup name = some ep ∧ ep.serviceId ≠ 0 ∧ P k ep := by
  have hold : index.lookup k = some name → name ≠ connName →
      ∃ ep, (byName.erase connName).lookup name = some ep ∧ ep.serviceId ≠ 0 ∧ P k ep := by
    intro hl hne
    obtain ⟨ep, hep, hrest⟩ := hindex name hl
    exact ⟨ep, by rw [Table.lookup_erase, if_neg hne, hep], hrest⟩
  split at hlook
  · rename_i hmine
    split at hlook
    · rename_i next hnext
      rw [Table.lookup_insert] at hlook
      split at hlook
      · rename_i hk
        cases hlook
        obtain ⟨ep, hep, hne, hpe⟩ := successor_spec hnext
        exact ⟨ep, hep, hne, hk ▸ hp ep hpe⟩
      · rename_i hk
        exact hold hlook fun heq => hk (hother (heq ▸ hlook))
    · rw [Table.lookup_erase] at hlook
      split at hlook
      · cases hlook
      · rename_i hk
        exact hold hlook fun heq => hk (hother (heq ▸ hlook))
  · rename_i hnot
    refine hold hlook fun heq => hnot ?_
    rw [heq] at hlook
    rw [← hother hlook]
    exact hlook

/-- The pool of a closed connection: its slot is empty, the others stay. -/
theorem vacate_spec {removed : ServiceEndpoint} {pool : BackendConnPool} {slot : BackendConn}
    (hpool : reg.backendConnPools.lookup removed.key = some pool)
    (hslot : pool.channels[removed.channelId]? = some slot)
    (hname : slot.connName = removed.connName) : ∃ gen incarnation,
      (∀ key, (reg.vacate removed).lookup key =
        if key = removed.key then
          some
            { channels := pool.channels.set removed.channelId
                { channelId := removed.channelId, connectionGeneration := gen }
              sceneIncarnation := incarnation }
        else reg.backendConnPools.lookup key) ∧
      ∀ i x, i ≠ removed.channelId → pool.channels[i]? = some x → x.ready = true →
        x.sceneIncarnation = pool.sceneIncarnation → incarnation = pool.sceneIncarnation := by
  unfold vacate
  simp only [hpool, hslot, hname, if_true]
  refine ⟨slot.connectionGeneration + 1, _, fun key => Table.lookup_insert _ _ _ _,
    fun i x hi hx hready hinc => ?_⟩
  have hmem : x ∈ pool.channels.set removed.channelId
      { channelId := removed.channelId, connectionGeneration := slot.connectionGeneration + 1 } := by
    refine List.mem_of_getElem? (i := i) ?_
    rw [List.getElem?_set_ne hi.symm]
    exact hx
  have hactive : ((pool.channels.set removed.channelId
      { channelId := removed.channelId
        connectionGeneration := slot.connectionGeneration + 1 }).any fun channel =>
      channel.ready ∧ channel.sceneIncarnation = pool.sceneIncarnation) = true :=
    List.any_eq_true.mpr ⟨x, hmem, by simp [hready, hinc]⟩
  simp only [hactive, if_true]

theorem Integrity.removeByName (h : Integrity reg) (connName : ConnName) :
    Integrity (reg.removeByName connName).2 := by
  unfold ServiceRegistry.removeByName
  split
  · refine h.frame rfl rfl rfl rfl rfl fun name u hu => ?_
    rw [Table.lookup_erase] at hu
    split at hu
    · cases hu
    · exact h.pending name u hu
  split
  · exact h
  rename_i removed hremoved
  have hname := h.named _ _ hremoved
  -- records of the other connections stay
  have hkeep : ∀ name ep, reg.byName.lookup name = some ep → name ≠ connName →
      (reg.byName.erase connName).lookup name = some ep := by
    intro name ep hep hne
    rw [Table.lookup_erase, if_neg hne, hep]
  have hold : ∀ name ep, (reg.byName.erase connName).lookup name = some ep →
      reg.byName.lookup name = some ep ∧ name ≠ connName := by
    intro name ep hep
    rw [Table.lookup_erase] at hep
    split at hep
    · cases hep
    · rename_i hne
      exact ⟨hep, hne⟩
  have hpending : ∀ name u, reg.pendingConn.lookup name = some u →
      name ≠ 0 ∧ (reg.byName.erase connName).lookup name = none := by
    intro name u hu
    obtain ⟨hpos, hnone⟩ := h.pending name u hu
    refine ⟨hpos, ?_⟩
    rw [Table.lookup_erase]
    split
    · rfl
    · exact hnone
  simp only
  split
  · rename_i hzero
    -- the record was left behind by a takeover: nothing refers to it
    have hother : ∀ name ep, reg.byName.lookup name = some ep → ep.serviceId ≠ 0 →
        name ≠ connName := by
      rintro name ep hep hne rfl
      cases hremoved.symm.trans hep
      exact hne hzero
    refine
      { size := h.size
        slots := fun key pool i slot hpool hslot => ?_
        named := fun name ep hep => h.named name ep (hold name ep hep).1
        bound := fun name ep hep hne => ?_
        pending := hpending
        byService := fun service name hs => ?_
        byInstance := fun key name hs => ?_ }
    · have hk := h.slots key pool i slot hpool hslot
      refine ⟨hk.channelId, hk.empty, hk.name, hk.service, hk.incarnation, hk.scene,
        fun hready => ?_⟩
      exact hkeep _ _ (hk.record hready) (hother _ _ (hk.record hready) (hk.service hready))
    · obtain ⟨hep', hne'⟩ := hold name ep hep
      obtain ⟨hlook, hbound⟩ := h.bound name ep hep' hne
      exact ⟨hkeep _ _ hlook (hother _ _ hlook hne), hbound⟩
    · obtain ⟨ep, hep, hne, hrest⟩ := h.byService service name hs
      exact ⟨ep, hkeep _ _ hep (hother _ _ hep hne), hne, hrest⟩
    · obtain ⟨ep, hep, hne, hrest⟩ := h.byInstance key name hs
      exact ⟨ep, hkeep _ _ hep (hother _ _ hep hne), hne, hrest⟩
  · rename_i hne
    obtain ⟨-, -, slot, ⟨pool, hpool, hslot⟩, hready, hslotName⟩ :=
      h.bound connName removed hremoved hne
    have hself : ({ removed with connName } : ServiceEndpoint) = removed := by
      rw [← hname]
    rw [hself]
    obtain ⟨gen, incarnation, hpools, hinc⟩ := vacate_spec hpool hslot hslotName
    -- a ready slot of the connection is the one that was emptied
    have hmine : ∀ key p i x, reg.backendConnPools.lookup key = some p → p.channels[i]? = some x →
        x.ready = true → x.connName = connName → key = removed.key ∧ i = removed.channelId := by
      intro key p i x hp hx hxready hxname
      have hk := h.slots key p i x hp hx
      have hrec := hk.record hxready
      rw [hxname, hremoved, Option.some.injEq] at hrec
      rw [hrec, ← hk.channelId]
      exact ⟨rfl, rfl⟩
    refine
      { size := fun key q hq => ?_
        slots := fun key q i x hq hx => ?_
        named := fun name ep hep => h.named name ep (hold name ep hep).1
        bound := fun name ep hep hepne => ?_
        pending := hpending
        byService := fun service name hs => ?_
        byInstance := fun key name hs => ?_ }
    · rw [hpools] at hq
      split at hq
      · cases hq
        rw [List.length_set]
        exact h.size _ pool hpool
      · exact h.size key q hq
    · rw [hpools] at hq
      split at hq
      · rename_i hkey
        cases hq
        rw [List.getElem?_set] at hx
        split at hx
        · rename_i hi
          split at hx
          · cases hx
            exact ⟨hi, fun _ => rfl, nofun, nofun, nofun, nofun, nofun⟩
          · cases hx
        · rename_i hi
          have hk := h.slots _ pool i x hpool hx
          rw [hkey]
          exact ⟨hk.channelId, hk.empty, hk.name, hk.service,
            fun hr => (hk.incarnation hr).trans (hinc i x (Ne.symm hi) hx hr (hk.incarnation hr)).symm,
            hk.scene, fun hr => hkeep _ _ (hk.record hr) fun hxname =>
              hi (hmine _ pool i x hpool hx hr hxname).2.symm⟩
      · rename_i hkey
        have hk := h.slots key q i x hq hx
        exact ⟨hk.channelId, hk.empty, hk.name, hk.service, hk.incarnation, hk.scene,
          fun hr => hkeep _ _ (hk.record hr) fun hxname => hkey (hmine key q i x hq hx hr hxname).1⟩
    · obtain ⟨hep', hne'⟩ := hold name ep hep
      have hepname := h.named name ep hep'
      obtain ⟨hlook, -, x, ⟨p, hp, hx⟩, hxready, hxname⟩ := h.bound name ep hep' hepne
      refine ⟨hkeep _ _ hlook (hepname.symm ▸ hne'), hepne, x, ?_, hxready, hxname⟩
      by_cases hkey : ep.key = removed.key
      · rw [hkey] at hp
        cases hpool.symm.trans hp
        refine ⟨_, by rw [hpools, if_pos hkey], ?_⟩
        rw [List.getElem?_set_ne, hx]
        intro hi
        rw [← hi, hslot] at hx
        cases hx
        exact hne' (hepname.symm.trans (hxname.symm.trans (hslotName.trans hname)))
      · exact ⟨p, by rw [hpools, if_neg hkey, hp], hx⟩
    · refine successor_entry removed.serviceId (fun k ep => ep.serviceId = k)
        (fun ep hp => of_decide_eq_true hp) (h.byService service) hs fun hmine => ?_
      obtain ⟨ep, hep, -, hservice⟩ := h.byService service connName hmine
      cases hremoved.symm.trans hep
      exact hservice.symm
    · refine successor_entry removed.key (fun k ep => ep.key = k)
        (fun ep hp => of_decide_eq_true hp) (h.byInstance key) hs fun hmine => ?_
      obtain ⟨ep, hep, -, hkey⟩ := h.byInstance key connName hmine
      cases hremoved.symm.trans hep
      exact hkey.symm

end Operations

section Bind

theorem lookup_demote (reg : ServiceRegistry) (conn name : ConnName) :
    (reg.demote conn).lookup name =
      if name = conn then (reg.byName.lookup name).map ServiceEndpoint.demoted
      else reg.byName.lookup name := by
  unfold demote
  by_cases hname : name = conn
  · subst hname
    cases hc : reg.byName.lookup name <;> simp [hc]
  · cases hc : reg.byName.lookup conn <;> simp [hname]

/-- The slot is held by a connection. -/
def taken (slot : BackendConn) : Bool := slot.ready ∧ slot.connName ≠ 0

/-- The slot after its connection was given up. -/
def vacated (slot : BackendConn) : BackendConn :=
  if taken slot then
    { channelId := slot.channelId, connectionGeneration := slot.connectionGeneration + 1 }
  else slot

theorem vacated_spec (slot : BackendConn) :
    (vacated slot).channelId = slot.channelId ∧ ((vacated slot).ready = true → slot.connName = 0) ∧
      (slot.connName = 0 → (vacated slot).connName = 0) := by
  unfold vacated taken
  by_cases hready : slot.ready = true <;> by_cases hname : slot.connName = 0 <;>
    simp [hready, hname]

/-- A new incarnation gives up every slot that is held. -/
theorem giveUp_spec (incarnation : Nat) (channels slots : List BackendConn) (replaced : ConnName) :
    let out := channels.foldl (giveUp incarnation false) (replaced, reg, slots)
    out.2.2 = slots ++ channels.map vacated ∧ ∃ byName,
      out.2.1 = { reg with byName := byName } ∧ ∀ name, byName.lookup name =
        if channels.any fun slot => taken slot ∧ slot.connName = name then
          (reg.byName.lookup name).map ServiceEndpoint.demoted
        else reg.byName.lookup name := by
  induction channels generalizing reg replaced slots with
  | nil => exact ⟨by simp, reg.byName, rfl, fun name => by simp⟩
  | cons slot channels ih =>
    simp only [List.foldl_cons]
    by_cases htaken : taken slot = true
    · have hgive : giveUp incarnation false (replaced, reg, slots) slot =
          (if replaced = 0 ∧ (reg.byName.lookup slot.connName).isSome then slot.connName
            else replaced,
            { reg with byName := reg.demote slot.connName }, slots ++ [vacated slot]) := by
        have hheld := of_decide_eq_true htaken
        simp [giveUp, hheld.1, hheld.2, vacated, htaken]
      rw [hgive]
      obtain ⟨hslots, byName, hreg, hlook⟩ :=
        @ih { reg with byName := reg.demote slot.connName } (slots ++ [vacated slot])
          (if replaced = 0 ∧ (reg.byName.lookup slot.connName).isSome then slot.connName
            else replaced)
      refine ⟨by rw [hslots]; simp, byName, hreg, fun name => ?_⟩
      rw [hlook, lookup_demote, List.any_cons]
      have hhead : decide (taken slot = true ∧ slot.connName = name) =
          decide (name = slot.connName) := by simp [htaken, eq_comm]
      rw [hhead]
      by_cases hname : name = slot.connName
      · cases hrec : reg.byName.lookup name <;> simp [hname, ServiceEndpoint.demoted]
      · simp [hname]
    · have hgive : giveUp incarnation false (replaced, reg, slots) slot =
          (replaced, reg, slots ++ [vacated slot]) := by
        have hfree : slot.ready = false ∨ slot.connName = 0 := by
          by_contra hno
          simp only [not_or, Bool.not_eq_false] at hno
          exact htaken (decide_eq_true hno)
        rcases hfree with hfree | hfree <;> simp [giveUp, hfree, vacated, htaken]
      rw [hgive]
      obtain ⟨hslots, byName, hreg, hlook⟩ := @ih reg (slots ++ [vacated slot]) replaced
      refine ⟨by rw [hslots]; simp, byName, hreg, fun name => ?_⟩
      rw [hlook, List.any_cons]
      simp [htaken]

/-- The service entry of a new incarnation goes if it named a connection that was given up. -/
def keepService (reg : ServiceRegistry) (service : Nat) : Table Nat ConnName :=
  match reg.byService.lookup service with
  | some legacy =>
    if (reg.byName.lookup legacy).any (·.serviceId = 0) then reg.byService.erase service
    else reg.byService
  | none => reg.byService

theorem keepService_spec {service sid : Nat} {name : ConnName}
    (h : (keepService reg service).lookup sid = some name) :
    reg.byService.lookup sid = some name ∧
      (sid = service → ∀ ep, reg.byName.lookup name = some ep → ep.serviceId ≠ 0) := by
  unfold keepService at h
  cases hl : reg.byService.lookup service with
  | none =>
    simp only [hl] at h
    refine ⟨h, fun hs => ?_⟩
    rw [hs, hl] at h
    cases h
  | some legacy =>
    simp only [hl] at h
    split at h
    · rw [Table.lookup_erase] at h
      split at h
      · cases h
      · rename_i hs
        exact ⟨h, fun heq => absurd heq hs⟩
    · rename_i hlive
      refine ⟨h, fun hs ep hep hz => hlive ?_⟩
      rw [hs, hl, Option.some.injEq] at h
      rw [h, hep]
      simp [hz]

/-- What `bind` knows of the pool before it takes the slot. -/
structure Prepared (reg reg' : ServiceRegistry) (key : BackendKey) (pool : BackendConnPool)
    (incarnation : Nat) : Prop where
  integrity : Integrity reg'
  found : reg'.backendConnPools.lookup key = some pool
  pending : reg'.pendingConn = reg.pendingConn
  size : reg'.connPoolSize = reg.connPoolSize
  incarnation : ∀ slot ∈ pool.channels, slot.ready = true → slot.sceneIncarnation = incarnation

theorem slot_freshPool {i : Nat} {slot : BackendConn}
    (h : reg.freshPool.channels[i]? = some slot) : slot = { channelId := i } := by
  simp only [freshPool, List.getElem?_map, Option.map_eq_some_iff] at h
  obtain ⟨j, hj, rfl⟩ := h
  obtain ⟨_, rfl⟩ := List.getElem?_eq_some_iff.mp hj
  simp

/-- The pool of a key, made when it is first needed. -/
theorem Integrity.insertPool (h : Integrity reg) (key : BackendKey) : Integrity
    { reg with
      backendConnPools := reg.backendConnPools.insert key
        ((reg.backendConnPools.lookup key).getD reg.freshPool) } := by
  cases hpool : reg.backendConnPools.lookup key with
  | some pool =>
    have hsame : ∀ k, (reg.backendConnPools.insert key pool).lookup k =
        reg.backendConnPools.lookup k := by
      intro k
      rw [Table.lookup_insert]
      split
      · rename_i hk
        rw [hk, hpool]
      · rfl
    simp only [Option.getD_some]
    refine ⟨fun k p hp => ?_, fun k p i slot hp hs => ?_, h.named, fun name ep hep hne => ?_,
      h.pending, h.byService, h.byInstance⟩
    · exact h.size k p (hsame k ▸ hp)
    · have hk := h.slots k p i slot (hsame k ▸ hp) hs
      exact ⟨hk.channelId, hk.empty, hk.name, hk.service, hk.incarnation, hk.scene, hk.record⟩
    · obtain ⟨hlook, hne, slot, ⟨p, hp, hslot⟩, hrest⟩ := h.bound name ep hep hne
      exact ⟨hlook, hne, slot, ⟨p, (hsame _).trans hp, hslot⟩, hrest⟩
  | none =>
    have hfresh : ∀ k p, (reg.backendConnPools.insert key reg.freshPool).lookup k = some p →
        (k = key ∧ p = reg.freshPool) ∨ reg.backendConnPools.lookup k = some p := by
      intro k p hp
      rw [Table.lookup_insert] at hp
      split at hp
      · rename_i hk
        cases hp
        exact .inl ⟨hk, rfl⟩
      · exact .inr hp
    simp only [Option.getD_none]
    refine ⟨fun k p hp => ?_, fun k p i slot hp hs => ?_, h.named, fun name ep hep hne => ?_,
      h.pending, h.byService, h.byInstance⟩
    · rcases hfresh k p hp with ⟨-, rfl⟩ | hp
      · simp [freshPool]
      · exact h.size k p hp
    · rcases hfresh k p hp with ⟨-, rfl⟩ | hp
      · rw [slot_freshPool hs]
        exact ⟨rfl, fun _ => rfl, nofun, nofun, nofun, nofun, nofun⟩
      · have hk := h.slots k p i slot hp hs
        exact ⟨hk.channelId, hk.empty, hk.name, hk.service, hk.incarnation, hk.scene, hk.record⟩
    · obtain ⟨hlook, hne, slot, ⟨p, hp, hslot⟩, hrest⟩ := h.bound name ep hep hne
      refine ⟨hlook, hne, slot, ⟨p, ?_, hslot⟩, hrest⟩
      refine (Table.lookup_insert _ _ _ _).trans ((if_neg fun hk => ?_).trans hp)
      rw [hk, hpool] at hp
      cases hp

/-- A pool of a new incarnation has no ready slot, and nothing refers to its old connections. -/
theorem Integrity.renewed (h : Integrity reg) {key : BackendKey} {pool : BackendConnPool}
    {byName : Table ConnName ServiceEndpoint} (incarnation : Nat)
    (hpool : reg.backendConnPools.lookup key = some pool)
    (hlook : ∀ name, byName.lookup name =
      if pool.channels.any fun slot => taken slot ∧ slot.connName = name then
        (reg.byName.lookup name).map ServiceEndpoint.demoted
      else reg.byName.lookup name) : Integrity
    { reg with
      byName := byName
      backendConnPools := reg.backendConnPools.insert key
        { sceneIncarnation := incarnation, channels := pool.channels.map vacated }
      byInstance := reg.byInstance.erase key
      byService := keepService { reg with byName := byName } key.serviceId } := by
  -- a record that was kept is of another instance or has no identity
  have hgone : ∀ name ep, byName.lookup name = some ep → ep.serviceId ≠ 0 →
      reg.byName.lookup name = some ep ∧ ep.key ≠ key := by
    intro name ep hep hne
    rw [hlook] at hep
    split at hep
    · obtain ⟨old, _, rfl⟩ := Option.map_eq_some_iff.mp hep
      exact absurd rfl hne
    · rename_i hnot
      refine ⟨hep, fun hkey => hnot ?_⟩
      obtain ⟨-, -, slot, ⟨p, hp, hslot⟩, hready, hname⟩ := h.bound name ep hep hne
      rw [hkey, hpool] at hp
      cases hp
      have hk := h.slots _ pool _ slot hpool hslot
      refine List.any_eq_true.mpr ⟨slot, List.mem_of_getElem? hslot, ?_⟩
      rw [h.named name ep hep] at hname
      simpa [taken, hready, hname] using hname ▸ hk.name hready
  have hstay : ∀ name ep, reg.byName.lookup name = some ep → ep.serviceId ≠ 0 → ep.key ≠ key →
      byName.lookup name = some ep := by
    intro name ep hep hne hkey
    rw [hlook, if_neg, hep]
    intro hany
    obtain ⟨slot, hmem, hslot⟩ := List.any_eq_true.mp hany
    obtain ⟨htaken, hname⟩ := of_decide_eq_true hslot
    have hrec := (h.of_ready hpool hmem (of_decide_eq_true htaken).1).1
    rw [hname, hep, Option.some.injEq] at hrec
    exact hkey (hrec ▸ rfl)
  have hpools : ∀ k, k ≠ key → (reg.backendConnPools.insert key
      { sceneIncarnation := incarnation, channels := pool.channels.map vacated }).lookup k =
      reg.backendConnPools.lookup k := fun k hk =>
    (Table.lookup_insert _ _ _ _).trans (if_neg hk)
  refine
    { size := fun k p hp => ?_
      slots := fun k p i slot hp hs => ?_
      named := fun name ep hep => ?_
      bound := fun name ep hep hne => ?_
      pending := fun name u hu => ?_
      byService := fun service name hs => ?_
      byInstance := fun k name hs => ?_ }
  · rw [Table.lookup_insert] at hp
    split at hp
    · cases hp
      rw [List.length_map]
      exact h.size _ pool hpool
    · exact h.size k p hp
  · by_cases hk : k = key
    · rw [Table.lookup_insert, if_pos hk] at hp
      cases hp
      simp only [List.getElem?_map, Option.map_eq_some_iff] at hs
      obtain ⟨old, hold, rfl⟩ := hs
      have hkept := h.slots _ pool i old hpool hold
      obtain ⟨hid, hready, hempty⟩ := vacated_spec old
      have hnot : (vacated old).ready ≠ true := fun hr => by
        have hname := hready hr
        by_cases hold' : old.ready = true
        · exact hkept.name hold' hname
        · have hfree : taken old = false := by simp [taken, hold']
          rw [vacated, hfree] at hr
          exact hold' hr
      refine ⟨hid.trans hkept.channelId, fun _ => ?_, fun hr => absurd hr hnot,
        fun hr => absurd hr hnot, fun hr => absurd hr hnot, fun hr => absurd hr hnot,
        fun hr => absurd hr hnot⟩
      by_cases hold' : old.ready = true
      · have htaken : taken old = true := by simp [taken, hold', hkept.name hold']
        rw [vacated, htaken]
        rfl
      · exact hempty (hkept.empty (by simpa using hold'))
    · rw [hpools k hk] at hp
      have hkept := h.slots k p i slot hp hs
      exact ⟨hkept.channelId, hkept.empty, hkept.name, hkept.service, hkept.incarnation,
        hkept.scene, fun hr => hstay _ _ (hkept.record hr) (hkept.service hr) hk⟩
  · rw [hlook] at hep
    split at hep
    · obtain ⟨old, hold, rfl⟩ := Option.map_eq_some_iff.mp hep
      exact h.named name old hold
    · exact h.named name ep hep
  · obtain ⟨hold, hkey⟩ := hgone name ep hep hne
    obtain ⟨hrec, -, slot, ⟨p, hp, hslot⟩, hrest⟩ := h.bound name ep hold hne
    exact ⟨hstay _ _ hrec hne hkey, hne, slot, ⟨p, (hpools _ hkey).trans hp, hslot⟩, hrest⟩
  · obtain ⟨hpos, hnone⟩ := h.pending name u hu
    refine ⟨hpos, ?_⟩
    rw [hlook, hnone]
    split <;> rfl
  · obtain ⟨hold, hlive⟩ := keepService_spec hs
    obtain ⟨ep, hep, hne, hservice⟩ := h.byService service name hold
    by_cases hkey : ep.key = key
    · -- the record was given up, so the entry would have gone
      have hsame : service = key.serviceId := hservice.symm.trans (congrArg (·.serviceId) hkey)
      cases hnew : byName.lookup name with
      | none =>
        rw [hlook, hep] at hnew
        split at hnew <;> cases hnew
      | some ep' =>
        have hne' := hlive hsame ep' hnew
        obtain ⟨hold', hkey'⟩ := hgone name ep' hnew hne'
        cases hep.symm.trans hold'
        exact absurd hkey hkey'
    · exact ⟨ep, hstay _ _ hep hne hkey, hne, hservice⟩
  · rw [Table.lookup_erase] at hs
    split at hs
    · cases hs
    · rename_i hk
      obtain ⟨ep, hep, hne, hkey⟩ := h.byInstance k name hs
      exact ⟨ep, hstay _ _ hep hne fun heq => hk (hkey.symm.trans heq), hne, hkey⟩

theorem Integrity.replaceIncarnation (h : Integrity reg) {key : BackendKey} {connName : ConnName}
    {incarnation : Nat} (hpend : (reg.pendingConn.lookup connName).isSome)
    (hscene : key.serviceId = ServerID.kScene ↔ incarnation ≠ 0) :
    let out := reg.replaceIncarnation key
      ((reg.backendConnPools.lookup key).getD reg.freshPool) connName incarnation
    Prepared reg out.2.1 key out.2.2 incarnation := by
  unfold ServiceRegistry.replaceIncarnation
  have hins := h.insertPool key
  have hfound : (reg.backendConnPools.insert key
      ((reg.backendConnPools.lookup key).getD reg.freshPool)).lookup key =
      some ((reg.backendConnPools.lookup key).getD reg.freshPool) :=
    Table.lookup_insert_same _ _ _
  split
  · rename_i hnew
    obtain ⟨u, hu⟩ := Option.isSome_iff_exists.mp hpend
    -- only a pool that was there has an incarnation
    cases hpool : reg.backendConnPools.lookup key with
    | none =>
      rw [hpool] at hnew
      exact absurd rfl hnew.2.1
    | some pool =>
      simp only [Option.getD_some]
      have hsame : (pool.channels.any fun slot => slot.ready ∧ slot.connName = connName ∧
          slot.sceneIncarnation = incarnation) = false := by
        rw [List.any_eq_false]
        intro slot hmem hslot
        obtain ⟨hready, hname, _⟩ := of_decide_eq_true hslot
        have hrec := (h.of_ready hpool hmem hready).1
        rw [hname, (h.pending connName u hu).2] at hrec
        cases hrec
      rw [hsame]
      obtain ⟨hslots, byName, hreg, hlook⟩ :=
        @giveUp_spec reg incarnation pool.channels [] 0
      revert hslots hreg
      generalize pool.channels.foldl _ _ = out
      intro hslots hreg
      obtain ⟨replaced, reg1, channels⟩ := out
      simp only [List.nil_append] at hslots hreg
      subst hslots hreg
      refine ⟨h.renewed incarnation hpool hlook, Table.lookup_insert_same _ _ _, rfl, rfl,
        fun slot hmem hready => ?_⟩
      obtain ⟨old, hold, rfl⟩ := List.mem_map.mp hmem
      obtain ⟨_, hname, _⟩ := vacated_spec old
      obtain ⟨i, hi⟩ := List.getElem?_of_mem hold
      have hkept := h.slots _ pool i old hpool hi
      by_cases hr : old.ready = true
      · exact absurd (hname hready) (hkept.name hr)
      · have hfree : taken old = false := by simp [taken, hr]
        rw [vacated, hfree] at hready
        exact absurd hready hr
  · rename_i hold
    refine ⟨hins, hfound, rfl, rfl, fun slot hmem hready => ?_⟩
    obtain ⟨i, hi⟩ := List.getElem?_of_mem hmem
    have hkept := hins.slots key _ i slot hfound hi
    have hinc := hkept.incarnation hready
    by_cases hz : incarnation = 0
    · have hnot : ¬ slot.sceneIncarnation ≠ 0 := fun hne =>
        hscene.mp ((hkept.scene hready).mpr hne) hz
      rw [hz]
      exact not_not.mp hnot
    · have hne := (hkept.scene hready).mp (hscene.mpr hz)
      rw [hinc] at hne ⊢
      by_contra hdiff
      exact hold ⟨hz, hne, Ne.symm hdiff⟩

/-- What is left when the slot's holder has given way. -/
structure Cleared (reg reg' : ServiceRegistry) (key : BackendKey) (slot : BackendConn) : Prop where
  pools : reg'.backendConnPools = reg.backendConnPools
  pending : reg'.pendingConn = reg.pendingConn
  size : reg'.connPoolSize = reg.connPoolSize
  byName : ∀ name, reg'.byName.lookup name =
    if slot.ready = true ∧ name = slot.connName then
      (reg.byName.lookup name).map ServiceEndpoint.demoted
    else reg.byName.lookup name
  byService : ∀ service name, reg'.byService.lookup service = some name →
    reg.byService.lookup service = some name
  byInstance : ∀ k name, reg'.byInstance.lookup k = some name →
    reg.byInstance.lookup k = some name

theorem replaceSlot_spec {key : BackendKey} {slot : BackendConn} {connName replaced : ConnName}
    (hrec : slot.ready = true → ∃ ep, reg.byName.lookup slot.connName = some ep)
    (hne : slot.ready = true → slot.connName ≠ connName) :
    ∃ replaced' reg', reg.replaceSlot key slot connName replaced = some (replaced', reg') ∧
      Cleared reg reg' key slot := by
  unfold replaceSlot
  by_cases hready : slot.ready = true
  · obtain ⟨ep, hep⟩ := hrec hready
    rw [if_pos ⟨hready, hne hready⟩]
    simp only [hep]
    refine ⟨_, _, rfl, rfl, rfl, rfl, fun name => ?_, fun service name hs => ?_,
      fun k name hs => ?_⟩
    · rw [lookup_demote]
      simp [hready]
    · simp only at hs
      split at hs
      · rw [Table.lookup_erase] at hs
        split at hs
        · cases hs
        · exact hs
      · exact hs
    · simp only at hs
      split at hs
      · rw [Table.lookup_erase] at hs
        split at hs
        · cases hs
        · exact hs
      · exact hs
  · rw [if_neg fun hno => hready hno.1]
    exact ⟨_, _, rfl, rfl, rfl, rfl, fun name => by simp [hready], fun _ _ => id, fun _ _ => id⟩

/-- The connection takes the slot and all entries. -/
theorem Integrity.enroll (h : Integrity reg) {endpoint : ServiceEndpoint} {pool : BackendConnPool}
    {slot : BackendConn} {u : Unit} (hpend : reg.pendingConn.lookup endpoint.connName = some u)
    (hservice : endpoint.serviceId ≠ 0)
    (hscene : endpoint.serviceId = ServerID.kScene ↔ endpoint.sceneIncarnation ≠ 0)
    (hpool : reg.backendConnPools.lookup endpoint.key = some pool)
    (hinc : ∀ x ∈ pool.channels, x.ready = true → x.sceneIncarnation = endpoint.sceneIncarnation)
    (hslot : pool.channels[endpoint.channelId]? = some slot)
    (hcleared : Cleared reg reg' endpoint.key slot) : Integrity (reg'.enroll endpoint) := by
  obtain ⟨hpos, hfree⟩ := h.pending _ _ hpend
  have hkept := h.slots _ pool _ slot hpool hslot
  have hlt : endpoint.channelId < pool.channels.length := (List.getElem?_eq_some_iff.mp hslot).1
  -- lookups of the result
  have hnames : ∀ name, (reg'.enroll endpoint).byName.lookup name =
      if name = endpoint.connName then some endpoint
      else if slot.ready = true ∧ name = slot.connName then
        (reg.byName.lookup name).map ServiceEndpoint.demoted
      else reg.byName.lookup name := by
    intro name
    rw [← hcleared.byName]
    exact Table.lookup_insert _ _ _ _
  have hpools : ∀ k, (reg'.enroll endpoint).backendConnPools.lookup k =
      if k = endpoint.key then
        some
          { sceneIncarnation := endpoint.sceneIncarnation
            channels := pool.channels.set endpoint.channelId
              { connName := endpoint.connName
                channelId := endpoint.channelId
                connectionGeneration := slot.connectionGeneration + 1
                sceneIncarnation := endpoint.sceneIncarnation
                ready := true } }
      else reg.backendConnPools.lookup k := by
    intro k
    refine (Table.lookup_insert _ _ _ _).trans ?_
    rw [hcleared.pools, hpool]
    simp [hslot]
  -- the holder of the slot is the one connection that loses its identity
  have hstale : ∀ name ep, reg.byName.lookup name = some ep → slot.ready = true →
      name = slot.connName → ep = identity endpoint.key slot := by
    intro name ep hep hready hname
    rw [hname, hkept.record hready] at hep
    exact (Option.some.inj hep).symm
  have hother : ∀ name ep, reg.byName.lookup name = some ep →
      ¬ (slot.ready = true ∧ name = slot.connName) →
      (reg'.enroll endpoint).byName.lookup name = some ep := by
    intro name ep hep hnot
    rw [hnames, if_neg, if_neg hnot, hep]
    rintro rfl
    rw [hfree] at hep
    cases hep
  refine
    { size := fun k p hp => ?_
      slots := fun k p i x hp hx => ?_
      named := fun name ep hep => ?_
      bound := fun name ep hep hne => ?_
      pending := fun name v hv => ?_
      byService := fun service name hs => ?_
      byInstance := fun k name hs => ?_ }
  · show p.channels.length = reg'.connPoolSize
    rw [hpools] at hp
    rw [hcleared.size]
    split at hp
    · cases hp
      rw [List.length_set]
      exact h.size _ pool hpool
    · exact h.size k p hp
  · rw [hpools] at hp
    split at hp
    · rename_i hk
      cases hp
      rw [hk]
      rw [List.getElem?_set] at hx
      split at hx
      · rename_i hi
        cases hx
        refine ⟨hi, nofun, fun _ => hpos, fun _ => hservice, fun _ => rfl, fun _ => hscene,
          fun _ => ?_⟩
        rw [hnames, if_pos rfl]
        rfl
      · rename_i hi
        have hx' := h.slots _ pool i x hpool hx
        refine ⟨hx'.channelId, hx'.empty, hx'.name, hx'.service,
          fun hr => hinc x (List.mem_of_getElem? hx) hr, hx'.scene, fun hr => ?_⟩
        refine hother _ _ (hx'.record hr) fun hsame => hi ?_
        have heq := hstale _ _ (hx'.record hr) hsame.1 hsame.2
        have hid : x.channelId = slot.channelId := congrArg (·.channelId) heq
        exact hkept.channelId.symm.trans (hid.symm.trans hx'.channelId)
    · rename_i hk
      have hx' := h.slots k p i x hp hx
      refine ⟨hx'.channelId, hx'.empty, hx'.name, hx'.service, hx'.incarnation, hx'.scene,
        fun hr => hother _ _ (hx'.record hr) fun hsame => hk ?_⟩
      exact congrArg ServiceEndpoint.key (hstale _ _ (hx'.record hr) hsame.1 hsame.2)
  · rw [hnames] at hep
    split at hep
    · rename_i hname
      cases hep
      exact hname.symm
    split at hep
    · obtain ⟨old, hold, rfl⟩ := Option.map_eq_some_iff.mp hep
      exact h.named name old hold
    · exact h.named name ep hep
  · rw [hnames] at hep
    split at hep
    · rename_i hname
      cases hep
      refine ⟨by rw [hnames, if_pos rfl], hservice, _,
        ⟨_, by rw [hpools, if_pos rfl], List.getElem?_set_self hlt⟩, rfl, rfl⟩
    split at hep
    · obtain ⟨old, _, rfl⟩ := Option.map_eq_some_iff.mp hep
      exact absurd rfl hne
    · rename_i hnew hkeep
      obtain ⟨hrec, -, x, ⟨p, hp, hx⟩, hxready, hxname⟩ := h.bound name ep hep hne
      have hepname := h.named name ep hep
      refine ⟨?_, hne, x, ?_, hxready, hxname⟩
      · exact hother _ _ hrec (hepname.symm ▸ hkeep)
      by_cases hk : ep.key = endpoint.key
      · rw [hk, hpool] at hp
        cases hp
        refine ⟨_, by rw [hpools, if_pos hk], ?_⟩
        rw [List.getElem?_set_ne, hx]
        intro hi
        rw [← hi, hslot] at hx
        cases hx
        exact hkeep ⟨hxready, hepname.symm.trans hxname.symm⟩
      · exact ⟨p, by rw [hpools, if_neg hk, hp], hx⟩
  · have hv' : (reg'.pendingConn.erase endpoint.connName).lookup name = some v := hv
    rw [Table.lookup_erase] at hv'
    split at hv'
    · cases hv'
    · rename_i hname
      rw [hcleared.pending] at hv'
      obtain ⟨hpos', hnone⟩ := h.pending name v hv'
      refine ⟨hpos', ?_⟩
      rw [hnames, if_neg hname, hnone]
      split <;> rfl
  · have hs' : (reg'.byService.insert endpoint.serviceId endpoint.connName).lookup service =
        some name := hs
    rw [Table.lookup_insert] at hs'
    split at hs'
    · rename_i hsame
      cases hs'
      exact ⟨endpoint, by rw [hnames, if_pos rfl], hservice, hsame.symm⟩
    · rename_i hdiff
      obtain ⟨ep, hep, hne, hes⟩ := h.byService service name (hcleared.byService _ _ hs')
      refine ⟨ep, hother name ep hep fun hsame => hdiff ?_, hne, hes⟩
      exact hes.symm.trans (congrArg (·.serviceId) (hstale name ep hep hsame.1 hsame.2))
  · have hs' : (reg'.byInstance.insert endpoint.key endpoint.connName).lookup k = some name := hs
    rw [Table.lookup_insert] at hs'
    split at hs'
    · rename_i hsame
      cases hs'
      exact ⟨endpoint, by rw [hnames, if_pos rfl], hservice, hsame.symm⟩
    · rename_i hdiff
      obtain ⟨ep, hep, hne, hek⟩ := h.byInstance k name (hcleared.byInstance _ _ hs')
      refine ⟨ep, hother name ep hep fun hsame => hdiff ?_, hne, hek⟩
      rw [← hek, hstale name ep hep hsame.1 hsame.2]
      rfl

/-- A registration keeps the indexes in agreement, whether it is taken or refused. -/
theorem Integrity.bind (h : Integrity reg) (endpoint : ServiceEndpoint)
    (hscene : endpoint.serviceId = ServerID.kScene ↔ endpoint.sceneIncarnation ≠ 0) :
    Integrity (reg.bind endpoint).2 := by
  unfold ServiceRegistry.bind
  split
  · exact h
  rename_i hguard
  simp only [not_or, Nat.not_le] at hguard
  split
  · exact h
  rename_i u hpend
  have hprep := @Integrity.replaceIncarnation reg h endpoint.key endpoint.connName
    endpoint.sceneIncarnation (by rw [hpend]; rfl) hscene
  simp only at hprep ⊢
  revert hprep
  generalize reg.replaceIncarnation _ _ _ _ = out
  obtain ⟨replaced, reg1, pool⟩ := out
  intro hprep
  have h1 := hprep.integrity
  have hpend1 : reg1.pendingConn.lookup endpoint.connName = some u := hprep.pending ▸ hpend
  split
  · exact h1
  rename_i slot hslot
  have hkept := h1.slots _ pool _ slot hprep.found hslot
  have hfree := (h1.pending _ _ hpend1).2
  obtain ⟨replaced', reg2, hrun, hcleared⟩ := @replaceSlot_spec reg1 endpoint.key slot
    endpoint.connName replaced
    (fun hr => ⟨_, hkept.record hr⟩) fun hr hname => by
      rw [← hname, hkept.record hr] at hfree
      cases hfree
  rw [hrun]
  simp only
  have hnone : reg2.byName.lookup endpoint.connName = none := by
    rw [hcleared.byName, hfree]
    split <;> rfl
  rw [replaceRecord, hnone]
  exact h1.enroll hpend1 hguard.1 hscene hprep.found hprep.incarnation hslot hcleared

end Bind

section Runs

inductive RegistryStep where
  | addPending (connName : ConnName)
  | removeByName (connName : ConnName)
  | bind (connName : ConnName) (hs : BackendHandshake)
  | selectByScene (key : BackendKey)

/-- One call of the registry; only valid announcements are bound. -/
def step (reg : ServiceRegistry) : RegistryStep → Option ServiceRegistry
  | .addPending connName => some (reg.addPending connName).2
  | .removeByName connName => some (reg.removeByName connName).2
  | .bind connName hs =>
    if validBackendHandshake hs then
      some (reg.bind
        { connName, serviceId := hs.serviceId, zoneId := hs.zoneId, sceneId := hs.sceneId
          channelId := hs.channelId, sceneIncarnation := hs.sceneIncarnation }).2
    else none
  | .selectByScene key => some (reg.selectByScene key).2

theorem valid_incarnation {hs : BackendHandshake} (h : validBackendHandshake hs = true) :
    hs.serviceId = ServerID.kScene ↔ hs.sceneIncarnation ≠ 0 := by
  unfold validBackendHandshake at h
  split at h
  · cases h
  split at h
  · rename_i hscene
    exact ⟨fun _ => (of_decide_eq_true h).2, fun _ => hscene⟩
  · rename_i hother
    exact ⟨fun hscene => absurd hscene hother, fun hne => absurd (of_decide_eq_true h).2.1 hne⟩

theorem Integrity.step {l : RegistryStep} (h : Integrity reg) (hstep : step reg l = some reg') :
    Integrity reg' := by
  cases l with
  | addPending connName =>
    cases hstep
    exact h.addPending connName
  | removeByName connName =>
    cases hstep
    exact h.removeByName connName
  | bind connName hs =>
    simp only [ServiceRegistry.step] at hstep
    split at hstep
    · rename_i hvalid
      cases hstep
      exact h.bind _ (valid_incarnation hvalid)
    · cases hstep
  | selectByScene key =>
    cases hstep
    exact h.afterSelect key

/-- After any calls the indexes agree and selections return current connections only. -/
theorem registry_consistent {poolSize : Nat} {ls : List RegistryStep}
    (hrun : Run.exec step (new poolSize) ls = some reg) : Consistent reg :=
  (Run.exec_invariant Integrity (fun _ _ _ h hstep => h.step hstep) (integrity_new poolSize)
    hrun).consistent

/-- Both channels of a scene register, then the first one of its successor: one is selectable. -/
theorem registry_consistent_restart :
    ∃ reg, Run.exec step (new 2)
        [.addPending 1, .addPending 2, .addPending 3,
          .bind 1 { serviceId := 8, zoneId := 1, sceneId := 5, sceneIncarnation := 9
                    targetGatewayId := 1 },
          .bind 2 { serviceId := 8, zoneId := 1, sceneId := 5, sceneIncarnation := 9
                    targetGatewayId := 1, channelId := 1 },
          .bind 3 { serviceId := 8, zoneId := 1, sceneId := 5, sceneIncarnation := 10
                    targetGatewayId := 1 },
          .removeByName 1] = some reg ∧
      (reg.getPool ⟨8, 1, 5⟩).map (·.connName) = [3] ∧ Consistent reg := by
  have hpool : ((Run.exec step (new 2)
        [.addPending 1, .addPending 2, .addPending 3,
          .bind 1 { serviceId := 8, zoneId := 1, sceneId := 5, sceneIncarnation := 9
                    targetGatewayId := 1 },
          .bind 2 { serviceId := 8, zoneId := 1, sceneId := 5, sceneIncarnation := 9
                    targetGatewayId := 1, channelId := 1 },
          .bind 3 { serviceId := 8, zoneId := 1, sceneId := 5, sceneIncarnation := 10
                    targetGatewayId := 1 },
          .removeByName 1]).any fun reg =>
      (reg.getPool ⟨8, 1, 5⟩).map (·.connName) = [3]) = true := by
    decide +kernel
  obtain ⟨reg, hreg, hpool⟩ := (Option.any_eq_true _ _).mp hpool
  exact ⟨reg, hreg, of_decide_eq_true hpool, registry_consistent hreg⟩

end Runs

end ServiceRegistry

end Gateway
