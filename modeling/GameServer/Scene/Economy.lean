import GameServer.Scene.BagHistory
import GameServer.Scene.Player

/-!
# Reserved purchases

A purchase is reserved, and its plan is stored before it is committed. The reservation
holds the gold and the bag that the commit installs. Until it is settled nothing else may
change the gold or the bag, so what the plan was made from is still there.
-/

namespace Scene

open Gateway (Bytes ClientData)

section Bags

variable {a a' b b' : Bag} {itemId : UInt32} {num : UInt16}

theorem Bag.Same.used (h : a.Same b) : a.used = b.used :=
  (Table.entries_perm_of_lookup h.items).length_eq

theorem Bag.addItem_capacity (h : a.addItem itemId num = some a') : a'.capacity = a.capacity := by
  unfold Bag.addItem at h
  split at h
  · cases h
  split at h <;> split at h <;> cases h <;> rfl

/-- When an item is taken. -/
theorem Bag.addItem_isSome : (b.addItem itemId num).isSome = true ↔ itemId ≠ 0 ∧ num ≠ 0 ∧
    match b.items.lookup itemId with
    | some st => st.count.toNat + num.toNat ≤ 65535
    | none => b.used < b.capacity ∧ b.nextSlot < 65536 := by
  by_cases hzero : itemId = 0 ∨ num = 0
  · have hnone : b.addItem itemId num = none := dif_pos hzero
    rw [hnone]
    simp only [Option.isSome_none, Bool.false_eq_true, ne_eq, false_iff]
    exact fun h => hzero.elim h.1 h.2.1
  obtain ⟨hid, hnum⟩ := not_or.mp hzero
  cases hst : b.items.lookup itemId with
  | none =>
    rw [Bag.addItem_isSome_iff hid hnum hst]
    exact ⟨fun h => ⟨hid, hnum, h⟩, fun h => h.2.2⟩
  | some st =>
    unfold Bag.addItem
    rw [dif_neg hzero]
    split
    · rename_i st' hst'
      cases hst'.symm.trans hst
      split
      · rename_i hmax
        simp only [Option.isSome_none, Bool.false_eq_true, false_iff]
        omega
      · rename_i hmax
        exact ⟨fun _ => ⟨hid, hnum, Nat.le_of_not_lt hmax⟩, fun _ => rfl⟩
    · rename_i hnone
      cases hnone.symm.trans hst

theorem Bag.Same.added (h : a.Same b) (ha : Bag.Added a itemId num a')
    (hb : Bag.Added b itemId num b') (hcapacity : a'.capacity = b'.capacity) : a'.Same b' := by
  cases ha with
  | stacked st hst hmax hslot hitems =>
    cases hb with
    | stacked st' hst' hmax' hslot' hitems' =>
      cases hst'.symm.trans ((h.items itemId).symm.trans hst)
      refine ⟨hcapacity, hslot.trans (h.nextSlot.trans hslot'.symm), fun id => ?_⟩
      rw [hitems, hitems', Table.lookup_insert, Table.lookup_insert, h.items]
    | opened hnone hslot' hitems' => cases hst.symm.trans ((h.items itemId).trans hnone)
  | opened hnone hslot hitems =>
    cases hb with
    | stacked st' hst' hmax' hslot' hitems' => cases hst'.symm.trans ((h.items itemId).symm.trans hnone)
    | opened hnone' hslot' hitems' =>
      refine ⟨hcapacity, by rw [hslot, hslot', h.nextSlot], fun id => ?_⟩
      rw [hitems, hitems', Table.lookup_insert, Table.lookup_insert, h.items, h.nextSlot]

/-- Bags that hold the same hold the same when an item was added to both. -/
theorem Bag.Same.addItem (h : a.Same b) (ha : a.addItem itemId num = some a') :
    ∃ b', b.addItem itemId num = some b' ∧ a'.Same b' := by
  have hsome := Bag.addItem_isSome.mp (Option.isSome_of_eq_some ha)
  rw [h.items, h.used, h.capacity, h.nextSlot] at hsome
  obtain ⟨b', hb⟩ := Option.isSome_iff_exists.mp (Bag.addItem_isSome.mpr hsome)
  have hcapacity := (Bag.addItem_capacity ha).trans (h.capacity.trans (Bag.addItem_capacity hb).symm)
  exact ⟨b', hb, h.added (Bag.addItem_added ha) (Bag.addItem_added hb) hcapacity⟩

end Bags

namespace Player

/-- What is called on a player: its operations, and what its thread and the player service set. -/
inductive Call where
  | op (op : Op)
  | set_id (playerId : Nat)
  | set_epoch (epoch : Nat)
  | set_session (session : Nat)
  | set_clientBinding (clientBinding : ClientData)
  | markDirty
  | clearDirty
  | place (x y dir : Int32)
  | recordMutation

variable (p : Player)

def call : Call → Player
  | .op op => p.apply op
  | .set_id playerId => { p with playerId }
  | .set_epoch epoch => { p with epoch }
  | .set_session session => { p with session }
  | .set_clientBinding clientBinding => { p with clientBinding }
  | .markDirty => { p with dirty := true }
  | .clearDirty => { p with dirty := false }
  | .place x y dir => { p with x, y, dir }
  | .recordMutation => p.recordMutation

def calls (cs : List Call) : Player := cs.foldl call p

/-- The plan that a reservation shows. -/
def economyCandidate : Option PlayerSaveSnapshot := p.economyReservation.map (·.candidate)

/-- A call that settles an operation. -/
def Call.Settles (operationId : Bytes) (c : Call) : Prop :=
  c = .op (.commitEconomy operationId) ∨ c = .op (.cancelEconomy operationId)

/-- What a purchase would change is as it was. -/
structure Untouched (p q : Player) : Prop where
  gold : q.gold = p.gold
  bag : q.bag = p.bag
  mutationRevision : q.mutationRevision = p.mutationRevision
  dirty : q.dirty = p.dirty

/-- A reservation that was made from the gold and the bag that the player has. -/
structure Reserved (p : Player) (r : EconomyReservation) : Prop where
  afford : r.request.cost ≤ p.gold
  gold : r.candidate.gold = p.gold - r.request.cost
  items : r.candidate.items = r.preparedBag.view
  nextSlot : r.candidate.bagNextSlot = r.preparedBag.nextSlot
  capacity : r.candidate.bagCapacity = r.preparedBag.capacity
  prepared : ∃ b, p.bag.addItem r.request.itemId r.request.count = some b ∧ r.preparedBag.Same b

variable {p} {q : Player} {r : EconomyReservation} {operationId : Bytes}

theorem Reserved.of_eq (h : Reserved p r) (hgold : q.gold = p.gold) (hbag : q.bag = p.bag) :
    Reserved q r := by
  obtain ⟨afford, gold, items, nextSlot, capacity, prepared⟩ := h
  exact ⟨hgold ▸ afford, hgold ▸ gold, items, nextSlot, capacity, hbag ▸ prepared⟩

/-- How a reservation is asked for. -/
inductive Reserving (p : Player) (request : EconomyRequest) : Except Thrown (Bool × Player) → Prop
  | repeated (r : EconomyReservation) (hr : p.economyReservation = some r) :
    Reserving p request (.ok (decide (r.request = request), p))
  | refused (hnone : p.economyReservation = none) : Reserving p request (.ok (false, p))
  | thrown (hnone : p.economyReservation = none) (t : Thrown) : Reserving p request (.error t)
  | reserved (hnone : p.economyReservation = none) (r : EconomyReservation) (hr : Reserved p r)
    (hrequest : r.request = request) :
    Reserving p request (.ok (true, { p with economyReservation := some r }))

theorem reserveEconomy_spec (p : Player) (request : EconomyRequest) :
    Reserving p request (p.reserveEconomy request) := by
  unfold reserveEconomy
  split
  · rename_i r hr
    exact .repeated r hr
  rename_i hnone
  split
  · exact .refused hnone
  rename_i hvalid
  split
  · exact .thrown hnone _
  split
  · exact .thrown hnone _
  rename_i frozen hfrozen
  have hcapacity : frozen.bagCapacity = p.bag.capacity := by
    unfold freezeSaveSnapshot at hfrozen
    split at hfrozen <;> cases hfrozen
    rfl
  obtain ⟨copy, hcopy, hsame⟩ := Bag.restore_view p.bag
  rw [hcopy, Option.bind_some]
  split
  · exact .refused hnone
  rename_i preparedBag hprepared
  obtain ⟨b, hb, hsame'⟩ := hsame.addItem hprepared
  refine .reserved hnone _ ⟨?_, rfl, rfl, rfl, ?_, b, hb, hsame'⟩ rfl
  · simp only [not_or, UInt32.not_lt] at hvalid
    exact hvalid.2.2.2.2.2.2
  · exact hcapacity.trans (hsame.capacity.symm.trans (Bag.addItem_capacity hprepared).symm)

/-- How a reservation is settled. -/
inductive Settling (p : Player) (operationId : Bytes) (settle : EconomyReservation → Player) :
    Except Thrown (Bool × Player) → Prop
  | refused (h : ∀ r, p.economyReservation = some r → r.request.operationId ≠ operationId) :
    Settling p operationId settle (.ok (false, p))
  | thrown (t : Thrown) : Settling p operationId settle (.error t)
  | settled (r : EconomyReservation) (hr : p.economyReservation = some r)
    (hid : r.request.operationId = operationId) : Settling p operationId settle (.ok (true, settle r))

/-- What a commit installs. -/
def install (p : Player) (r : EconomyReservation) : Player :=
  recordMutation
    { p with gold := r.candidate.gold, bag := r.preparedBag, economyReservation := none }

theorem commitEconomy_spec (p : Player) (operationId : Bytes) :
    Settling p operationId p.install (p.commitEconomy operationId) := by
  unfold commitEconomy
  split
  · rename_i hnone
    exact .refused fun r hr => nomatch hnone.symm.trans hr
  rename_i r hr
  split
  · rename_i hid
    refine .refused fun r' hr' => ?_
    cases hr.symm.trans hr'
    exact hid
  rename_i hid
  split
  · exact .thrown _
  · exact .settled r hr (not_not.mp hid)

theorem cancelEconomy_spec (p : Player) (operationId : Bytes) :
    Settling p operationId (fun _ => { p with economyReservation := none })
      (.ok (p.cancelEconomy operationId)) := by
  unfold cancelEconomy
  split
  · rename_i hnone
    exact .refused fun r hr => nomatch hnone.symm.trans hr
  rename_i r hr
  split
  · rename_i hid
    refine .refused fun r' hr' => ?_
    cases hr.symm.trans hr'
    exact hid
  · rename_i hid
    exact .settled r hr (not_not.mp hid)

/-- A call that leaves the reservation, and what it was made from while there is one. -/
structure Kept (p q : Player) : Prop where
  reservation : q.economyReservation = p.economyReservation
  held : p.economyPending = true → q.gold = p.gold ∧ q.bag = p.bag

theorem Kept.refl : Kept p p := ⟨rfl, fun _ => ⟨rfl, rfl⟩⟩

theorem kept_mutate {change : Player → Player} (h : Kept p (change p).recordMutation) :
    Kept p (p.left id (p.mutate change)) := by
  unfold mutate
  split
  · exact .refl
  · exact h

theorem kept_changeBag (change : Bag → Option Bag) :
    Kept p (p.left (·.2) (p.changeBag change)) := by
  unfold changeBag
  split
  · exact .refl
  rename_i hpending
  split
  · exact .refl
  split
  · exact .refl
  · exact ⟨rfl, fun h => absurd h hpending⟩

theorem kept_set_hp (value : UInt16) : Kept p (p.left id (p.set_hp value)) := by
  unfold set_hp
  split
  · exact .refl
  · exact kept_mutate ⟨rfl, fun _ => ⟨rfl, rfl⟩⟩

theorem kept_set_mp (value : UInt16) : Kept p (p.left id (p.set_mp value)) := by
  unfold set_mp
  split
  · exact .refl
  · exact kept_mutate ⟨rfl, fun _ => ⟨rfl, rfl⟩⟩

theorem kept_addGold (delta : Int64) : Kept p (p.left id (p.addGold delta)) := by
  unfold addGold
  split
  · exact .refl
  rename_i hpending
  dsimp only
  split
  · exact .refl
  · exact kept_mutate ⟨rfl, fun h => absurd h hpending⟩

theorem kept_clearBag : Kept p (p.left id p.clearBag) := by
  unfold clearBag
  split
  · exact .refl
  rename_i hpending
  split
  · exact .refl
  · exact kept_mutate ⟨rfl, fun h => absurd h hpending⟩

theorem kept_restoreSaveSnapshot (snapshot : PlayerSaveSnapshot) :
    Kept p ((p.restoreSaveSnapshot snapshot).getD p) := by
  unfold restoreSaveSnapshot
  split
  · exact .refl
  rename_i hpending
  split
  · exact .refl
  split
  · exact .refl
  · exact ⟨rfl, fun h => absurd h hpending⟩

/-- What a call does to a reservation. -/
inductive Effect (p : Player) (c : Call) (q : Player) : Prop
  | kept (h : Kept p q)
  | reserved (request : EconomyRequest) (hc : c = .op (.reserveEconomy request))
    (r : EconomyReservation) (hnone : p.economyReservation = none) (hr : Reserved p r)
    (hq : q = { p with economyReservation := some r })
  | settled (r : EconomyReservation) (hr : p.economyReservation = some r)
    (hc : c.Settles r.request.operationId) (hq : q.economyReservation = none)

theorem call_effect (p : Player) (c : Call) : Effect p c (p.call c) := by
  cases c with
  | set_id | set_epoch | set_session | set_clientBinding | markDirty | clearDirty | place
    | recordMutation => exact .kept ⟨rfl, fun _ => ⟨rfl, rfl⟩⟩
  | op op =>
    cases op with
    | set_hp value => exact .kept (kept_set_hp value)
    | modifyHp delta => exact .kept (kept_set_hp _)
    | set_mp value => exact .kept (kept_set_mp value)
    | modifyMp delta => exact .kept (kept_set_mp _)
    | addGold delta => exact .kept (kept_addGold delta)
    | setPos x y dir =>
      refine .kept ?_
      change Kept p (p.left id (p.setPos x y dir))
      unfold setPos
      split
      · exact .refl
      · exact kept_mutate ⟨rfl, fun _ => ⟨rfl, rfl⟩⟩
    | setSceneId sceneId =>
      refine .kept ?_
      change Kept p (p.left id (p.setSceneId sceneId))
      unfold setSceneId
      split
      · exact .refl
      split
      · exact .refl
      · exact kept_mutate ⟨rfl, fun _ => ⟨rfl, rfl⟩⟩
    | addItem itemId count => exact .kept (kept_changeBag _)
    | consumeItem itemId count => exact .kept (kept_changeBag _)
    | clearBag => exact .kept kept_clearBag
    | restoreSaveSnapshot snapshot => exact .kept (kept_restoreSaveSnapshot snapshot)
    | confirmSave version revision =>
      refine .kept ?_
      change Kept p (p.confirmSave version revision)
      unfold confirmSave
      split
      · exact .refl
      · exact ⟨rfl, fun _ => ⟨rfl, rfl⟩⟩
    | reserveEconomy request =>
      change Effect p _ (p.left (·.2) (p.reserveEconomy request))
      have hspec := reserveEconomy_spec p request
      revert hspec
      generalize p.reserveEconomy request = result
      rintro (⟨r, hr⟩ | hnone | ⟨hnone, t⟩ | ⟨hnone, r, hr, hrequest⟩)
      · exact .kept .refl
      · exact .kept .refl
      · exact .kept .refl
      · exact .reserved request rfl r hnone hr rfl
    | commitEconomy operationId =>
      change Effect p _ (p.left (·.2) (p.commitEconomy operationId))
      have hspec := commitEconomy_spec p operationId
      revert hspec
      generalize p.commitEconomy operationId = result
      rintro (h | t | ⟨r, hr, rfl⟩)
      · exact .kept .refl
      · exact .kept .refl
      · exact .settled r hr (.inl rfl) rfl
    | cancelEconomy operationId =>
      change Effect p _ (p.cancelEconomy operationId).2
      have hspec := cancelEconomy_spec p operationId
      revert hspec
      generalize p.cancelEconomy operationId = result
      intro hspec
      cases hspec with
      | refused h => exact .kept .refl
      | settled r hr hid =>
        subst hid
        exact .settled r hr (.inr rfl) rfl

/-- Every reservation was made from the gold and the bag that the player has. -/
def Secured (p : Player) : Prop := ∀ r, p.economyReservation = some r → Reserved p r

theorem Secured.call (h : Secured p) (c : Call) : Secured (p.call c) := by
  intro r hr
  cases call_effect p c with
  | kept hkept =>
    have hr' : p.economyReservation = some r := hkept.reservation ▸ hr
    obtain ⟨hgold, hbag⟩ := hkept.held (by rw [economyPending, hr']; rfl)
    exact (h r hr').of_eq hgold hbag
  | reserved request hc' r' hnone hr' hq =>
    rw [hq] at hr ⊢
    cases hr
    exact hr'.of_eq rfl rfl
  | settled r' hr' hc hq => cases hq.symm.trans hr

theorem Secured.calls (h : Secured p) (cs : List Call) : Secured (p.calls cs) :=
  List.foldlRecOn (motive := Secured) cs _ h fun _ hp c _ => hp.call c

theorem secured_fresh : Secured {} := fun _ hr => nomatch hr

/-- A reservation is held until it is settled. -/
theorem held_calls (hr : p.economyReservation = some r) (cs : List Call)
    (hcs : ∀ c ∈ cs, ¬ c.Settles r.request.operationId) :
    (p.calls cs).economyReservation = some r ∧ (p.calls cs).gold = p.gold ∧
      (p.calls cs).bag = p.bag := by
  refine List.foldlRecOn
    (motive := fun (q : Player) => q.economyReservation = some r ∧ q.gold = p.gold ∧ q.bag = p.bag)
    cs _ ⟨hr, rfl, rfl⟩ ?_
  rintro q ⟨hq, hgold, hbag⟩ c hc
  cases call_effect q c with
  | kept hkept =>
    obtain ⟨hgold', hbag'⟩ := hkept.held (by rw [economyPending, hq]; rfl)
    exact ⟨hkept.reservation.trans hq, hgold'.trans hgold, hbag'.trans hbag⟩
  | reserved request hc' r' hnone hr' hq' => cases hnone.symm.trans hq
  | settled r' hr' hc' hq' =>
    cases hr'.symm.trans hq
    exact absurd hc' (hcs c hc)

/-- Nothing is reserved without a reservation being asked for. -/
theorem unreserved_calls (hnone : p.economyReservation = none) (cs : List Call)
    (hcs : ∀ request, .op (.reserveEconomy request) ∉ cs) :
    (p.calls cs).economyReservation = none := by
  refine List.foldlRecOn (motive := fun (q : Player) => q.economyReservation = none) cs _ hnone ?_
  intro q hq c hc
  cases call_effect q c with
  | kept hkept => exact hkept.reservation.trans hq
  | settled r hr hc' hq' => exact hq'
  | reserved request hc' r hnone' hr hq' => exact absurd (hc' ▸ hc) (hcs request)

/-- What a commit makes of the player `q` at a reservation that the player `p` had asked for. -/
structure Installed (p : Player) (request : EconomyRequest) (candidate : PlayerSaveSnapshot)
    (q r : Player) : Prop where
  gold : r.gold.toNat + request.cost.toNat = p.gold.toNat
  bag : ∃ b, p.bag.addItem request.itemId request.count = some b ∧ r.bag.Same b
  mutationRevision : r.mutationRevision = q.mutationRevision + 1
  dirty : r.dirty = true
  shown : candidate.gold = r.gold ∧ candidate.items = r.bag.view ∧
    candidate.bagNextSlot = r.bag.nextSlot ∧ candidate.bagCapacity = r.bag.capacity
  once : ∀ later, (∀ request, .op (.reserveEconomy request) ∉ later) → ∀ operationId,
    (r.calls later).commitEconomy operationId = .ok (false, r.calls later)

/-- The reservation that the player `p` had asked for stands. -/
structure Held (p : Player) (request : EconomyRequest) (q : Player) : Prop where
  gold : q.gold = p.gold
  bag : q.bag = p.bag
  commit : ∃ candidate, q.economyCandidate = some candidate ∧
    if q.mutationRevision = maxRevision
    then q.commitEconomy request.operationId = .error .overflowError
    else ∃ r, q.commitEconomy request.operationId = .ok (true, r) ∧
      Installed p request candidate q r

theorem held_of_reserved (hp : Reserved p r) (hq : q.economyReservation = some r)
    (hgold : q.gold = p.gold) (hbag : q.bag = p.bag) : Held p r.request q := by
  refine ⟨hgold, hbag, r.candidate, by rw [economyCandidate, hq]; rfl, ?_⟩
  have hcommit : q.commitEconomy r.request.operationId =
      if q.mutationRevision = maxRevision then .error .overflowError
      else .ok (true, q.install r) := by
    unfold commitEconomy
    rw [hq]
    exact if_neg (not_not.mpr rfl)
  rw [hcommit]
  split
  · rfl
  refine ⟨_, rfl, ?_, hp.prepared, rfl, rfl, ⟨rfl, hp.items, hp.nextSlot, hp.capacity⟩, ?_⟩
  · have hle : r.request.cost.toNat ≤ p.gold.toNat := UInt32.le_iff_toNat_le.mp hp.afford
    have hcandidate : (q.install r).gold = r.candidate.gold := rfl
    rw [hcandidate, hp.gold, UInt32.toNat_sub_of_le p.gold r.request.cost hp.afford]
    omega
  · intro later hlater operationId
    have hnone := unreserved_calls (p := q.install r) rfl later hlater
    unfold commitEconomy
    rw [hnone]

theorem Untouched.refl : Untouched p p := ⟨rfl, rfl, rfl, rfl⟩

theorem untouched_reserve (request : EconomyRequest) :
    Untouched p (p.apply (.reserveEconomy request)) := by
  change Untouched p (p.left (·.2) (p.reserveEconomy request))
  have hspec := reserveEconomy_spec p request
  revert hspec
  generalize p.reserveEconomy request = result
  rintro (⟨r, hr⟩ | hnone | ⟨hnone, t⟩ | ⟨hnone, r, hr, hrequest⟩)
  · exact .refl
  · exact .refl
  · exact .refl
  · exact ⟨rfl, rfl, rfl, rfl⟩

theorem untouched_cancel (operationId : Bytes) :
    Untouched p (p.apply (.cancelEconomy operationId)) := by
  change Untouched p (p.cancelEconomy operationId).2
  have hspec := cancelEconomy_spec p operationId
  revert hspec
  generalize p.cancelEconomy operationId = result
  intro hspec
  cases hspec with
  | refused h => exact .refl
  | settled r hr hid => exact ⟨rfl, rfl, rfl, rfl⟩

/-- A player for whom a reservation is made has it, with its gold and its bag as they were. -/
theorem reserved_of_ok (hp : Secured p) {request : EconomyRequest}
    (h : p.reserveEconomy request = .ok (true, q)) :
    ∃ r, Reserved p r ∧ (q.economyReservation = some r ∧ q.gold = p.gold ∧ q.bag = p.bag) ∧
      r.request = request := by
  have hspec := reserveEconomy_spec p request
  revert hspec
  generalize hresult : p.reserveEconomy request = result
  intro hspec
  rw [hresult] at h
  cases hspec with
  | repeated r hr =>
    obtain ⟨hrequest, rfl⟩ := Prod.mk.inj (Except.ok.inj h)
    exact ⟨r, hp r hr, ⟨hr, rfl, rfl⟩, of_decide_eq_true hrequest⟩
  | refused hnone => cases h
  | thrown hnone t => cases h
  | reserved hnone r hr hrequest =>
    cases h
    exact ⟨r, hr, ⟨rfl, rfl, rfl⟩, hrequest⟩

/-- A player after whatever was called on it. -/
def made (cs : List Call) : Player := calls {} cs

/-- Between a reservation and its settling gold and bag stay; a commit installs once what the
reservation shows, and raises the revision by one; nothing else that is done about a purchase
changes what a purchase is about. -/
theorem economy_atomic (before : List Call) :
    (∀ request q, (made before).reserveEconomy request = .ok (true, q) →
      ∀ between : List Call, (∀ c ∈ between, ¬ c.Settles request.operationId) →
        Held (made before) request (q.calls between)) ∧
    (∀ request, Untouched (made before) ((made before).apply (.reserveEconomy request))) ∧
    (∀ operationId, Untouched (made before) ((made before).apply (.cancelEconomy operationId))) ∧
    (∀ request, (∀ q, (made before).reserveEconomy request ≠ .ok (true, q)) →
      (made before).apply (.reserveEconomy request) = made before) ∧
    (∀ operationId, (∀ q, (made before).commitEconomy operationId ≠ .ok (true, q)) →
      (made before).apply (.commitEconomy operationId) = made before) ∧
    ∀ operationId, ((made before).cancelEconomy operationId).1 = false →
      (made before).apply (.cancelEconomy operationId) = made before := by
  have hsecured : Secured (made before) := secured_fresh.calls before
  revert hsecured
  generalize made before = p
  intro hsecured
  refine ⟨?_, fun request => ?_, fun operationId => ?_, fun request => ?_, fun operationId => ?_,
    fun operationId => ?_⟩
  · intro request q hreserve between hbetween
    obtain ⟨r, hr, hq, hrequest⟩ := reserved_of_ok hsecured hreserve
    subst hrequest
    obtain ⟨hr', hgold, hbag⟩ := held_calls hq.1 between hbetween
    exact held_of_reserved hr hr' (hgold.trans hq.2.1) (hbag.trans hq.2.2)
  · exact untouched_reserve request
  · exact untouched_cancel operationId
  · intro hfail
    change p.left (·.2) (p.reserveEconomy request) = p
    have hspec := reserveEconomy_spec p request
    revert hspec hfail
    generalize p.reserveEconomy request = result
    rintro hfail (⟨r, hr⟩ | hnone | ⟨hnone, t⟩ | ⟨hnone, r, hr, hrequest⟩)
    · rfl
    · rfl
    · rfl
    · exact absurd rfl (hfail _)
  · intro hfail
    change p.left (·.2) (p.commitEconomy operationId) = p
    have hspec := commitEconomy_spec p operationId
    revert hspec hfail
    generalize p.commitEconomy operationId = result
    rintro hfail (h | t | ⟨r, hr, hid⟩)
    · rfl
    · rfl
    · exact absurd rfl (hfail _)
  · intro hfail
    change (p.cancelEconomy operationId).2 = p
    have hspec := cancelEconomy_spec p operationId
    revert hspec hfail
    generalize p.cancelEconomy operationId = result
    intro hfail hspec
    cases hspec with
    | refused h => rfl
    | settled r hr hid => cases hfail

/-- A player with gold for the purchase below. -/
def buyer : List Call := [.set_id 7, .op (.addGold 100)]

def potion : EconomyRequest :=
  { operationId := [1], cost := 30, itemId := 5, count := 2, rulesVersion := 1 }

theorem economy_atomic_potion : ∃ q, (made buyer).reserveEconomy potion = .ok (true, q) ∧
    Held (made buyer) potion (q.calls [.op (.addGold 5)]) := by
  have hreserve : ((made buyer).reserveEconomy potion).toOption.map (·.1) = some true := by
    decide +kernel
  cases h : (made buyer).reserveEconomy potion with
  | error t => rw [h] at hreserve; cases hreserve
  | ok result =>
    obtain ⟨done, q⟩ := result
    rw [h] at hreserve
    cases hreserve
    refine ⟨q, rfl, (economy_atomic buyer).1 potion q h _ ?_⟩
    simp [Call.Settles]

end Player

end Scene
