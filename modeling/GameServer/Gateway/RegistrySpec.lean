import GameServer.Gateway.Registry

/-!
# What the registry does

A registered connection was pending before, keeps its identity until it is
replaced or removed, and never gets one again. This is all that the dispatcher's
properties need to know about the pools.
-/

namespace Gateway

namespace ServiceRegistry

variable {reg reg' reg'' : ServiceRegistry} {n : Nat}

/-- Connections are registered under their own name, and are not pending as well. -/
structure Sane (reg : ServiceRegistry) (n : Nat) : Prop where
  key : ∀ name ep, reg.byName.lookup name = some ep → ep.connName = name
  disjoint : ∀ name ep, reg.byName.lookup name = some ep → reg.pendingConn.lookup name = none
  named : ∀ name ep, reg.byName.lookup name = some ep → 0 < name ∧ name < n
  awaited : ∀ name u, reg.pendingConn.lookup name = some u → 0 < name ∧ name < n

/-- Identities come from pending connections only. -/
structure Fewer (reg reg' : ServiceRegistry) : Prop where
  registered : ∀ name ep, reg'.byName.lookup name = some ep → ep.serviceId ≠ 0 →
    reg.byName.lookup name = some ep ∨ reg.pendingConn.lookup name = some ()
  pending : ∀ name, reg'.pendingConn.lookup name = some () → reg.pendingConn.lookup name = some ()

theorem Fewer.refl (reg : ServiceRegistry) : Fewer reg reg := ⟨fun _ _ h _ => .inl h, fun _ h => h⟩

theorem Fewer.trans (h : Fewer reg reg') (h' : Fewer reg' reg'') : Fewer reg reg'' where
  registered := fun name ep hep hne => by
    rcases h'.registered name ep hep hne with hep' | hpend
    · exact h.registered name ep hep' hne
    · exact .inr (h.pending name hpend)
  pending := fun name hpend => h.pending name (h'.pending name hpend)

theorem sane_new (poolSize : Nat) : Sane (new poolSize) n where
  key := by simp [new]
  disjoint := by simp [new]
  named := by simp [new]
  awaited := by simp [new]

/-- Entries are kept, lose their identity, or go. -/
theorem Sane.shrink (h : Sane reg n)
    (hby : ∀ name ep, reg'.byName.lookup name = some ep → ∃ old, reg.byName.lookup name = some old ∧
      (ep = old ∨ (ep.connName = old.connName ∧ ep.serviceId = 0)))
    (hpend : ∀ name u, reg'.pendingConn.lookup name = some u →
      reg.pendingConn.lookup name = some u) : Sane reg' n ∧ Fewer reg reg' := by
  refine ⟨⟨fun name ep hep => ?_, fun name ep hep => ?_, fun name ep hep => ?_,
    fun name u hu => h.awaited name u (hpend name u hu)⟩,
    ⟨fun name ep hep hne => ?_, fun name hu => hpend name () hu⟩⟩
  · obtain ⟨old, hold, rfl | ⟨hname, _⟩⟩ := hby name ep hep
    · exact h.key name _ hold
    · exact hname.trans (h.key name old hold)
  · obtain ⟨old, hold, _⟩ := hby name ep hep
    cases hu : reg'.pendingConn.lookup name with
    | none => rfl
    | some u => cases (h.disjoint name old hold).symm.trans (hpend name u hu)
  · obtain ⟨old, hold, _⟩ := hby name ep hep
    exact h.named name old hold
  · obtain ⟨old, hold, rfl | ⟨_, hzero⟩⟩ := hby name ep hep
    · exact .inl hold
    · exact absurd hzero hne

theorem demote_lookup {conn name : ConnName} {ep : ServiceEndpoint}
    (h : (reg.demote conn).lookup name = some ep) : ∃ old, reg.byName.lookup name = some old ∧
      (ep = old ∨ (ep.connName = old.connName ∧ ep.serviceId = 0)) := by
  unfold demote at h
  cases hold : reg.byName.lookup conn with
  | none =>
    rw [hold] at h
    exact ⟨ep, h, .inl rfl⟩
  | some old =>
    simp only [hold, Table.lookup_insert] at h
    split at h
    · rename_i hname
      cases h
      exact ⟨old, hname ▸ hold, .inr ⟨rfl, rfl⟩⟩
    · exact ⟨ep, h, .inl rfl⟩

/-- Only the names and the pending connections matter here. -/
theorem Sane.of_eq (h : Sane reg n) (hby : reg'.byName = reg.byName)
    (hpend : reg'.pendingConn = reg.pendingConn) : Sane reg' n ∧ Fewer reg reg' :=
  h.shrink (fun _ ep hep => ⟨ep, hby ▸ hep, .inl rfl⟩) fun _ _ hu => hpend ▸ hu

theorem Sane.giveUp (h : Sane reg n) (incarnation : Nat) (same : Bool) (replaced : ConnName)
    (slots channels : List BackendConn) :
    let out := channels.foldl (giveUp incarnation same) (replaced, reg, slots)
    Sane out.2.1 n ∧ Fewer reg out.2.1 := by
  induction channels generalizing reg replaced slots with
  | nil => exact ⟨h, .refl reg⟩
  | cons slot channels ih =>
    rw [List.foldl_cons]
    by_cases hkeep : (!slot.ready) = true ∨ slot.connName = 0 ∨
        (same = true ∧ slot.sceneIncarnation = incarnation)
    · rw [ServiceRegistry.giveUp, if_pos hkeep]
      exact ih h _ _
    · rw [ServiceRegistry.giveUp, if_neg hkeep]
      obtain ⟨hsane, hfewer⟩ := @Sane.shrink reg
        { reg with byName := reg.demote slot.connName } n h (fun _ _ hep => demote_lookup hep) fun _ _ hu => hu
      obtain ⟨hsane', hfewer'⟩ := ih hsane _ _
      exact ⟨hsane', hfewer.trans hfewer'⟩

theorem giveUp_pending {incarnation : Nat} {same : Bool} {replaced : ConnName}
    {slots : List BackendConn} (channels : List BackendConn) :
    (channels.foldl (giveUp incarnation same) (replaced, reg, slots)).2.1.pendingConn =
      reg.pendingConn := by
  induction channels generalizing reg replaced slots with
  | nil => rfl
  | cons slot channels ih =>
    rw [List.foldl_cons]
    unfold ServiceRegistry.giveUp
    simp only
    split
    · exact ih
    · exact ih

theorem replaceIncarnation_pending {key : BackendKey} {pool : BackendConnPool}
    {connName : ConnName} {incarnation : Nat} :
    (reg.replaceIncarnation key pool connName incarnation).2.1.pendingConn = reg.pendingConn := by
  unfold ServiceRegistry.replaceIncarnation
  split
  · exact giveUp_pending pool.channels
  · rfl

theorem Sane.replaceIncarnation (h : Sane reg n) (key : BackendKey) (pool : BackendConnPool)
    (connName : ConnName) (incarnation : Nat) :
    let out := reg.replaceIncarnation key pool connName incarnation
    Sane out.2.1 n ∧ Fewer reg out.2.1 := by
  unfold ServiceRegistry.replaceIncarnation
  split
  · have hfold := h.giveUp incarnation (pool.channels.any fun slot => slot.ready ∧
      slot.connName = connName ∧ slot.sceneIncarnation = incarnation) 0 [] pool.channels
    revert hfold
    simp only
    generalize pool.channels.foldl _ _ = out
    obtain ⟨replaced, reg1, channels⟩ := out
    intro ⟨hsane, hfewer⟩
    refine And.imp_right hfewer.trans ?_
    exact hsane.of_eq rfl rfl
  · exact h.of_eq rfl rfl

theorem Sane.replaceSlot (h : Sane reg n) {key : BackendKey} {slot : BackendConn}
    {connName replaced replaced' : ConnName}
    (hrun : reg.replaceSlot key slot connName replaced = some (replaced', reg')) :
    (Sane reg' n ∧ Fewer reg reg') ∧ reg'.pendingConn = reg.pendingConn := by
  unfold ServiceRegistry.replaceSlot at hrun
  split at hrun
  · split at hrun
    · cases hrun
    · cases hrun
      refine ⟨h.shrink (fun name ep hep => ?_) fun _ _ hu => hu, rfl⟩
      exact demote_lookup hep
  · cases hrun
    exact ⟨⟨h, .refl _⟩, rfl⟩

theorem Sane.replaceRecord (h : Sane reg n) {endpoint : ServiceEndpoint}
    {replaced replaced' : ConnName}
    (hrun : reg.replaceRecord endpoint replaced = some (replaced', reg')) :
    (Sane reg' n ∧ Fewer reg reg') ∧ reg'.pendingConn = reg.pendingConn := by
  unfold ServiceRegistry.replaceRecord at hrun
  cases hold : reg.byName.lookup endpoint.connName with
  | none =>
    simp only [hold] at hrun
    cases hrun
    exact ⟨⟨h, .refl _⟩, rfl⟩
  | some old =>
    simp only [hold] at hrun
    split at hrun
    · cases hrun
    cases hrun
    refine ⟨h.shrink (fun name ep hep => ?_) fun _ _ hu => hu, rfl⟩
    rw [Table.lookup_insert] at hep
    split at hep
    · rename_i hname
      cases hep
      exact ⟨old, hname ▸ hold, .inr ⟨rfl, rfl⟩⟩
    · exact ⟨ep, hep, .inl rfl⟩

theorem Sane.enroll (h : Sane reg n) {endpoint : ServiceEndpoint}
    (hpend : reg.pendingConn.lookup endpoint.connName = some ()) :
    Sane (reg.enroll endpoint) n ∧ Fewer reg (reg.enroll endpoint) := by
  have hby : ∀ name, (reg.enroll endpoint).byName.lookup name =
      if name = endpoint.connName then some endpoint else reg.byName.lookup name :=
    fun name => Table.lookup_insert _ _ _ _
  have hpend' : ∀ name, (reg.enroll endpoint).pendingConn.lookup name =
      if name = endpoint.connName then none else reg.pendingConn.lookup name :=
    fun name => Table.lookup_erase _ _ _
  refine ⟨⟨fun name ep hep => ?_, fun name ep hep => ?_, fun name ep hep => ?_,
    fun name u hu => ?_⟩, ⟨fun name ep hep _ => ?_, fun name hu => ?_⟩⟩
  · rw [hby] at hep
    split at hep
    · rename_i hname
      cases hep
      exact hname.symm
    · exact h.key name ep hep
  · rw [hby] at hep
    rw [hpend']
    split at hep
    · rename_i hname
      rw [if_pos hname]
    · rename_i hname
      rw [if_neg hname]
      exact h.disjoint name ep hep
  · rw [hby] at hep
    split at hep
    · rename_i hname
      exact hname ▸ h.awaited _ () hpend
    · exact h.named name ep hep
  · rw [hpend'] at hu
    split at hu
    · cases hu
    · exact h.awaited name u hu
  · rw [hby] at hep
    split at hep
    · rename_i hname
      exact .inr (hname ▸ hpend)
    · exact .inl hep
  · rw [hpend'] at hu
    split at hu
    · cases hu
    · exact hu

theorem Sane.bind (h : Sane reg n) (endpoint : ServiceEndpoint) :
    Sane (reg.bind endpoint).2 n ∧ Fewer reg (reg.bind endpoint).2 := by
  unfold ServiceRegistry.bind
  split
  · exact ⟨h, .refl reg⟩
  split
  · exact ⟨h, .refl reg⟩
  rename_i hpend
  have hinc := h.replaceIncarnation endpoint.key
    ((reg.backendConnPools.lookup endpoint.key).getD reg.freshPool) endpoint.connName
    endpoint.sceneIncarnation
  have hkept : (reg.replaceIncarnation endpoint.key
      ((reg.backendConnPools.lookup endpoint.key).getD reg.freshPool) endpoint.connName
      endpoint.sceneIncarnation).2.1.pendingConn = reg.pendingConn := replaceIncarnation_pending
  simp only at hinc ⊢
  revert hinc hkept
  generalize reg.replaceIncarnation _ _ _ _ = out
  intro ⟨hsane1, hfewer1⟩ hkept
  split
  · exact ⟨hsane1, hfewer1⟩
  split
  · exact ⟨hsane1, hfewer1⟩
  rename_i hslot
  obtain ⟨⟨hsane2, hfewer2⟩, hkept2⟩ := hsane1.replaceSlot hslot
  split
  · exact ⟨hsane2, hfewer1.trans hfewer2⟩
  rename_i hrecord
  obtain ⟨⟨hsane3, hfewer3⟩, hkept3⟩ := hsane2.replaceRecord hrecord
  have hpend3 : ∀ u, reg.pendingConn.lookup endpoint.connName = some u → _ := fun u hu => by
    rw [← hkept, ← hkept2, ← hkept3] at hu
    exact hu
  obtain ⟨hsane4, hfewer4⟩ := hsane3.enroll (hpend3 _ hpend)
  exact ⟨hsane4, ((hfewer1.trans hfewer2).trans hfewer3).trans hfewer4⟩

theorem Sane.mono {m : Nat} (h : Sane reg n) (hle : n ≤ m) : Sane reg m where
  key := h.key
  disjoint := h.disjoint
  named := fun name ep hep => (h.named name ep hep).imp_right fun hlt => Nat.lt_of_lt_of_le hlt hle
  awaited := fun name u hu => (h.awaited name u hu).imp_right fun hlt => Nat.lt_of_lt_of_le hlt hle

theorem addPending_other {name : ConnName} (hne : name ≠ n)
    (hnone : reg.pendingConn.lookup name = none) :
    (reg.addPending n).2.pendingConn.lookup name = none := by
  unfold addPending
  split
  · exact hnone
  · exact (Table.lookup_insert _ _ _ _).trans ((if_neg hne).trans hnone)

/-- A new connection is pending under a name that was never used. -/
theorem Sane.addPending (h : Sane reg n) (hn : 0 < n) : Sane (reg.addPending n).2 (n + 1) ∧
    ∀ name ep, (reg.addPending n).2.byName.lookup name = some ep ↔
      reg.byName.lookup name = some ep := by
  have hmono := h.mono (Nat.le_succ n)
  unfold ServiceRegistry.addPending
  split
  · exact ⟨hmono, fun _ _ => Iff.rfl⟩
  rename_i hfree
  refine ⟨⟨h.key, fun name ep hep => ?_, hmono.named, fun name u hu => ?_⟩, fun _ _ => Iff.rfl⟩
  · show (AList.insert n () reg.pendingConn).lookup name = none
    rw [Table.lookup_insert, if_neg]
    · exact h.disjoint name ep hep
    · rintro rfl
      exact Nat.lt_irrefl _ (h.named _ ep hep).2
  · rw [Table.lookup_insert] at hu
    split at hu
    · rename_i hname
      rw [hname]
      exact ⟨hn, Nat.lt_succ_self n⟩
    · exact hmono.awaited name u hu

theorem Sane.removeByName (h : Sane reg n) (connName : ConnName) :
    Sane (reg.removeByName connName).2 n ∧ Fewer reg (reg.removeByName connName).2 := by
  have herase : ∀ name ep, (reg.byName.erase connName).lookup name = some ep →
      ∃ old, reg.byName.lookup name = some old ∧
        (ep = old ∨ (ep.connName = old.connName ∧ ep.serviceId = 0)) := by
    intro name ep hep
    rw [Table.lookup_erase] at hep
    split at hep
    · cases hep
    · exact ⟨ep, hep, .inl rfl⟩
  unfold ServiceRegistry.removeByName
  split
  · refine h.shrink (fun _ ep hep => ⟨ep, hep, .inl rfl⟩) fun name u hu => ?_
    rw [Table.lookup_erase] at hu
    split at hu
    · cases hu
    · exact hu
  split
  · exact ⟨h, .refl reg⟩
  simp only
  split
  · exact h.shrink herase fun _ _ hu => hu
  · exact h.shrink herase fun _ _ hu => hu

theorem Sane.selectByScene (h : Sane reg n) (key : BackendKey) :
    Sane (reg.selectByScene key).2 n ∧ Fewer reg (reg.selectByScene key).2 := by
  unfold ServiceRegistry.selectByScene
  split
  · exact ⟨h, .refl reg⟩
  simp only
  split
  · exact ⟨h, .refl reg⟩
  · exact h.of_eq rfl rfl

theorem Sane.getByName_key (h : Sane reg n) {name : ConnName} {ep : ServiceEndpoint}
    (hep : reg.getByName name = some ep) : ep.connName = name := by
  unfold ServiceRegistry.getByName at hep
  split at hep
  · rename_i ep' hlook
    cases hep
    exact h.key name _ hlook
  · obtain ⟨_, _, rfl⟩ := Option.map_eq_some_iff.mp hep
    rfl

/-- With an identity, a connection is registered. -/
theorem getByName_registered {name : ConnName} {ep : ServiceEndpoint}
    (hep : reg.getByName name = some ep) (hne : ep.serviceId ≠ 0) :
    reg.byName.lookup name = some ep := by
  unfold ServiceRegistry.getByName at hep
  split at hep
  · rename_i ep' hlook
    cases hep
    exact hlook
  · obtain ⟨_, _, rfl⟩ := Option.map_eq_some_iff.mp hep
    exact absurd rfl hne

theorem getByName_of_registered {name : ConnName} {ep : ServiceEndpoint}
    (hep : reg.byName.lookup name = some ep) : reg.getByName name = some ep := by
  unfold ServiceRegistry.getByName
  rw [hep]

end ServiceRegistry

end Gateway
