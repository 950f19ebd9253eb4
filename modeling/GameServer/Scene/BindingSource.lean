import GameServer.Scene.BindingMirror

/-!
# Where the bindings of a thread come from

What a logic thread holds of a player is for a binding: that of the actor, and that of the load
that is under way. Only a message about a binding brings a new one, and it is the message's own.
-/

namespace Scene

open Gateway (ClientData)
open Gateway.GatewayPlayer (kOnline kOffline)

namespace Life

variable {enabled : Bool} {id : Nat} {l l' : Life} {d : ClientData}

/-- The player is there, or is loaded, for the binding. -/
def Bears (l : Life) (d : ClientData) : Prop :=
  (∃ p, l.actor = some p ∧ p.clientBinding = d) ∨ ∃ state, l.load = some state ∧ state.clientBinding = d

theorem not_bears_empty : ¬ Bears {} d := by
  rintro (⟨p, hp, -⟩ | ⟨state, hstate, -⟩)
  · cases hp
  · cases hstate

/-- An actor that keeps its binding, and a load that keeps its own or ends. -/
theorem Bears.of (hd : l'.Bears d)
    (hactor : ∀ p', l'.actor = some p' → l.Bears p'.clientBinding)
    (hload : ∀ state', l'.load = some state' → l.Bears state'.clientBinding) : l.Bears d := by
  rcases hd with ⟨p', hp', rfl⟩ | ⟨state', hstate', rfl⟩
  · exact hactor p' hp'
  · exact hload state' hstate'

theorem Advanced.bears (h : Advanced id l l') (hd : l'.Bears d) : l.Bears d := by
  cases h with
  | idle => exact hd
  | failed state hload =>
    exact hd.of (fun p hp => .inl ⟨p, hp, rfl⟩)
      fun state' hstate' => .inr ⟨state, hload, by cases hstate'; rfl⟩
  | created state epoch hload =>
    exact hd.of (fun p hp => .inr ⟨state, hload, by cases hp; rfl⟩)
      fun state' hstate' => .inr ⟨state', hstate', rfl⟩
  | submitted state epoch taskId body hload =>
    exact hd.of (fun p hp => .inr ⟨state, hload, by cases hp; rfl⟩)
      fun state' hstate' => .inr ⟨state, hload, by cases hstate'; rfl⟩

theorem Round.bears (h : Round enabled id l l') (hd : l'.Bears d) : l.Bears d := by
  have hold : ∀ state, l.load = some state → l.Bears state.clientBinding :=
    fun state hstate => .inr ⟨state, hstate, rfl⟩
  cases h with
  | advanced h => exact h.bears hd
  | flushed => exact hd
  | dispatched => exact hd
  | loadFailed state hload =>
    exact hd.of (fun p hp => .inl ⟨p, hp, rfl⟩)
      fun state' hstate' => .inr ⟨state, hload, by cases hstate'; rfl⟩
  | loaded state p p' snapshot _ hactor _ _ hrestored =>
    refine hd.of (fun q hq => .inl ⟨p, hactor, ?_⟩) nofun
    cases hq
    exact (p.restoreSaveSnapshot_binding hrestored).2.symm
  | saveFailed => exact hd
  | saved r snapshot taskId result heard =>
    refine hd.of (fun q hq => ?_) hold
    change (if heard then l.actor.map (r.confirmActor result snapshot) else l.actor) = some q at hq
    split at hq
    · obtain ⟨p, hp, rfl⟩ := Option.map_eq_some_iff.mp hq
      exact .inl ⟨p, hp, (r.confirmActor_binding result snapshot p).2.symm⟩
    · exact .inl ⟨q, hq, rfl⟩
  | mutated p op hactor =>
    refine hd.of (fun q hq => .inl ⟨p, hactor, ?_⟩) hold
    cases hq
    exact (Player.played_apply (p := p) op).clientBinding.symm

end Life

namespace LogicThread

variable {env : Env} {s t : LogicThread} {id k : Nat} {d : ClientData}

/-- No player is there, or is loaded, for a binding for which it was not before. -/
abbrev Holds (s t : LogicThread) : Prop := ∀ id d, (t.life id).Bears d → (s.life id).Bears d

theorem holds_of_rounds (h : Rounds s t) : Holds s t := by
  intro id d hd
  have hmoves := Follows.moves h id
  generalize t.life id = l at hmoves hd
  induction hmoves with
  | refl => exact hd
  | tail _ hround ih => exact ih (hround.bears hd)

theorem holds_of_life (h : ∀ id, id ≠ k → t.life id = s.life id)
    (hk : ∀ d, (t.life k).Bears d → (s.life k).Bears d) : Holds s t := by
  intro id d hd
  by_cases hid : id = k
  · subst hid
    exact hk d hd
  · rwa [h id hid] at hd

/-- A logout keeps the binding of the actor, or the actor goes. -/
theorem logoutPlayer_holds (hs : s.Orderly) (h : (s.logoutPlayer env k).map (·.2) = some t) :
    Holds s t := by
  obtain ⟨⟨ok, u⟩, hlogout, rfl⟩ := Option.map_eq_some_iff.mp h
  cases hactor : s.players.get k with
  | none =>
    rw [logoutPlayer, hactor] at hlogout
    cases hlogout
    exact fun _ _ hd => hd
  | some p =>
    obtain ⟨-, hothers, -, hself⟩ := logoutPlayer_life hs hactor hlogout
    refine holds_of_life hothers fun d hd => ?_
    rcases hself with ⟨-, hnone, hload⟩ | ⟨-, hload, q, hq, -, hbinding⟩
    · refine hd.of (fun p' hp' => ?_) fun state hstate => ?_
      · cases hnone.symm.trans hp'
      · cases hload.symm.trans hstate
    · refine hd.of (fun p' hp' => ?_) fun state hstate => .inr ⟨state, hload.symm.trans hstate, rfl⟩
      cases hq.symm.trans hp'
      exact .inl ⟨p, hactor, hbinding.symm⟩

theorem drainRound_holds (hdraining : s.draining = true) (hs : s.Orderly)
    (h : s.drainRound env = some t) : Holds s t := by
  unfold drainRound at h
  generalize s.players.actors.keys = ks at h
  induction ks generalizing s with
  | nil =>
    cases h
    exact fun _ _ hd => hd
  | cons k ks ih =>
    rw [List.foldlM_cons] at h
    obtain ⟨u, hu, h⟩ := Option.bind_eq_some_iff.mp h
    have hmoves := drainPlayer_follows hdraining hu hs
    intro id d hd
    exact logoutPlayer_holds hs hu id d
      (ih (hmoves.draining.trans hdraining) (hmoves.orderly hs) h id d hd)

theorem beginDrain_holds (s : LogicThread) : Holds s s.beginDrain := by
  intro id d hd
  refine hd.of (fun p hp => .inl ⟨p, ?_, rfl⟩) fun state hstate => ?_
  · change (s.players.actors.keep fun id _ => id ∉ s.playerLoads).lookup id = some p at hp
    rw [Table.lookup_keep] at hp
    exact (Option.filter_eq_some_iff.mp hp).1
  · cases hstate

section Messages

variable {m : BindingMsg}

/-- An online message binds its player, if it gets past what was there before. -/
theorem online_bears (hvalid : m.valid = true) (h : s.online env m = some t)
    (hd : (t.life id).Bears d) :
    (s.life id).Bears d ∨ id = m.clientBinding.playerId ∧ d = m.clientBinding := by
  have hopen : s.openLoad env m = some t →
      (s.life id).Bears d ∨ id = m.clientBinding.playerId ∧ d = m.clientBinding := by
    intro hopen
    obtain ⟨-, ⟨epoch, hadvanced⟩, hothers⟩ := openLoad_advanced hopen
    by_cases hid : id = m.clientBinding.playerId
    · subst hid
      rcases hadvanced.bears hd with ⟨p, hp, rfl⟩ | ⟨state, hstate, rfl⟩
      · obtain ⟨q, hq, rfl⟩ := Option.map_eq_some_iff.mp hp
        exact .inl (.inl ⟨q, hq, rfl⟩)
      · cases hstate
        exact .inr ⟨rfl, rfl⟩
    · exact .inl ((hothers id hid).bears hd)
  have hbind : t = s.bindActor m →
      (s.life id).Bears d ∨ id = m.clientBinding.playerId ∧ d = m.clientBinding := by
    rintro rfl
    have htouch := bindActor_touches (s := s) (playerId_ne_zero hvalid)
    by_cases hid : id = m.clientBinding.playerId
    · subst hid
      obtain ⟨epoch, hlife⟩ := htouch.self
      rw [hlife] at hd
      rcases hd with ⟨p, hp, rfl⟩ | ⟨state, hstate, rfl⟩
      · cases hp
        exact .inr ⟨rfl, rfl⟩
      · exact .inl (.inr ⟨state, hstate, rfl⟩)
    · rw [htouch.others id hid] at hd
      exact .inl hd
  have hsame : t = s → (s.life id).Bears d ∨ id = m.clientBinding.playerId ∧ d = m.clientBinding :=
    fun heq => .inl (heq ▸ hd)
  unfold online at h
  dsimp only at h
  split at h
  · exact hsame (Option.some.inj h).symm
  split at h
  · split at h
    · split at h
      · exact hsame (Option.some.inj h).symm
      split at h
      · exact hsame (Option.some.inj h).symm
      · exact hopen h
    · split at h
      · exact hbind (Option.some.inj h).symm
      split at h
      · exact hsame (Option.some.inj h).symm
      · exact hopen h
  · exact hbind (Option.some.inj h).symm

theorem offline_holds (hs : s.Orderly) (h : s.offline env m = some t) : Holds s t := by
  rcases offline_cases h with ⟨state, -, -, -, htouch⟩ | ⟨-, ⟨ok, p, -, -, -, hlogout⟩ | ⟨rfl, -⟩⟩
  · refine holds_of_life htouch.others fun d hd => ?_
    rw [htouch.self] at hd
    exact hd.of (fun p hp => .inl ⟨p, (Option.filter_eq_some_iff.mp hp).1, rfl⟩) nofun
  · intro id d hd
    have hnoted := logoutPlayer_holds (noted_orderly hs m.clientBinding)
      (by rw [hlogout]; rfl) id d hd
    rw [noted_life] at hnoted
    split at hnoted
    · exact hnoted
    · exact hnoted
  · exact fun _ _ hd => hd

end Messages

/-- A binding that a step brings is that of the message that the step takes. -/
theorem step_bears (hs : s.Orderly) {l : Env × Label} (h : s.step l = some t)
    (hd : (t.life id).Bears d) :
    (s.life id).Bears d ∨ ∃ m, l.2 = .binding m ∧ m.valid = true ∧ id = m.clientBinding.playerId ∧
      d = m.clientBinding := by
  by_cases hround : l.2.isRound = true
  · exact .inl (holds_of_rounds (round_follows hround h hs) id d hd)
  obtain ⟨env, l⟩ := l
  cases l with
  | binding m =>
    change s.onPlayerBinding env m = some t at h
    unfold onPlayerBinding at h
    split at h
    · cases h
      exact .inl hd
    rename_i hvalid
    have hvalid : m.valid = true := (by simpa [not_or] using hvalid : s.draining = false ∧ _).2
    split at h
    · exact (online_bears hvalid h hd).imp_right fun hnew => ⟨m, rfl, hvalid, hnew⟩
    split at h
    · exact .inl (offline_holds hs h id d hd)
    · cases h
      exact .inl hd
  | logoutReq playerId session binding =>
    change s.onLogoutReq env playerId session binding = some t at h
    unfold onLogoutReq at h
    split at h
    · cases h
      exact .inl hd
    split at h
    · exact .inl (logoutPlayer_holds hs h id d hd)
    · cases h
      exact .inl hd
  | beginDrain =>
    change (if s.draining then some s else some s.beginDrain) = some t at h
    split at h
    · cases h
      exact .inl hd
    · cases h
      exact .inl (s.beginDrain_holds id d hd)
  | drain =>
    change (if s.draining then s.drainRound env else some s) = some t at h
    split at h
    · rename_i hdraining
      exact .inl (drainRound_holds hdraining hs h id d hd)
    · cases h
      exact .inl hd
  | _ => exact absurd rfl hround

end LogicThread

end Scene
