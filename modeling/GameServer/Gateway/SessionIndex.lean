import GameServer.Lib.Run
import GameServer.Gateway.SessionSpec

/-!
# The player index of the session table

The index should hold the players of the authenticated sessions and nothing else.
It does as long as no session changes from one player to another: `Bind` then
leaves the old player's entry behind.
-/

namespace Gateway

namespace ClientSessionTable

/-- The calls that may change the table. -/
inductive Call where
  | create (conn : ConnName) (defaultDstService : Nat)
  | bind (sessionId playerId dstService : Nat)
  | setDstService (sessionId dstService : Nat)
  | setSceneBinding (sessionId sceneId channelId sceneIncarnation : Nat) (connName : ConnName)
  | submitScene (expected : ClientSession) (submit : Bool → Bool)
  | erase (sessionId : Nat)

/-- The table, and the epochs that were given to players. -/
structure Issuing where
  table : ClientSessionTable := {}
  issued : List (Nat × Nat) := []

/-- The player of a session with its epoch. -/
def identity (t : ClientSessionTable) (sessionId : Nat) : List (Nat × Nat) :=
  ((t.get sessionId).map fun s => (s.playerId, s.epoch)).toList

/-- `SetDstService` gives a new epoch to a player whose service changes. -/
def switches (t : ClientSessionTable) (sessionId dstService : Nat) : Bool :=
  (t.get sessionId).any fun s => s.authed && s.dstService ≠ dstService

/-- A call that fails changes nothing. -/
def step (g : Issuing) (call : Call) : Option Issuing :=
  let t := g.table
  match call with
  | .create conn dst => some { g with table := (t.create conn dst).2 }
  | .bind sid playerId dst =>
    match t.bind sid playerId dst with
    | none => some g
    | some (_, t') => some { table := t', issued := g.issued ++ t'.identity sid }
  | .setDstService sid dst =>
    match t.setDstService sid dst with
    | none => some g
    | some t' => some
      { table := t'
        issued := if t.switches sid dst then g.issued ++ t'.identity sid else g.issued }
  | .setSceneBinding sid sceneId channelId incarnation connName =>
    some { g with table := t.setSceneBinding sid sceneId channelId incarnation connName }
  | .submitScene expected submit =>
    match t.submitScene expected fun online => if submit online then some () else none with
    | none => some g
    | some (_, t') => some { g with table := t' }
  | .erase sid => some { g with table := t.erase sid }

/-- The index holds the players of the authenticated sessions. -/
def Indexed (t : ClientSessionTable) : Prop :=
  ∀ playerId sid, t.playerIndex.lookup playerId = some sid ↔
    ∃ s, t.get sid = some s ∧ s.authed = true ∧ s.playerId = playerId

/-- A session of a player is not bound to another player. -/
def KeepsPlayer (g : Issuing) : Call → Prop
  | .bind sid playerId _ => playerId = 0 ∨ g.table.lastEpoch playerId = uint32Max ∨
      ∀ s, g.table.get sid = some s → s.authed = true → s.playerId = playerId
  | _ => True

section Index

variable {t t' : ClientSessionTable} {sid p dst kicked : Nat} {s s' : ClientSession}

theorem indexed_init : Indexed {} := by
  intro playerId sid
  simp [get]

/-- A session may change everything but its player. -/
theorem Indexed.replace (h : Indexed t) (hs : t.get sid = some s)
    (hget : ∀ id, t'.get id = if id = sid then some s' else t.get id)
    (hindex : t'.playerIndex = t.playerIndex) (hauthed : s'.authed = s.authed)
    (hplayer : s'.playerId = s.playerId) : Indexed t' := by
  intro q id
  rw [hindex, h q id, hget]
  by_cases hid : id = sid
  · rw [if_pos hid, hid, hs]
    simp [hauthed, hplayer]
  · rw [if_neg hid]

theorem Indexed.create (h : Indexed t) (hsane : Sane t) (conn : ConnName) (dst : Nat) :
    Indexed (t.create conn dst).2 := by
  intro q id
  rw [get_create]
  have hold : (t.create conn dst).2.playerIndex = t.playerIndex := rfl
  rw [hold, h q id]
  by_cases hid : id = t.nextSessionId
  · rw [if_pos hid]
    constructor
    · rintro ⟨s, hs, -⟩
      exact absurd (hsane.key id s hs).2.2 (hid ▸ Nat.lt_irrefl _)
    · rintro ⟨s, hs, hauthed, -⟩
      cases hs
      cases hauthed
  · rw [if_neg hid]

theorem Indexed.erase (h : Indexed t) (hsane : Sane t) (sid : Nat) : Indexed (t.erase sid) := by
  intro q id
  rw [get_erase]
  by_cases hid : id = sid
  · rw [if_pos hid]
    constructor
    · intro hidx
      obtain ⟨hold, hnot⟩ := index_erase t sid hidx
      obtain ⟨s, hs, hauthed, hplayer⟩ := (h q id).mp hold
      rw [hid] at hs
      exact absurd hid (hnot s hs (hsane.epoch sid s hs hauthed).1 hplayer.symm)
    · rintro ⟨s, hs, -⟩
      cases hs
  · rw [if_neg hid, ← h q id]
    constructor
    · exact fun hidx => (index_erase t sid hidx).1
    · intro hidx
      unfold ClientSessionTable.erase
      split
      · exact hidx
      · simp only
        split
        · rename_i hpoints
          rw [Table.lookup_erase, if_neg ?_]
          · exact hidx
          · rintro rfl
            exact hid (Option.some.inj (hidx.symm.trans hpoints.2))
        · exact hidx

/-- The index is exact after a login exactly if the session had no other player. -/
theorem Bound.indexed_iff (hb : Bound t t' sid p dst kicked s) (h : Indexed t) (hsane : Sane t) :
    Indexed t' ↔ (s.authed = true → s.playerId = p) := by
  constructor
  · intro h' hauthed
    by_contra hne
    have hidx := (h s.playerId sid).mpr ⟨s, hb.found, hauthed, rfl⟩
    have hidx' : t'.playerIndex.lookup s.playerId = some sid := by
      rw [hb.index, if_neg hne]
      exact hidx
    obtain ⟨s', hs', -, hplayer⟩ := (h' s.playerId sid).mp hidx'
    rw [hb.get, if_pos rfl] at hs'
    cases hs'
    exact hne hplayer.symm
  · intro hsame q id
    rw [hb.index, hb.get]
    by_cases hq : q = p
    · rw [if_pos hq]
      subst hq
      constructor
      · rintro ⟨⟩
        exact ⟨_, if_pos rfl, rfl, rfl⟩
      · rintro ⟨s', hs', hauthed, hplayer⟩
        by_cases hid : id = sid
        · rw [hid]
        rw [if_neg hid] at hs'
        split at hs'
        · obtain ⟨old, -, rfl⟩ := Option.map_eq_some_iff.mp hs'
          cases hauthed
        · rename_i hkicked
          have hidx := (h q id).mpr ⟨s', hs', hauthed, hplayer⟩
          have hrival : kicked = id := by
            rw [hb.rival]
            unfold ClientSessionTable.rival
            rw [hidx]
            exact if_pos hid
          have hpos := (hsane.key id s' hs').2.1
          exact absurd ⟨hrival ▸ Nat.pos_iff_ne_zero.mp hpos, hrival.symm⟩ hkicked
    · rw [if_neg hq, h q id]
      by_cases hid : id = sid
      · rw [if_pos hid, hid]
        constructor
        · rintro ⟨s', hs', hauthed, hplayer⟩
          cases hb.found.symm.trans hs'
          exact absurd (hplayer.symm.trans (hsame hauthed)) hq
        · rintro ⟨s', hs', -, hplayer⟩
          cases hs'
          exact absurd hplayer.symm hq
      · rw [if_neg hid]
        split
        · rename_i hkicked
          have hidx : t.playerIndex.lookup p = some kicked := by
            have hrival := hb.rival
            unfold ClientSessionTable.rival at hrival
            split at hrival
            · rename_i other hother
              split at hrival
              · rw [hother, hrival]
              · exact absurd hrival hkicked.1
            · exact absurd hrival hkicked.1
          obtain ⟨old, hold, hauthed, hplayer⟩ := (h p kicked).mp hidx
          rw [hkicked.2, hold]
          constructor
          · rintro ⟨s', hs', -, hplayer'⟩
            cases hs'
            exact absurd (hplayer'.symm.trans hplayer) hq
          · rintro ⟨s', hs', hauthed', -⟩
            cases hs'
            cases hauthed'
        · rfl

end Index

section Run

variable {g g' : Issuing} {call : Call}

/-- What every run keeps: an epoch is given to its player once. -/
structure Counted (g : Issuing) : Prop where
  sane : Sane g.table
  le : ∀ playerId epoch, (playerId, epoch) ∈ g.issued → epoch ≤ g.table.lastEpoch playerId
  nodup : g.issued.Nodup

theorem counted_init : Counted {} where
  sane := sane_init
  le := by simp
  nodup := List.nodup_nil

/-- A call that gives out no epoch. -/
theorem Counted.keep (h : Counted g) {t' : ClientSessionTable} (hsane : Sane t')
    (hle : ∀ q, g.table.lastEpoch q ≤ t'.lastEpoch q) : Counted { g with table := t' } where
  sane := hsane
  le := fun playerId epoch hmem => Nat.le_trans (h.le playerId epoch hmem) (hle playerId)
  nodup := h.nodup

/-- A call that gives the next epoch to a player. -/
theorem Counted.issue (h : Counted g) {t' : ClientSessionTable} {p : Nat} (hsane : Sane t')
    (hlast : ∀ q, t'.lastEpoch q = if q = p then g.table.lastEpoch p + 1 else g.table.lastEpoch q) :
    Counted { table := t', issued := g.issued ++ [(p, g.table.lastEpoch p + 1)] } where
  sane := hsane
  le := fun playerId epoch hmem => by
    show epoch ≤ t'.lastEpoch playerId
    rw [hlast]
    rcases List.mem_append.mp hmem with hmem | hmem
    · have hle := h.le playerId epoch hmem
      split
      · rename_i hq
        rw [hq] at hle
        omega
      · exact hle
    · cases List.mem_singleton.mp hmem
      rw [if_pos rfl]
  nodup := by
    refine List.nodup_append.mpr ⟨h.nodup, List.nodup_singleton _, ?_⟩
    rintro ⟨q, epoch⟩ hmem y hy rfl
    cases List.mem_singleton.mp hy
    have hle := h.le _ _ hmem
    omega

theorem submitted_spec {t t' : ClientSessionTable} {expected : ClientSession} {submit : Bool → Option Unit}
    {out : Unit} (h : t.submitScene expected submit = some (out, t')) :
    ∃ s, t.get expected.sessionId = some s ∧
      t' = { t with
        sessions := t.sessions.insert expected.sessionId { s with sceneOnlineSubmitted := true } } := by
  obtain ⟨s, hs, -, -, ht'⟩ := submitScene_spec h
  exact ⟨s, hs, ht'⟩

theorem identity_of_get {t : ClientSessionTable} {sid : Nat} {s : ClientSession}
    (h : t.get sid = some s) : t.identity sid = [(s.playerId, s.epoch)] := by
  simp [identity, h]

theorem Counted.step (h : Counted g) (hstep : step g call = some g') : Counted g' := by
  cases call with
  | create conn dst =>
    cases hstep
    exact h.keep (h.sane.create conn dst) fun q => Nat.le_refl _
  | bind sid p dst =>
    simp only [ClientSessionTable.step] at hstep
    split at hstep
    · cases hstep
      exact h
    · rename_i kicked t' hbind
      obtain ⟨s, hb⟩ := bind_spec hbind
      cases hstep
      rw [identity_of_get (hb.get sid ▸ if_pos rfl)]
      exact h.issue (hb.sane h.sane) hb.lastEpoch
  | setDstService sid dst =>
    simp only [ClientSessionTable.step] at hstep
    split at hstep
    · cases hstep
      exact h
    · rename_i t' hset
      obtain ⟨s, s', hs⟩ := setDstService_spec hset
      cases hstep
      have hget : t'.get sid = some s' := by rw [hs.get, if_pos rfl]
      by_cases hswitch : s.authed = true ∧ s.dstService ≠ dst
      · have hswitches : g.table.switches sid dst = true := by
          simp [switches, hs.found, hswitch.1, hswitch.2]
        have hs' := hs.changed hswitch.2
        rw [if_pos hswitch.1] at hs'
        rw [if_pos hswitches, identity_of_get hget, hs']
        have hlast : ∀ q, t'.lastEpoch q =
            if q = s.playerId then g.table.lastEpoch s.playerId + 1 else g.table.lastEpoch q := by
          intro q
          rw [hs.lastEpoch]
          by_cases hq : q = s.playerId
          · rw [if_pos ⟨hq, hswitch⟩, if_pos hq, hq]
          · rw [if_neg fun hand => hq hand.1, if_neg hq]
        simpa using h.issue (hs.sane h.sane) hlast
      · have hswitches : g.table.switches sid dst = false := by
          simpa [switches, hs.found] using hswitch
        rw [hswitches]
        refine h.keep (hs.sane h.sane) fun q => ?_
        rw [hs.lastEpoch, if_neg fun hand => hswitch hand.2]
  | setSceneBinding sid sceneId channelId incarnation connName =>
    cases hstep
    refine h.keep (h.sane.setSceneBinding sid sceneId channelId incarnation connName) fun q => ?_
    rcases g.table.setSceneBinding_cases sid sceneId channelId incarnation connName with
      heq | ⟨-, -, -, s, -, -, -, -, heq⟩
    · rw [heq]
    · rw [heq]
      exact Nat.le_refl _
  | submitScene expected submit =>
    simp only [ClientSessionTable.step] at hstep
    split at hstep
    · cases hstep
      exact h
    · rename_i out t' hsubmit
      obtain ⟨s, hs, rfl⟩ := submitted_spec hsubmit
      cases hstep
      exact h.keep (h.sane.replace hs rfl rfl rfl rfl (h.sane.scene _ s hs)) fun q => Nat.le_refl _
  | erase sid =>
    cases hstep
    exact h.keep (h.sane.erase sid) fun q => Nat.le_of_eq (lastEpoch_erase _ _ _).symm

/-- A call keeps the index exact exactly if it keeps the player of every session. -/
theorem Indexed.step_iff (h : Indexed g.table) (hsane : Sane g.table)
    (hstep : ClientSessionTable.step g call = some g') :
    Indexed g'.table ↔ KeepsPlayer g call := by
  cases call with
  | create conn dst =>
    cases hstep
    exact iff_of_true (h.create hsane conn dst) trivial
  | bind sid p dst =>
    simp only [ClientSessionTable.step] at hstep
    split at hstep
    · rename_i hbind
      cases hstep
      refine iff_of_true h ?_
      unfold ClientSessionTable.bind at hbind
      split at hbind
      · rename_i hp
        exact .inl hp
      split at hbind
      · rename_i hnone
        exact .inr (.inr fun s hs => nomatch hnone.symm.trans hs)
      split at hbind
      · rename_i hlast
        exact .inr (.inl hlast)
      · cases hbind
    · rename_i kicked t' hbind
      obtain ⟨s, hb⟩ := bind_spec hbind
      cases hstep
      rw [hb.indexed_iff h hsane]
      constructor
      · intro hsame
        refine .inr (.inr fun s' hs' hauthed => ?_)
        cases hb.found.symm.trans hs'
        exact hsame hauthed
      · rintro (hp | hlast | hsame)
        · exact absurd hp hb.player
        · exact absurd hlast hb.fresh
        · exact hsame s hb.found
  | setDstService sid dst =>
    simp only [ClientSessionTable.step] at hstep
    split at hstep
    · cases hstep
      exact iff_of_true h trivial
    · rename_i t' hset
      obtain ⟨s, s', hs⟩ := setDstService_spec hset
      cases hstep
      refine iff_of_true ?_ trivial
      by_cases hdst : s.dstService = dst
      · rw [(hs.same hdst).2]
        exact h
      · refine h.replace hs.found hs.get hs.index ?_ ?_
        · rw [hs.changed hdst, ClientSession.routed_authed]
        · rw [hs.changed hdst, ClientSession.routed_playerId]
  | setSceneBinding sid sceneId channelId incarnation connName =>
    cases hstep
    refine iff_of_true ?_ trivial
    rcases g.table.setSceneBinding_cases sid sceneId channelId incarnation connName with
      heq | ⟨-, -, -, s, hs, -, -, -, heq⟩
    · simp only [heq]
      exact h
    · simp only [heq]
      exact h.replace hs (fun id => Table.lookup_insert _ _ _ _) rfl rfl rfl
  | submitScene expected submit =>
    simp only [ClientSessionTable.step] at hstep
    split at hstep
    · cases hstep
      exact iff_of_true h trivial
    · rename_i out t' hsubmit
      obtain ⟨s, hs, rfl⟩ := submitted_spec hsubmit
      cases hstep
      exact iff_of_true (h.replace hs (fun id => Table.lookup_insert _ _ _ _) rfl rfl rfl) trivial
  | erase sid =>
    cases hstep
    exact iff_of_true (h.erase hsane sid) trivial

theorem step_some (g : Issuing) (call : Call) : ∃ g', ClientSessionTable.step g call = some g' := by
  cases call with
  | bind sid p dst =>
    simp only [ClientSessionTable.step]
    split <;> exact ⟨_, rfl⟩
  | setDstService sid dst =>
    simp only [ClientSessionTable.step]
    split <;> exact ⟨_, rfl⟩
  | submitScene expected submit =>
    simp only [ClientSessionTable.step]
    split <;> exact ⟨_, rfl⟩
  | _ => exact ⟨_, rfl⟩

/-- The index is exact throughout a run exactly if no session is bound to another player; an
epoch is never given to a player twice. -/
theorem index_exact_iff (calls : List Call) :
    (∀ pre g, pre <+: calls → Run.exec step {} pre = some g →
      Indexed g.table ∧ g.issued.Nodup) ↔ Run.Along step KeepsPlayer {} calls := by
  refine Run.visited_iff_along Counted (fun g => Indexed g.table ∧ g.issued.Nodup)
    (fun g call hnone => ?_) (fun g call g' hcounted hindexed hstep => ?_) counted_init
    ⟨indexed_init, List.nodup_nil⟩
  · obtain ⟨g', hsome⟩ := step_some g call
    cases hnone.symm.trans hsome
  · have hcounted' := hcounted.step hstep
    refine ⟨hcounted', ?_⟩
    rw [← hindexed.1.step_iff hcounted.sane hstep]
    exact and_iff_left hcounted'.nodup

/-- A session of player 7 is bound to player 8: the index still has player 7 there. -/
theorem rebound_stays_indexed :
    ¬ ∀ calls g, Run.exec step {} calls = some g → Indexed g.table ∧ g.issued.Nodup := by
  intro hclaim
  have hrun : ((Run.exec step {} [.create 1 0, .bind 1 7 0, .bind 1 8 0]).any fun g =>
      g.table.playerIndex.lookup 7 = some 1 ∧ (g.table.get 1).all (·.playerId = 8)) = true := by
    decide +kernel
  obtain ⟨g, hg, hwrong⟩ := (Option.any_eq_true _ _).mp hrun
  obtain ⟨hidx, hplayer⟩ := of_decide_eq_true hwrong
  obtain ⟨s, hs, -, hseven⟩ := ((hclaim _ g hg).1 7 1).mp hidx
  rw [hs] at hplayer
  simp [hseven] at hplayer

end Run

end ClientSessionTable

end Gateway
