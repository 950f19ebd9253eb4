import GameServer.Lib.History
import GameServer.Scene.PlayerChange
import GameServer.Scene.RoundTrip

/-!
# The saves of a player in its history

What the history of a player says about its saves: the save that is in flight, the
snapshot that was last known to be stored, and what may happen next.
-/

namespace Scene

open Db (DbResult DbTask)
open PlayerSnapshotDao (buildSave)

section Shows

variable {s : PlayerSaveSnapshot} {p q : Player} {revision : Nat}

/-- The snapshot has what is saved of the player, its stacks in whatever order. -/
structure PlayerSaveSnapshot.Shows (s : PlayerSaveSnapshot) (p : Player) : Prop where
  values : { s.content with items := p.content.items } = p.content
  items : s.items.Perm p.content.items

theorem PlayerSaveSnapshot.Shows.of_content (h : s.Shows p) (hsame : q.content = p.content) :
    s.Shows q :=
  ⟨hsame ▸ h.values, hsame ▸ h.items⟩

/-- The snapshot was taken of the player, at this revision or before. -/
def Player.Reflects (p : Player) (revision : Nat) (s : PlayerSaveSnapshot) : Prop :=
  revision ≤ p.mutationRevision ∧ (revision = p.mutationRevision → s.Shows p)

theorem Player.Reflects.of_same (h : p.Reflects revision s) (hcontent : q.content = p.content)
    (hrevision : q.mutationRevision = p.mutationRevision) : q.Reflects revision s := by
  unfold Reflects
  rw [hrevision]
  exact ⟨h.1, fun heq => (h.2 heq).of_content hcontent⟩

/-- A change of the player leaves its snapshots behind or does not concern them. -/
theorem Player.Reflects.played (h : p.Reflects revision s) (hplayed : Player.Played p q) :
    q.Reflects revision s := by
  rcases hplayed.change with ⟨hcontent, hrevision, -⟩ | ⟨hrevision, -⟩
  · exact h.of_same hcontent hrevision
  · have hle := h.1
    refine ⟨by omega, fun heq => ?_⟩
    omega

theorem Player.Reflects.confirmed (h : p.Reflects revision s) (version confirmed : Nat) :
    (p.confirmSave version confirmed).Reflects revision s := by
  unfold Player.confirmSave
  split
  · exact h
  · exact h.of_same rfl rfl

/-- A frozen snapshot is one of the player as it is. -/
theorem Player.shows_frozen {version token : Nat} (h : p.freezeSaveSnapshot version token = .ok s) :
    s.Shows p ∧ s.saveVersion = version ∧ s.capturedRevision = p.mutationRevision := by
  unfold Player.freezeSaveSnapshot at h
  split at h
  · cases h
  · cases h
    exact ⟨⟨rfl, .refl _⟩, rfl, rfl⟩

theorem Bag.view_restored {capacity nextSlot : Nat} {items : List ItemStack} {b : Bag}
    (h : Bag.restore capacity nextSlot items = some b) :
    b.capacity = capacity ∧ b.nextSlot = nextSlot ∧ items.Perm b.view := by
  unfold Bag.restore at h
  split at h
  · cases h
  split at h
  · cases h
  rename_i t ht
  cases h
  refine ⟨rfl, rfl, ?_⟩
  have hentries := (Bag.restoreItems_eq_some_iff.mp ht).2
  have hvalues : t.entries.map (·.2) = items.reverse := by
    rw [hentries]
    simp [Function.comp_def]
  unfold Bag.view bySlot
  rw [hvalues]
  exact (List.reverse_perm items).symm.trans (List.mergeSort_perm _ _).symm

/-- A player that is restored is as its snapshot says. -/
theorem Player.shows_restored (h : p.restoreSaveSnapshot s = some q) :
    s.Shows q ∧ q.mutationRevision = 0 ∧ q.persistedVersion = s.saveVersion ∧
      q.persistedRevision = 0 := by
  unfold Player.restoreSaveSnapshot at h
  split at h
  · cases h
  split at h
  · cases h
  split at h
  · cases h
  rename_i bag hbag
  cases h
  obtain ⟨hcapacity, hnext, hitems⟩ := Bag.view_restored hbag
  refine ⟨⟨?_, hitems⟩, rfl, rfl, rfl⟩
  simp [PlayerSaveSnapshot.content, Player.content, hcapacity, hnext]

end Shows

/-- The snapshot that an event says is stored. -/
def ThreadEvent.stores : ThreadEvent → Option PlayerSaveSnapshot
  | .loaded snapshot => some snapshot
  | .saveConfirmed _ _ snapshot => some snapshot
  | _ => none

/-- The event is not about a save. -/
def ThreadEvent.calm : ThreadEvent → Bool
  | .saveSubmitted _ => false
  | .saveConfirmed .. => false
  | _ => true

namespace SaveHistory

/-- What the history of a player says of its saves. -/
def lastStored (log : List ThreadEvent) : Option PlayerSaveSnapshot :=
  log.foldl (fun last e => e.stores <|> last) none

/-- The save that has been submitted and not been confirmed. -/
def inFlight (log : List ThreadEvent) : Option SaveTask :=
  log.foldl
    (fun last e => match e with
      | .saveSubmitted task => some task
      | .saveConfirmed .. => none
      | _ => last) none

/-- Each version submitted is less than `v`, or greater than one that has been loaded since. -/
def Below (log : List ThreadEvent) (v : Nat) : Prop :=
  ∀ before task after, log = before ++ .saveSubmitted task :: after →
    (∀ s, .loaded s ∈ after → task.body.saveVersion ≤ s.saveVersion) → task.body.saveVersion < v

/-- The state that the player was removed with was stored then, or has been stored since. -/
def Saved (before after : List ThreadEvent) (p : Player) : Prop :=
  (∃ s, lastStored before = some s ∧ s.Shows p) ∨
    ∃ taskId result s, .saveConfirmed taskId result s ∈ after ∧ s.Shows p

/-- What may happen next. -/
def law (log : List ThreadEvent) : ThreadEvent → Prop
  | .saveSubmitted task => inFlight log = none ∧ Below log task.body.saveVersion
  | .saveConfirmed taskId result snapshot =>
    result.errcode = 0 ∧ result.classification = .success ∧
      result.saveVersion = snapshot.saveVersion ∧
      ∃ task, inFlight log = some task ∧ task.taskId = taskId ∧
        buildSave snapshot = .ok task.body
  | .loadSubmitted _ => inFlight log = none ∧
      ∀ before p after, log = before ++ .removed p :: after → Saved before after p
  | .loaded _ => inFlight log = none
  | .removed _ => True

variable {log : List ThreadEvent} {e : ThreadEvent} {v w : Nat} {task : SaveTask}

@[simp] theorem lastStored_append (log : List ThreadEvent) (e : ThreadEvent) :
    lastStored (log ++ [e]) = (e.stores <|> lastStored log) := by
  simp [lastStored]

@[simp] theorem inFlight_submitted (log : List ThreadEvent) (task : SaveTask) :
    inFlight (log ++ [.saveSubmitted task]) = some task := by
  simp [inFlight]

@[simp] theorem inFlight_confirmed (log : List ThreadEvent) (taskId : Nat) (result : DbResult)
    (snapshot : PlayerSaveSnapshot) :
    inFlight (log ++ [.saveConfirmed taskId result snapshot]) = none := by
  simp [inFlight]

theorem inFlight_calm (log : List ThreadEvent) (he : e.calm = true) :
    inFlight (log ++ [e]) = inFlight log := by
  cases e with
  | saveSubmitted => cases he
  | saveConfirmed => cases he
  | _ => simp [inFlight]

theorem Below.mono (h : Below log v) (hle : v ≤ w) : Below log w :=
  fun before task after hsplit hloads => Nat.lt_of_lt_of_le (h before task after hsplit hloads) hle

/-- A history that is split at an event which is not one of the latest. -/
theorem split_before {events before after : List ThreadEvent} {x : ThreadEvent}
    (h : log ++ events = before ++ x :: after) (hx : x ∉ events) :
    ∃ after', after = after' ++ events ∧ log = before ++ x :: after' := by
  rcases List.append_eq_append_iff.mp h with ⟨rest, -, hevents⟩ | ⟨rest, hlog, hrest⟩
  · exact absurd (hevents ▸ by simp) hx
  · cases rest with
    | nil => exact absurd (by simp [← show x :: after = events from hrest]) hx
    | cons y after' =>
      obtain ⟨rfl, hafter⟩ := List.cons.inj hrest
      exact ⟨after', hafter, hlog⟩

/-- A history that is split at its last event or before it. -/
theorem split_last {before after : List ThreadEvent} {x : ThreadEvent}
    (h : log ++ [e] = before ++ x :: after) :
    after = [] ∧ before = log ∧ x = e ∨
      ∃ after', after = after' ++ [e] ∧ log = before ++ x :: after' := by
  rcases List.eq_nil_or_concat after with rfl | ⟨after', y, rfl⟩
  · obtain ⟨hbefore, hx⟩ := List.append_inj' h rfl
    exact .inl ⟨rfl, hbefore.symm, (List.cons.inj hx).1.symm⟩
  · have hlist : log ++ [e] = (before ++ x :: after') ++ [y] := by simp [h]
    obtain ⟨hlog, hy⟩ := List.append_inj' hlist rfl
    cases hy
    exact .inr ⟨after', by simp, hlog⟩

/-- An event that submits nothing keeps the bound. -/
theorem Below.append (h : Below log v) (he : ∀ task, e ≠ .saveSubmitted task) :
    Below (log ++ [e]) v := by
  intro before task after hsplit hloads
  obtain ⟨after', rfl, hlog⟩ := split_before hsplit (by simpa using (he task).symm)
  exact h before task after' hlog fun s hs => hloads s (List.mem_append_left _ hs)

theorem Below.submitted (h : Below log v) (hlt : task.body.saveVersion < v) :
    Below (log ++ [.saveSubmitted task]) v := by
  intro before task' after hsplit hloads
  by_cases heq : task' = task
  · exact heq ▸ hlt
  · obtain ⟨after', rfl, hlog⟩ := split_before hsplit (by simpa using heq)
    exact h before task' after' hlog fun s hs => hloads s (List.mem_append_left _ hs)

/-- A load says how far the versions have come. -/
theorem below_loaded (log : List ThreadEvent) (s : PlayerSaveSnapshot) :
    Below (log ++ [.loaded s]) (s.saveVersion + 1) := by
  intro before task after hsplit hloads
  obtain ⟨after', rfl, -⟩ := split_before hsplit (by simp)
  exact Nat.lt_succ_of_le (hloads s (by simp))

theorem Saved.append {before after : List ThreadEvent} {p : Player} (h : Saved before after p)
    (rest : List ThreadEvent) : Saved before (after ++ rest) p := by
  rcases h with h | ⟨taskId, result, s, hmem, hs⟩
  · exact .inl h
  · exact .inr ⟨taskId, result, s, List.mem_append_left _ hmem, hs⟩

end SaveHistory

end Scene
