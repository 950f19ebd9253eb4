import Mathlib.Algebra.BigOperators.Group.List.Basic
import GameServer.Lib.Run
import GameServer.Timer.Wheel

/-!
# The user index

`byUser_` finds the instances of a user id for a cancel. A one-shot that fires takes
its id out again; a repeating timer enters its next instance and leaves the old id
behind. So the index says exactly what is live as long as no repeating timer was
due, and from the first one on it holds the id of no instance.
-/

namespace Timer

namespace TimerWheel

/-- The ids that the index holds for a user id. -/
def idsOf (w : TimerWheel) (u : Nat) : List Nat := (w.byUser.lookup u).getD []

/-- The number of ids in the index. -/
def indexSize (w : TimerWheel) : Nat := (w.byUser.entries.map fun r => r.2.length).sum

/-- The index maps each user id to exactly the ids of its live instances, each once. -/
structure IndexExact (w : TimerWheel) : Prop where
  nonempty : ∀ u, w.byUser.lookup u ≠ some []
  once : ∀ u, (w.idsOf u).Nodup
  ids : ∀ u id, id ∈ w.idsOf u ↔ ∃ lt, w.live.lookup id = some lt ∧ lt.item.userTimerId = u

/-- The next tick takes out an instance of a repeating timer. -/
def RepeatDue (c : Config) (w : TimerWheel) : Prop :=
  ∃ id lt, id ∈ w.slots ((w.curSlot + 1) % c.wheelSlots) ∧ w.live.lookup id = some lt ∧
    lt.leftRound = 0 ∧ lt.item.repeats = true

def NoRepeatFires (c : Config) (w : TimerWheel) : Label → Prop
  | .op _ => True
  | .tick => ¬w.RepeatDue c

/-- Within a tick the index also holds the instances that were taken out and not yet fired. -/
structure IndexedWith (w : TimerWheel) (items : List TimerItem) : Prop where
  nonempty : ∀ u, w.byUser.lookup u ≠ some []
  once : ∀ u, (w.idsOf u).Nodup
  ids : ∀ u id, id ∈ w.idsOf u ↔
    (∃ lt, w.live.lookup id = some lt ∧ lt.item.userTimerId = u) ∨
      ∃ item ∈ items, item.internalId = id ∧ item.userTimerId = u

/-- The index holds an id that no instance has any more. -/
def Stale (w : TimerWheel) (items : List TimerItem) : Prop :=
  ∃ u id, id ∈ w.idsOf u ∧ id < w.nextInternalId ∧ w.live.lookup id = none ∧
    ∀ item ∈ items, item.internalId ≠ id

section Operations

variable {c : Config} {w : TimerWheel}

theorem indexedWith_nil : w.IndexedWith [] ↔ w.IndexExact :=
  ⟨fun h => ⟨h.nonempty, h.once, fun u id => by simpa using h.ids u id⟩,
    fun h => ⟨h.nonempty, h.once, fun u id => by simpa using h.ids u id⟩⟩

theorem place_idsOf (item : TimerItem) (delay : UInt64) (u : Nat) :
    (w.place c item delay).idsOf u =
      if u = item.userTimerId then w.idsOf u ++ [w.nextInternalId] else w.idsOf u := by
  unfold idsOf
  rw [place_byUser]
  split <;> rfl

/-- A new instance is entered under its user id. -/
theorem IndexExact.place (hs : Sane c w) (h : w.IndexExact) (item : TimerItem) (delay : UInt64) :
    (w.place c item delay).IndexExact := by
  have hnone : w.live.lookup w.nextInternalId = none := by
    cases hlive : w.live.lookup w.nextInternalId with
    | none => rfl
    | some lt => exact absurd (hs.fresh _ lt hlive) (Nat.lt_irrefl _)
  have hfresh : ∀ u, w.nextInternalId ∉ w.idsOf u := by
    intro u hmem
    obtain ⟨lt, hlt, -⟩ := (h.ids u _).mp hmem
    cases hnone.symm.trans hlt
  refine ⟨fun u => ?_, fun u => ?_, fun u id => ?_⟩
  · rw [place_byUser]
    split
    · simp
    · exact h.nonempty u
  · rw [place_idsOf]
    split
    · refine List.nodup_append.mpr ⟨h.once u, List.nodup_singleton _, fun x hx y hy hxy => ?_⟩
      rw [List.mem_singleton.mp hy] at hxy
      exact hfresh u (hxy ▸ hx)
    · exact h.once u
  · rw [place_idsOf, place_live]
    by_cases hid : id = w.nextInternalId
    · subst hid
      by_cases hu : u = item.userTimerId
      · simp [hu]
      · simp [hu, hfresh u, Ne.symm hu]
    · rw [if_neg hid, ← h.ids u id]
      split <;> simp [hid]

theorem doCancel_idsOf (u v : Nat) :
    (w.doCancel u).idsOf v = if v = u then [] else w.idsOf v := by
  unfold idsOf
  rw [doCancel_byUser]
  split <;> rfl

theorem IndexExact.doCancel (hs : Sane c w) (h : w.IndexExact) (u : Nat) :
    (w.doCancel u).IndexExact where
  nonempty := fun v => by
    rw [doCancel_byUser]
    split
    · simp
    · exact h.nonempty v
  once := fun v => by
    rw [doCancel_idsOf]
    split
    · exact List.nodup_nil
    · exact h.once v
  ids := fun v id => by
    rw [doCancel_idsOf]
    simp only [doCancel_live_some hs]
    split
    · rename_i hv
      refine iff_of_false List.not_mem_nil ?_
      rintro ⟨lt, ⟨-, hne⟩, hu⟩
      exact hne (hu.trans hv)
    · rename_i hv
      rw [h.ids v id]
      refine exists_congr fun lt => ⟨fun ⟨hlt, hu⟩ => ⟨⟨hlt, hu ▸ hv⟩, hu⟩, fun ⟨hlt, hu⟩ => ⟨hlt.1, hu⟩⟩

/-- A one-shot that fires takes its own id out of the index and nothing else. -/
theorem fire_once_idsOf {item : TimerItem} (hr : item.repeats = false) (u : Nat) :
    (w.fire c item).idsOf u =
      if u = item.userTimerId then (w.idsOf u).filter (· ≠ item.internalId) else w.idsOf u := by
  unfold idsOf fire
  rw [if_neg (by simp [hr])]
  dsimp only
  cases hlook : w.byUser.lookup item.userTimerId with
  | none =>
    by_cases hu : u = item.userTimerId
    · subst hu
      simp [hlook]
    · simp [hu]
  | some ids =>
    by_cases hu : u = item.userTimerId
    · subst hu
      dsimp only
      rw [if_pos rfl, hlook]
      by_cases hnil : ids.filter (· ≠ item.internalId) = []
      · rw [if_pos hnil, Table.lookup_erase, if_pos rfl, Option.getD_some, hnil]
        rfl
      · rw [if_neg hnil, Table.lookup_insert_same]
        rfl
    · dsimp only
      rw [if_neg hu]
      split <;> simp [hu]

theorem fire_once_nonempty {item : TimerItem} (hr : item.repeats = false)
    (h : ∀ u, w.byUser.lookup u ≠ some []) (u : Nat) :
    (w.fire c item).byUser.lookup u ≠ some [] := by
  unfold fire
  rw [if_neg (by simp [hr])]
  dsimp only
  cases hlook : w.byUser.lookup item.userTimerId with
  | none => exact h u
  | some ids =>
    dsimp only
    split
    · rw [Table.lookup_erase]
      split
      · simp
      · exact h u
    · rename_i hne
      rw [Table.lookup_insert]
      split
      · simpa using hne
      · exact h u

theorem fire_once_live {item : TimerItem} (hr : item.repeats = false) :
    (w.fire c item).live = w.live ∧ (w.fire c item).nextInternalId = w.nextInternalId := by
  obtain ⟨byUser, heq, -⟩ := fire_once (c := c) (w := w) hr
  rw [heq]
  exact ⟨rfl, rfl⟩

theorem IndexedWith.fire_once {item : TimerItem} {items : List TimerItem}
    (hr : item.repeats = false) (hgone : w.live.lookup item.internalId = none)
    (hother : ∀ other ∈ items, item.internalId ≠ other.internalId)
    (h : w.IndexedWith (item :: items)) : (w.fire c item).IndexedWith items where
  nonempty := fire_once_nonempty hr h.nonempty
  once := fun u => by
    rw [fire_once_idsOf hr]
    split
    · exact (h.once u).filter _
    · exact h.once u
  ids := fun u id => by
    have hold := h.ids u id
    rw [fire_once_idsOf hr, (fire_once_live hr).1]
    by_cases hid : id = item.internalId
    · subst hid
      have hnot : ¬∃ other ∈ items, other.internalId = item.internalId ∧ other.userTimerId = u := by
        rintro ⟨other, hmem, hid, -⟩
        exact hother other hmem hid.symm
      refine iff_of_false ?_ ?_
      · split
        · simp
        · rename_i hu
          rw [hold, hgone]
          simp only [List.mem_cons, exists_eq_or_imp, hnot, or_false]
          rintro (⟨lt, hlt, -⟩ | ⟨-, hu'⟩)
          · cases hlt
          · exact hu hu'.symm
      · rw [hgone]
        rintro (⟨lt, hlt, -⟩ | h)
        · cases hlt
        · exact hnot h
    · have hmem : (id ∈ if u = item.userTimerId then (w.idsOf u).filter (· ≠ item.internalId)
          else w.idsOf u) ↔ id ∈ w.idsOf u := by
        split <;> simp [hid]
      rw [hmem, hold]
      simp [Ne.symm hid]

/-- Firing never gives an id back, except its own one-shot. -/
theorem Stale.fire {item : TimerItem} {items : List TimerItem} (h : w.Stale (item :: items)) :
    (w.fire c item).Stale items := by
  obtain ⟨u, id, hmem, hlt, hnone, hothers⟩ := h
  have hid := hothers item List.mem_cons_self
  have hrest : ∀ other ∈ items, other.internalId ≠ id := fun other hother =>
    hothers other (List.mem_cons_of_mem _ hother)
  cases hr : item.repeats with
  | true =>
    rw [fire_repeats hr]
    refine ⟨u, id, ?_, Nat.lt_succ_of_lt hlt, ?_, hrest⟩
    · rw [place_idsOf]
      split
      · exact List.mem_append_left _ hmem
      · exact hmem
    · have hne : id ≠ (w.send item).nextInternalId := Nat.ne_of_lt hlt
      rw [place_live, if_neg hne]
      exact hnone
  | false =>
    obtain ⟨hlive, hnext⟩ := fire_once_live (c := c) (w := w) hr
    refine ⟨u, id, ?_, hnext ▸ hlt, hlive ▸ hnone, hrest⟩
    rw [fire_once_idsOf hr]
    split
    · exact List.mem_filter.mpr ⟨hmem, by simpa using Ne.symm hid⟩
    · exact hmem

/-- A repeating timer leaves the id of the instance that fired in the index. -/
theorem IndexedWith.fire_repeats {item : TimerItem} {items : List TimerItem}
    (hr : item.repeats = true) (hp : Pending w (item :: items))
    (hother : ∀ other ∈ items, item.internalId ≠ other.internalId)
    (h : w.IndexedWith (item :: items)) : (w.fire c item).Stale items := by
  obtain ⟨-, hlt, hgone⟩ := hp item List.mem_cons_self
  have hmem : item.internalId ∈ w.idsOf item.userTimerId :=
    (h.ids _ _).mpr (.inr ⟨item, List.mem_cons_self, rfl, rfl⟩)
  rw [TimerWheel.fire_repeats hr]
  refine ⟨item.userTimerId, item.internalId, ?_, Nat.lt_succ_of_lt hlt, ?_,
    fun other hmem => Ne.symm (hother other hmem)⟩
  · rw [place_idsOf, if_pos rfl]
    exact List.mem_append_left _ hmem
  · have hne : item.internalId ≠ (w.send item).nextInternalId := Nat.ne_of_lt hlt
    rw [place_live, if_neg hne]
    exact hgone

end Operations

section Tick

variable {c : Config} {w : TimerWheel}

/-- The items taken out by one sweep have different ids. -/
theorem swept_ids (hs : Sane c w) :
    (swept c w).2.Pairwise fun item other => item.internalId ≠ other.internalId := by
  rw [swept_fired hs]
  refine List.Pairwise.filterMap _ ?_ (hs.once _)
  intro id other hne item hitem item' hitem'
  obtain ⟨lt, hlt, hitem⟩ := Option.bind_eq_some_iff.mp hitem
  obtain ⟨lt', hlt', hitem'⟩ := Option.bind_eq_some_iff.mp hitem'
  split at hitem <;> split at hitem'
  any_goals contradiction
  cases hitem
  cases hitem'
  rw [hs.key id lt hlt, hs.key other lt' hlt']
  exact hne

/-- After the sweep the index holds what is live and what is still to be fired. -/
theorem IndexExact.swept (hs : Sane c w) (h : w.IndexExact) :
    (swept c w).1.IndexedWith (swept c w).2 where
  nonempty := h.nonempty
  once := h.once
  ids := fun u id => by
    refine (h.ids u id).trans ⟨?_, ?_⟩
    · rintro ⟨lt, hlt, hu⟩
      by_cases hid : id ∈ w.slots ((w.advancedTicks + 1) % c.wheelSlots)
      · by_cases hround : lt.leftRound > 0
        · refine .inl ⟨{ lt with leftRound := lt.leftRound - 1 }, ?_, hu⟩
          rw [swept_live hs, if_pos hid, hlt]
          simp [hround]
        · refine .inr ⟨lt.item, ?_, hs.key id lt hlt, hu⟩
          rw [swept_fired hs, List.mem_filterMap]
          exact ⟨id, hid, by simp [hlt, hround]⟩
      · refine .inl ⟨lt, ?_, hu⟩
        rw [swept_live hs, if_neg hid]
        exact hlt
    · rintro (⟨lt, hlt, hu⟩ | ⟨item, hitem, hid, hu⟩)
      · obtain ⟨lt', hlt', heq⟩ := swept_live_some hs hlt
        exact ⟨lt', hlt', heq ▸ hu⟩
      · obtain ⟨id', lt, -, hlt, -, rfl⟩ := mem_swept_fired hs hitem
        rw [hs.key id' lt hlt] at hid
        exact ⟨lt, hid ▸ hlt, hu⟩

theorem repeatDue_iff (hs : Sane c w) :
    w.RepeatDue c ↔ ∃ item ∈ (TimerWheel.swept c w).2, item.repeats = true := by
  unfold RepeatDue
  rw [hs.nextSlot]
  constructor
  · rintro ⟨id, lt, hid, hlt, hround, hr⟩
    refine ⟨lt.item, ?_, hr⟩
    rw [swept_fired hs, List.mem_filterMap]
    exact ⟨id, hid, by simp [hlt, hround]⟩
  · rintro ⟨item, hitem, hr⟩
    obtain ⟨id, lt, hid, hlt, hround, rfl⟩ := mem_swept_fired hs hitem
    exact ⟨id, lt, hid, hlt, hround, hr⟩

theorem Stale.fires {items : List TimerItem} (h : w.Stale items) :
    (items.foldl (TimerWheel.fire c) w).Stale [] := by
  induction items generalizing w with
  | nil => exact h
  | cons item items ih => exact ih h.fire

theorem Stale.not_exact (h : w.Stale []) : ¬w.IndexExact := by
  obtain ⟨u, id, hmem, -, hnone, -⟩ := h
  intro hexact
  obtain ⟨lt, hlt, -⟩ := (hexact.ids u id).mp hmem
  cases hnone.symm.trans hlt

/-- Firing what was taken out leaves the index exact when all of it are one-shots, and a stale
id in it otherwise. -/
theorem IndexedWith.fires {items : List TimerItem} (hp : Pending w items)
    (hids : items.Pairwise fun item other => item.internalId ≠ other.internalId)
    (h : w.IndexedWith items) :
    if ∃ item ∈ items, item.repeats = true then (items.foldl (TimerWheel.fire c) w).Stale []
    else (items.foldl (TimerWheel.fire c) w).IndexExact := by
  induction items generalizing w with
  | nil => simpa using indexedWith_nil.mp h
  | cons item items ih =>
    obtain ⟨hother, hids'⟩ := List.pairwise_cons.mp hids
    rw [List.foldl_cons]
    cases hr : item.repeats with
    | true =>
      rw [if_pos ⟨item, List.mem_cons_self, hr⟩]
      exact (h.fire_repeats hr hp hother).fires
    | false =>
      have hgone := (hp item List.mem_cons_self).2.2
      have hrest := ih (fire_pending hp) hids' (h.fire_once (c := c) hr hgone hother)
      simpa [hr] using hrest

/-- A tick keeps the index exact if and only if no repeating timer is due. -/
theorem IndexExact.tick (hs : Sane c w) (h : w.IndexExact) :
    (w.tick c).IndexExact ↔ ¬w.RepeatDue c := by
  have hfires := (h.swept hs).fires (c := c) (swept_pending hs) (swept_ids hs)
  rw [← tick_eq] at hfires
  rw [repeatDue_iff hs]
  split at hfires
  · rename_i hdue
    exact iff_of_false hfires.not_exact (not_not_intro hdue)
  · rename_i hdue
    exact iff_of_true hfires hdue

theorem indexExact_init : IndexExact {} := ⟨nofun, fun _ => List.nodup_nil, fun _ _ =>
  iff_of_false List.not_mem_nil nofun⟩

theorem IndexExact.step (hs : Sane c w) (h : w.IndexExact) (l : Label) :
    (w.step c l).IndexExact ↔ NoRepeatFires c w l := by
  cases l with
  | op op =>
    refine iff_of_true ?_ trivial
    unfold TimerWheel.step processOp
    dsimp only
    split
    · rw [doAdd_eq]
      exact IndexExact.place (counted_sane hs) ⟨h.nonempty, h.once, h.ids⟩ _ _
    · exact h.doCancel hs op.timerId
  | tick => exact h.tick hs

end Tick

section Size

variable {w : TimerWheel}

theorem mem_indexed_ids (h : w.IndexExact) (id : Nat) :
    id ∈ w.byUser.entries.flatMap (fun r => r.2) ↔ id ∈ w.live.keys := by
  rw [Table.mem_keys_iff, List.mem_flatMap]
  constructor
  · rintro ⟨r, hr, hid⟩
    have hids : id ∈ w.idsOf r.1 := by
      unfold idsOf
      rw [Table.lookup_of_mem hr]
      exact hid
    obtain ⟨lt, hlt, -⟩ := (h.ids r.1 id).mp hids
    exact ⟨lt, hlt⟩
  · rintro ⟨lt, hlt⟩
    have hids := (h.ids lt.item.userTimerId id).mpr ⟨lt, hlt, rfl⟩
    cases hlook : w.byUser.lookup lt.item.userTimerId with
    | none => simp [idsOf, hlook] at hids
    | some ids => exact ⟨⟨_, ids⟩, Table.mem_entries.mpr hlook, by simpa [idsOf, hlook] using hids⟩

theorem nodup_indexed_ids (h : w.IndexExact) :
    (w.byUser.entries.flatMap fun r => r.2).Nodup := by
  have hidsOf : ∀ r ∈ w.byUser.entries, w.idsOf r.1 = r.2 := fun r hr => by
    unfold idsOf
    rw [Table.lookup_of_mem hr]
    rfl
  refine List.nodup_flatMap.mpr ⟨fun r hr => hidsOf r hr ▸ h.once r.1, ?_⟩
  have hkeys : w.byUser.entries.Pairwise fun r s => r.1 ≠ s.1 := by
    have := w.byUser.nodupKeys
    rwa [List.NodupKeys, List.keys, List.Nodup, List.pairwise_map] at this
  refine hkeys.imp_of_mem fun {r s} hr hs hne id hid hid' => ?_
  obtain ⟨lt, hlt, hu⟩ := (h.ids r.1 id).mp (hidsOf r hr ▸ hid)
  obtain ⟨lt', hlt', hu'⟩ := (h.ids s.1 id).mp (hidsOf s hs ▸ hid')
  cases hlt.symm.trans hlt'
  exact hne (hu.symm.trans hu')

/-- An exact index is as large as the live table. -/
theorem IndexExact.size (h : w.IndexExact) : w.indexSize = w.live.size := by
  have hperm : (w.byUser.entries.flatMap fun r => r.2).Perm w.live.keys :=
    (List.perm_ext_iff_of_nodup (nodup_indexed_ids h) w.live.nodupKeys).mpr (mem_indexed_ids h)
  have hlen := hperm.length_eq
  rw [List.length_flatMap] at hlen
  unfold indexSize
  rw [hlen]
  exact List.length_map ..

/-- The index never has more user ids than the wheel has live timers. -/
theorem IndexExact.users (h : w.IndexExact) : w.byUser.size ≤ w.live.size := by
  rw [← h.size]
  unfold indexSize Table.size
  rw [← List.length_map (f := fun r : Σ _ : Nat, List Nat => r.2.length)]
  refine List.length_le_sum_of_one_le _ fun n hn => ?_
  obtain ⟨r, hr, rfl⟩ := List.mem_map.mp hn
  refine List.length_pos_iff.mpr fun hnil => h.nonempty r.1 ?_
  rw [Table.lookup_of_mem hr, hnil]

end Size

section Claim

variable {c : Config}

theorem exec_step (w : TimerWheel) (labels : List Label) :
    Run.exec (fun w l => some (step c w l)) w labels = some (w.run c labels) := by
  induction labels generalizing w with
  | nil => rfl
  | cons l labels ih => exact ih (step c w l)

theorem sane_step {w : TimerWheel} (hs : Sane c w) (l : Label) : Sane c (step c w l) := by
  cases l with
  | op op =>
    unfold step processOp
    dsimp only
    split
    · exact doAdd_sane hs op
    · exact doCancel_sane hs op.timerId
  | tick =>
    have hidle : Holds c w w.adds none := .idle fun id lt h => Nat.ne_of_lt (hs.origin id lt h)
    have hshows : Shows c w w.adds
        { now := w.advancedTicks, adds := w.adds, rings := w.rings w.adds, armed := none } :=
      ⟨rfl, rfl, rfl, hidle⟩
    exact (shows_step hs hshows .tick).1

/-- In every run the index names exactly the live instances, and is no larger than the live
table, if and only if no repeating timer ever comes due. -/
theorem user_index_exact_iff (c : Config) (labels : List Label) :
    (∀ ms, ms <+: labels → (run c {} ms).IndexExact ∧
      (run c {} ms).indexSize = (run c {} ms).live.size ∧
      (run c {} ms).byUser.size ≤ (run c {} ms).live.size) ↔
    Run.Along (fun w l => some (step c w l)) (NoRepeatFires c) {} labels := by
  have hvisited := @Run.visited_iff_along _ _ (fun w l => some (step c w l))
    (NoRepeatFires c) (Sane c) IndexExact (fun s l h => nomatch h)
    (fun s l t hs h ht => by
      cases ht
      exact ⟨sane_step hs l, h.step hs l⟩)
    _ labels sane_init indexExact_init
  rw [← hvisited]
  constructor
  · intro h ms t hms ht
    rw [exec_step] at ht
    cases ht
    exact (h ms hms).1
  · intro h ms hms
    have hexact := h ms _ hms (exec_step {} ms)
    exact ⟨hexact, hexact.size, hexact.users⟩

/-- One timer that repeats every tick: after its first period the index holds two ids. -/
theorem user_index_leaks :
    ¬∀ ms : List Label, ms <+: [.op { timerId := 7, intervalMs := 50, repeats := true }, .tick] →
      (run (Config.ofArgs 50 256) {} ms).IndexExact := by
  intro h
  have hexact := h _ (List.prefix_refl _)
  have hsize : (run (Config.ofArgs 50 256) {}
      [.op { timerId := 7, intervalMs := 50, repeats := true }, .tick]).indexSize = 2 := by rfl
  rw [hexact.size] at hsize
  exact absurd hsize (by decide +kernel)

end Claim

end TimerWheel

end Timer
