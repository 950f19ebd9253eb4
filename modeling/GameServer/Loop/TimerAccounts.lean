import GameServer.Loop.TimerQueue

/-!
# Timer objects are accounted for

An account says which entries hold the objects on the heap. Adding, releasing and writing an
object again keep it, and with it that each object was released once if it is not there any
more.
-/

namespace Loop

namespace TimerQueue

/-- The object of this id is there. -/
def Lives (heap : Nat → Option Timer) (id : TimerId) : Prop :=
  ∃ t, heap id.timer = some t ∧ t.sequence = id.sequence

def releases (events : List Event) : List TimerId :=
  events.filterMap fun
    | .released id => some id
    | _ => none

/-- Each object is held by one entry, and the ids of all others were released once. -/
structure Accounts (heap : Nat → Option Timer) (numCreated : Nat) (events : List Event)
    (held : List Entry) : Prop where
  object : ∀ a t, heap a = some t →
    t.cancelled = false ∧ .created ⟨a, t.sequence⟩ t.repeats ∈ events
  numbered : ∀ id r, .created id r ∈ events → id.timer ≠ 0 ∧ id.sequence < numCreated
  once : ∀ id id' r r', .created id r ∈ events → .created id' r' ∈ events →
    id.sequence = id'.sequence → id = id' ∧ r = r'
  nodup : (held.map (·.timer)).Nodup
  entry : ∀ e ∈ held, ∃ t, heap e.timer = some t ∧ t.expiration = e.expiration
  holder : ∀ a t, heap a = some t → ∃ e ∈ held, e.timer = a
  releasedOnce : (releases events).Nodup
  released : ∀ id, id ∈ releases events ↔ (∃ r, .created id r ∈ events) ∧ ¬Lives heap id

variable {heap : Nat → Option Timer} {numCreated : Nat} {events : List Event}
  {held held' : List Entry} {e : Entry}

theorem Accounts.perm (h : Accounts heap numCreated events held) (hperm : held.Perm held') :
    Accounts heap numCreated events held' where
  object := h.object
  numbered := h.numbered
  once := h.once
  nodup := (hperm.map _).nodup_iff.mp h.nodup
  entry := fun e he => h.entry e (hperm.mem_iff.mpr he)
  holder := fun a t ha => by
    obtain ⟨e, he, hea⟩ := h.holder a t ha
    exact ⟨e, hperm.mem_iff.mp he, hea⟩
  releasedOnce := h.releasedOnce
  released := h.released

/-- Events that neither create nor release change no account. -/
theorem Accounts.log (h : Accounts heap numCreated events held) {event : Event}
    (hcreated : ∀ id r, event ≠ .created id r) (hreleased : ∀ id, event ≠ .released id) :
    Accounts heap numCreated (events ++ [event]) held := by
  have hcreated' : ∀ id r, .created id r ∈ events ++ [event] ↔ .created id r ∈ events := by
    intro id r
    simp [Ne.symm (hcreated id r)]
  have hreleases : releases (events ++ [event]) = releases events := by
    unfold releases
    rw [List.filterMap_append]
    cases event with
    | created id r => exact absurd rfl (hcreated id r)
    | released id => exact absurd rfl (hreleased id)
    | started id => simp
    | cancelled id => simp
  refine ⟨?_, ?_, ?_, h.nodup, h.entry, h.holder, hreleases ▸ h.releasedOnce, ?_⟩
  · simpa only [hcreated'] using h.object
  · simpa only [hcreated'] using h.numbered
  · simpa only [hcreated'] using h.once
  · simpa only [hcreated', hreleases] using h.released

/-- Releasing the object of an entry takes the entry off the account. -/
theorem Accounts.delete (h : Accounts heap numCreated events (e :: held)) :
    ∃ t, heap e.timer = some t ∧
      Accounts (Function.update heap e.timer none) numCreated
        (events ++ [.released ⟨e.timer, t.sequence⟩]) held := by
  obtain ⟨t, ht, -⟩ := h.entry e List.mem_cons_self
  obtain ⟨hnot, hnodup⟩ := List.nodup_cons.mp h.nodup
  have hother : ∀ a u, Function.update heap e.timer none a = some u → a ≠ e.timer ∧ heap a = some u := by
    intro a u hu
    by_cases ha : a = e.timer
    · rw [ha, Function.update_self] at hu
      cases hu
    · rw [Function.update_of_ne ha] at hu
      exact ⟨ha, hu⟩
  have hcreated : ∀ id r, Event.created id r ∈ events ++ [.released ⟨e.timer, t.sequence⟩] ↔
      .created id r ∈ events := by
    intro id r
    simp
  have hreleases : releases (events ++ [.released ⟨e.timer, t.sequence⟩]) =
      releases events ++ [⟨e.timer, t.sequence⟩] := by
    unfold releases
    rw [List.filterMap_append]
    rfl
  have hlives : Lives heap ⟨e.timer, t.sequence⟩ := ⟨t, ht, rfl⟩
  refine ⟨t, ht, ?_, ?_, ?_, hnodup, fun f hf => ?_, fun a u ha => ?_, ?_, fun id => ?_⟩
  · intro a u ha
    rw [hcreated]
    exact h.object a u (hother a u ha).2
  · simpa only [hcreated] using h.numbered
  · simpa only [hcreated] using h.once
  · have hne : f.timer ≠ e.timer := fun heq => hnot (List.mem_map.mpr ⟨f, hf, heq⟩)
    rw [Function.update_of_ne hne]
    exact h.entry f (List.mem_cons_of_mem _ hf)
  · obtain ⟨hne, ha⟩ := hother a u ha
    obtain ⟨f, hf, hfa⟩ := h.holder a u ha
    rcases List.mem_cons.mp hf with rfl | hf
    · exact absurd hfa.symm hne
    · exact ⟨f, hf, hfa⟩
  · rw [hreleases]
    refine List.nodup_append.mpr ⟨h.releasedOnce, List.nodup_singleton _, fun x hx y hy hxy => ?_⟩
    rw [List.mem_singleton.mp hy] at hxy
    exact ((h.released x).mp hx).2 (hxy ▸ hlives)
  · rw [hreleases, List.mem_append, h.released, List.mem_singleton]
    simp only [hcreated]
    have hdead : ¬Lives (Function.update heap e.timer none) ⟨e.timer, t.sequence⟩ := by
      rintro ⟨u, hu, -⟩
      exact (hother _ u hu).1 rfl
    constructor
    · rintro (⟨hc, hl⟩ | rfl)
      · refine ⟨hc, fun ⟨u, hu, hseq⟩ => hl ⟨u, (hother _ u hu).2, hseq⟩⟩
      · exact ⟨⟨_, (h.object e.timer t ht).2⟩, hdead⟩
    · rintro ⟨hc, hl⟩
      by_cases hid : Lives heap id
      · obtain ⟨u, hu, hseq⟩ := hid
        by_cases hne : id.timer = e.timer
        · right
          rw [hne] at hu
          cases ht.symm.trans hu
          cases id
          simp_all
        · exact absurd ⟨u, by rw [Function.update_of_ne hne]; exact hu, hseq⟩ hl
      · exact .inl ⟨hc, hid⟩

/-- A new object under a new number. -/
theorem Accounts.add (h : Accounts heap numCreated events held) {t : Timer}
    (hfree : heap e.timer = none) (hnull : e.timer ≠ 0) (hseq : t.sequence = numCreated)
    (hlive : t.cancelled = false) (hexp : t.expiration = e.expiration) :
    Accounts (Function.update heap e.timer (some t)) (numCreated + 1)
      (events ++ [.created ⟨e.timer, numCreated⟩ t.repeats]) (e :: held) := by
  have hreleases : releases (events ++ [.created ⟨e.timer, numCreated⟩ t.repeats]) =
      releases events := by
    unfold releases
    rw [List.filterMap_append]
    exact List.append_nil _
  have hcreated : ∀ id r, Event.created id r ∈
      events ++ [.created ⟨e.timer, numCreated⟩ t.repeats] ↔
      .created id r ∈ events ∨ id = ⟨e.timer, numCreated⟩ ∧ r = t.repeats := by
    intro id r
    simp
  have hnot : e.timer ∉ held.map (·.timer) := by
    intro hmem
    obtain ⟨f, hf, hfe⟩ := List.mem_map.mp hmem
    obtain ⟨u, hu, -⟩ := h.entry f hf
    rw [hfe, hfree] at hu
    cases hu
  refine ⟨fun a u ha => ?_, fun id r hid => ?_, fun id id' r r' hid hid' hsame => ?_,
    List.nodup_cons.mpr ⟨hnot, h.nodup⟩, fun f hf => ?_, fun a u ha => ?_,
    hreleases ▸ h.releasedOnce, fun id => ?_⟩
  · rw [hcreated]
    by_cases hae : a = e.timer
    · rw [hae, Function.update_self] at ha
      cases ha
      exact ⟨hlive, .inr ⟨by rw [hae, hseq], rfl⟩⟩
    · rw [Function.update_of_ne hae] at ha
      exact ⟨(h.object a u ha).1, .inl (h.object a u ha).2⟩
  · rcases (hcreated id r).mp hid with hid | ⟨rfl, -⟩
    · have := h.numbered id r hid
      exact ⟨this.1, by omega⟩
    · exact ⟨hnull, Nat.lt_succ_self _⟩
  · rcases (hcreated id r).mp hid with hold | ⟨rfl, rfl⟩ <;>
      rcases (hcreated id' r').mp hid' with hold' | ⟨rfl, rfl⟩
    · exact h.once id id' r r' hold hold' hsame
    · exact absurd hsame (Nat.ne_of_lt (h.numbered id r hold).2)
    · exact absurd hsame.symm (Nat.ne_of_lt (h.numbered id' r' hold').2)
    · exact ⟨rfl, rfl⟩
  · rcases List.mem_cons.mp hf with rfl | hf
    · exact ⟨t, Function.update_self .., hexp⟩
    · have hne : f.timer ≠ e.timer := fun heq => hnot (List.mem_map.mpr ⟨f, hf, heq⟩)
      rw [Function.update_of_ne hne]
      exact h.entry f hf
  · by_cases hae : a = e.timer
    · exact ⟨e, List.mem_cons_self, hae.symm⟩
    · rw [Function.update_of_ne hae] at ha
      obtain ⟨f, hf, hfa⟩ := h.holder a u ha
      exact ⟨f, List.mem_cons_of_mem _ hf, hfa⟩
  · rw [hreleases, h.released]
    simp only [hcreated]
    constructor
    · rintro ⟨⟨r, hr⟩, hdead⟩
      refine ⟨⟨r, .inl hr⟩, fun ⟨u, hu, hseq'⟩ => ?_⟩
      by_cases hae : id.timer = e.timer
      · rw [hae, Function.update_self] at hu
        cases hu
        have := (h.numbered id r hr).2
        omega
      · rw [Function.update_of_ne hae] at hu
        exact hdead ⟨u, hu, hseq'⟩
    · rintro ⟨⟨r, hr | ⟨rfl, -⟩⟩, hdead⟩
      · refine ⟨⟨r, hr⟩, fun ⟨u, hu, hseq'⟩ => hdead ⟨u, ?_, hseq'⟩⟩
        have hae : id.timer ≠ e.timer := fun hae => by
          rw [hae, hfree] at hu
          cases hu
        rw [Function.update_of_ne hae]
        exact hu
      · exact absurd ⟨t, Function.update_self .., hseq⟩ hdead

/-- An object of the account is written again with another expiration. -/
theorem Accounts.restart (h : Accounts heap numCreated events (e :: held)) {t : Timer}
    (ht : heap e.timer = some t) (expiration : Int) :
    Accounts (Function.update heap e.timer (some { t with expiration })) numCreated events
      (⟨expiration, e.timer⟩ :: held) := by
  obtain ⟨hnot, hnodup⟩ := List.nodup_cons.mp h.nodup
  have hlives : ∀ id, Lives (Function.update heap e.timer (some { t with expiration })) id ↔
      Lives heap id := by
    intro id
    unfold Lives
    by_cases hae : id.timer = e.timer
    · rw [hae, Function.update_self, ht]
      simp
    · rw [Function.update_of_ne hae]
  refine ⟨fun a u ha => ?_, h.numbered, h.once, h.nodup, fun f hf => ?_, fun a u ha => ?_,
    h.releasedOnce, fun id => by rw [hlives, h.released]⟩
  · by_cases hae : a = e.timer
    · rw [hae, Function.update_self] at ha
      cases ha
      rw [hae]
      exact h.object e.timer t ht
    · rw [Function.update_of_ne hae] at ha
      exact h.object a u ha
  · rcases List.mem_cons.mp hf with rfl | hf
    · exact ⟨_, Function.update_self .., rfl⟩
    · have hne : f.timer ≠ e.timer := fun heq => hnot (List.mem_map.mpr ⟨f, hf, heq⟩)
      rw [Function.update_of_ne hne]
      exact h.entry f (List.mem_cons_of_mem _ hf)
  · by_cases hae : a = e.timer
    · exact ⟨_, List.mem_cons_self, hae.symm⟩
    · rw [Function.update_of_ne hae] at ha
      obtain ⟨f, hf, hfa⟩ := h.holder a u ha
      rcases List.mem_cons.mp hf with rfl | hf
      · exact absurd hfa.symm hae
      · exact ⟨f, List.mem_cons_of_mem _ hf, hfa⟩

end TimerQueue

end Loop
