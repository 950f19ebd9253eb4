import GameServer.Log.AsyncLogger

/-!
# How far the rolling of log files holds

Every write goes to one file or is given up. The files are bounded, the numbers of a
day never go back and nothing is lost as long as each write finds room in the file it
goes to, a date does not come back once later files of it exist, and the files can
be opened. Each of these is needed.
-/

namespace Log

open Gateway (Bytes)

/-- What is promised of the files, where `init` is what they held before. -/
structure Rolled (rollSize : Nat) (init : FileName → Bytes) (s : AsyncLogger) : Prop where
  bound : ∀ f, (s.files f).length ≤ rollSize ∨ s.files f = init f ∨
    ∃ e ∈ s.written, e.file = f ∧ s.files f = e.data
  forward : s.written.Pairwise fun e e' =>
    e.file.today = e'.file.today → e.file.sequence ≤ e'.file.sequence
  all : (s.written.map (·.data)).flatten = s.given.flatten
  contents : ∀ f, s.files f = init f ++ ((s.written.filter (·.file = f)).map (·.data)).flatten

namespace AsyncLogger

section Where

variable (rollSize : Nat) (s : AsyncLogger) (c : Call)

/-- The file that a write of this date tries first. -/
def first (today : String) : FileName :=
  ⟨today, if s.lastData = some today then s.sequence else 0⟩

/-- The file has something in it, and no room for the bytes. -/
def Full (f : FileName) (data : Bytes) : Prop :=
  rollSize < (s.files f).length + data.length ∧ 0 < (s.files f).length

instance (f : FileName) (data : Bytes) : Decidable (s.Full rollSize f data) :=
  inferInstanceAs (Decidable (_ ∧ _))

/-- No file of the same day with a greater number was written. -/
def Newest (f : FileName) : Prop :=
  ∀ e ∈ s.written, e.file.today = f.today → e.file.sequence ≤ f.sequence

instance (f : FileName) : Decidable (s.Newest f) :=
  inferInstanceAs (Decidable (∀ e ∈ s.written, _))

/-- The write may go to this file: it has room, or nothing is written, and no later file of the
day is in use. -/
def Welcomes (f : FileName) (data : Bytes) : Prop :=
  (data = [] ∨ ¬s.Full rollSize f data) ∧ s.Newest f

instance (f : FileName) (data : Bytes) : Decidable (s.Welcomes rollSize f data) :=
  inferInstanceAs (Decidable (_ ∧ _))

/-- The condition on a write. The file that is open is not asked for its size, and neither is
the next file when the first one is full. -/
def Safe : Prop :=
  match c.today with
  | none => c.data = []
  | some today =>
    if s.file = some (s.first today) then s.Welcomes rollSize (s.first today) c.data
    else if c.opens = false then c.data = []
    else if ¬s.Full rollSize (s.first today) c.data then s.Newest (s.first today)
    else if c.reopens = false then c.data = []
    else s.Welcomes rollSize ⟨today, (s.first today).sequence + 1⟩ c.data

/-- The file that a write goes to. -/
def goes : Option FileName :=
  match c.today with
  | none => none
  | some today =>
    if s.file = some (s.first today) then some (s.first today)
    else if c.opens = false then none
    else if ¬s.Full rollSize (s.first today) c.data then some (s.first today)
    else if c.reopens = false then none
    else some ⟨today, (s.first today).sequence + 1⟩

variable {rollSize s c}

theorem safe_iff : s.Safe rollSize c ↔
    match s.goes rollSize c with
    | none => c.data = []
    | some f => s.Welcomes rollSize f c.data := by
  unfold Safe goes
  cases c.today with
  | none => rfl
  | some today =>
    dsimp only
    split
    · rfl
    · split
      · rfl
      · split
        · rename_i hfull
          exact ⟨fun h => ⟨.inr hfull, h⟩, fun h => h.2⟩
        · split <;> rfl

end Where

section Write

variable {rollSize : Nat} {s : AsyncLogger} {c : Call}

/-- The open file is the current one. -/
def Tracks (s : AsyncLogger) : Prop :=
  ∀ f, s.file = some f →
    s.currentFileName = some f ∧ s.lastData = some f.today ∧ f.sequence = s.sequence

/-- A write leaves the files as they were, or appends to one of them. -/
structure Appended (s t : AsyncLogger) (data : Bytes) (f : Option FileName) : Prop where
  tracks : t.Tracks
  given : t.given = s.given ++ [data]
  written : t.written = s.written ++ f.toList.map (⟨·, data⟩)
  files : t.files = match f with
    | none => s.files
    | some f => Function.update s.files f (s.files f ++ data)

/-- What is written to a file that was just opened, or was open. -/
theorem put_appended {u : AsyncLogger} {f : FileName} {data : Bytes}
    (hfile : u.file = some f) (htracks : u.Tracks) (hgiven : u.given = s.given ++ [data])
    (hwritten : u.written = s.written) (hfiles : u.files = s.files) :
    Appended s (u.put data) data (some f) := by
  unfold put
  rw [hfile]
  exact ⟨fun g hg => htracks g (hfile.trans hg), hgiven, by rw [hwritten]; rfl, by rw [hfiles]⟩

theorem newDay_same (today : String) : (s.newDay today).files = s.files ∧
    (s.newDay today).written = s.written ∧ (s.newDay today).given = s.given ∧
    (s.newDay today).lastData = some today := by
  unfold newDay
  split
  · exact ⟨rfl, rfl, rfl, rfl⟩
  · exact ⟨rfl, rfl, rfl, not_not.mp ‹_›⟩

theorem newDay_first (today : String) :
    (s.newDay today).makeFileName today = s.first today := by
  unfold newDay makeFileName first
  by_cases hlast : s.lastData = some today
  · rw [if_neg (not_not_intro hlast), if_pos hlast]
  · rw [if_pos hlast, if_neg hlast]

theorem newDay_tracks (h : s.Tracks) (today : String) : (s.newDay today).Tracks := by
  unfold newDay
  split
  · exact nofun
  · exact h

/-- A file has to be opened unless the first file of the date is open already. -/
theorem newDay_opens (h : s.Tracks) (today : String) :
    ((s.newDay today).file = none ∨ (s.newDay today).currentFileName ≠ some (s.first today)) ↔
      s.file ≠ some (s.first today) := by
  unfold newDay
  split
  · rename_i hlast
    refine iff_of_true (.inl rfl) fun hfile => hlast (h _ hfile).2.1
  · rename_i hlast
    rw [not_not] at hlast
    constructor
    · rintro hopen hfile
      rcases hopen with hnone | hne
      · cases hnone.symm.trans hfile
      · exact hne (h _ hfile).1
    · intro hne
      cases hfile : s.file with
      | none => exact .inl rfl
      | some f =>
        obtain ⟨hcurrent, hday, hsequence⟩ := h f hfile
        have hf : f = s.first today := by
          rw [hlast] at hday
          unfold first
          rw [if_pos hlast, ← hsequence, Option.some.inj hday]
        exact absurd (hf ▸ hfile) hne

theorem write_appended (h : s.Tracks) :
    Appended s (s.write rollSize c) c.data (s.goes rollSize c) := by
  unfold write goes
  cases htoday : c.today with
  | none => exact ⟨h, rfl, (List.append_nil _).symm, rfl⟩
  | some today =>
    dsimp only
    have h' : ({ s with given := s.given ++ [c.data] } : AsyncLogger).Tracks := h
    obtain ⟨hfiles, hwritten, hgiven, hlast⟩ :=
      newDay_same (s := { s with given := s.given ++ [c.data] }) today
    have hfirst := newDay_first (s := { s with given := s.given ++ [c.data] }) today
    have hopens := newDay_opens h' today
    have htracks := newDay_tracks h' today
    -- what the logger has after the date was looked at
    generalize ({ s with given := s.given ++ [c.data] } : AsyncLogger).newDay today = u at *
    change u.makeFileName today = s.first today at hfirst
    change (u.file = none ∨ u.currentFileName ≠ some (s.first today)) ↔
      s.file ≠ some (s.first today) at hopens
    rw [hfirst]
    by_cases hfile : s.file = some (s.first today)
    · have hopen := mt hopens.mp (not_not_intro hfile)
      obtain ⟨hsome, hcurrent⟩ := not_or.mp hopen
      rw [if_neg hopen, if_pos hfile]
      rw [not_not] at hcurrent
      obtain ⟨f, hf⟩ := Option.ne_none_iff_exists'.mp hsome
      have := (htracks f hf).1
      rw [hcurrent] at this
      cases this
      exact put_appended hf htracks hgiven hwritten hfiles
    · rw [if_pos (hopens.mpr hfile), if_neg hfile]
      have hsequence : u.sequence = (s.first today).sequence := congrArg FileName.sequence hfirst
      cases hc : c.opens with
      | false => exact ⟨nofun, hgiven, by rw [hwritten]; exact (List.append_nil _).symm, hfiles⟩
      | true =>
        rw [if_pos rfl, if_neg (show ¬true = false by decide)]
        have hfull : ((u.files (s.first today)).length + c.data.length > rollSize ∧
            (u.files (s.first today)).length > 0) ↔ s.Full rollSize (s.first today) c.data := by
          rw [hfiles]
          exact Iff.rfl
        by_cases hroom : s.Full rollSize (s.first today) c.data
        · rw [if_pos (hfull.mpr hroom), if_neg (not_not_intro hroom)]
          cases hr : c.reopens with
          | false => exact ⟨nofun, hgiven, by rw [hwritten]; exact (List.append_nil _).symm, hfiles⟩
          | true =>
            rw [if_pos rfl, if_neg (show ¬true = false by decide)]
            have hname : (⟨today, u.sequence + 1⟩ : FileName) =
                ⟨today, (s.first today).sequence + 1⟩ := by rw [hsequence]
            rw [← hname]
            refine put_appended rfl ?_ hgiven hwritten hfiles
            rintro f ⟨⟩
            exact ⟨rfl, hlast, rfl⟩
        · rw [if_neg (mt hfull.mp hroom), if_pos hroom]
          refine put_appended rfl ?_ hgiven hwritten hfiles
          rintro f ⟨⟩
          exact ⟨rfl, hlast, hsequence.symm⟩

end Write

section Step

variable {rollSize : Nat} {init : FileName → Bytes} {s t : AsyncLogger} {data : Bytes}

/-- A write that is given up keeps what is promised exactly when there was nothing to write. -/
theorem Appended.none_rolled (h : Appended s t data none) (hs : Rolled rollSize init s) :
    Rolled rollSize init t ↔ data = [] := by
  have hwritten : t.written = s.written := h.written.trans (List.append_nil _)
  have hfiles : t.files = s.files := h.files
  constructor
  · intro ht
    have hall := ht.all
    rw [hwritten, h.given, List.flatten_append, hs.all, List.self_eq_append_right] at hall
    simpa using hall
  · rintro rfl
    refine ⟨fun f => ?_, ?_, ?_, fun f => ?_⟩
    · rw [hfiles, hwritten]
      exact hs.bound f
    · rw [hwritten]
      exact hs.forward
    · rw [hwritten, h.given, hs.all]
      simp
    · rw [hfiles, hwritten]
      exact hs.contents f

/-- No write that is in a file alone is as long as the file with more in it. -/
theorem entry_le_file (hcontents : ∀ f, s.files f =
      init f ++ ((s.written.filter (·.file = f)).map (·.data)).flatten)
    {e : Entry} (he : e ∈ s.written) : e.data.length ≤ (s.files e.file).length := by
  have hmem : e.data ∈ (s.written.filter (·.file = e.file)).map (·.data) :=
    List.mem_map.mpr ⟨e, List.mem_filter.mpr ⟨he, by simp⟩, rfl⟩
  have hle := (List.sublist_flatten_of_mem hmem).length_le
  rw [hcontents, List.length_append]
  omega

theorem Appended.some_bound {f : FileName} (h : Appended s t data (some f))
    (hs : Rolled rollSize init s) :
    (∀ g, (t.files g).length ≤ rollSize ∨ t.files g = init g ∨
      ∃ e ∈ t.written, e.file = g ∧ t.files g = e.data) ↔
      data = [] ∨ ¬s.Full rollSize f data := by
  have hwritten : t.written = s.written ++ [⟨f, data⟩] := h.written
  have hfiles : t.files = Function.update s.files f (s.files f ++ data) := h.files
  have hself : t.files f = s.files f ++ data := by rw [hfiles, Function.update_self]
  constructor
  · intro hbound
    by_contra hnot
    obtain ⟨hne, hfull⟩ := not_or.mp hnot
    rw [not_not] at hfull
    have hlong : (t.files f).length = (s.files f).length + data.length := by
      rw [hself, List.length_append]
    have hpos : 0 < data.length := List.length_pos_iff.mpr hne
    have hinit : (init f).length ≤ (s.files f).length := by
      rw [hs.contents f, List.length_append]
      omega
    rcases hbound f with hle | heq | ⟨e, he, hef, heq⟩
    · have := hfull.1
      omega
    · rw [heq] at hlong
      omega
    · rw [hwritten] at he
      rcases List.mem_append.mp he with he | he
      · have hle := entry_le_file hs.contents he
        rw [hef, ← heq] at hle
        omega
      · rw [List.mem_singleton.mp he] at heq
        rw [heq] at hlong
        have := hfull.2
        dsimp only at hlong
        omega
  · intro hroom g
    by_cases hg : g = f
    · subst hg
      by_cases hempty : data = []
      · rw [hself, hempty, List.append_nil, hwritten]
        rcases hs.bound g with hle | heq | ⟨e, he, heg, heq⟩
        · exact .inl hle
        · exact .inr (.inl heq)
        · exact .inr (.inr ⟨e, List.mem_append_left _ he, heg, heq⟩)
      · have hroom := hroom.resolve_left hempty
        by_cases hpos : 0 < (s.files g).length
        · refine .inl ?_
          rw [hself, List.length_append]
          exact Nat.not_lt.mp fun hlt => hroom ⟨hlt, hpos⟩
        · refine .inr (.inr ⟨⟨g, data⟩, by rw [hwritten]; simp, rfl, ?_⟩)
          rw [hself, List.length_eq_zero_iff.mp (Nat.eq_zero_of_not_pos hpos)]
          rfl
    · rw [hfiles, Function.update_of_ne hg, hwritten]
      rcases hs.bound g with hle | heq | ⟨e, he, heg, heq⟩
      · exact .inl hle
      · exact .inr (.inl heq)
      · exact .inr (.inr ⟨e, List.mem_append_left _ he, heg, heq⟩)

/-- A write to a file keeps what is promised exactly when the file welcomes it. -/
theorem Appended.some_rolled {f : FileName} (h : Appended s t data (some f))
    (hs : Rolled rollSize init s) :
    Rolled rollSize init t ↔ s.Welcomes rollSize f data := by
  have hwritten : t.written = s.written ++ [⟨f, data⟩] := h.written
  have hfiles : t.files = Function.update s.files f (s.files f ++ data) := h.files
  have hforward : (t.written.Pairwise fun e e' =>
      e.file.today = e'.file.today → e.file.sequence ≤ e'.file.sequence) ↔ s.Newest f := by
    rw [hwritten, List.pairwise_append]
    refine ⟨fun hp e he => hp.2.2 e he _ (List.mem_singleton_self _), fun hn => ?_⟩
    refine ⟨hs.forward, List.pairwise_singleton _ _, fun e he e' he' => ?_⟩
    rw [List.mem_singleton.mp he']
    exact hn e he
  constructor
  · exact fun ht => ⟨(h.some_bound hs).mp ht.bound, hforward.mp ht.forward⟩
  · rintro ⟨hroom, hnewest⟩
    refine ⟨(h.some_bound hs).mpr hroom, hforward.mpr hnewest, ?_, fun g => ?_⟩
    · rw [hwritten, h.given, List.map_append, List.flatten_append, List.flatten_append, hs.all]
      rfl
    · rw [hfiles, hwritten, List.filter_append, List.map_append, List.flatten_append,
        ← List.append_assoc, ← hs.contents g, Function.update_apply]
      by_cases hg : g = f
      · subst hg
        simp
      · simp [hg, Ne.symm hg]

theorem write_rolled {c : Call} (htracks : s.Tracks) (hs : Rolled rollSize init s) :
    Rolled rollSize init (s.write rollSize c) ↔ s.Safe rollSize c := by
  have happended : Appended s (s.write rollSize c) c.data (s.goes rollSize c) :=
    write_appended htracks
  rw [safe_iff]
  cases hgoes : s.goes rollSize c with
  | none => exact (hgoes ▸ happended).none_rolled hs
  | some f => exact (hgoes ▸ happended).some_rolled hs

end Step

end AsyncLogger

/-- A logger that was just made, over the files there are. -/
def AsyncLogger.init (files : FileName → Bytes) (sequence hasWritenBytes : Nat) : AsyncLogger :=
  { files, sequence, hasWritenBytes }

end Log
