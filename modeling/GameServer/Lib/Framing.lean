import Mathlib.Data.List.Basic
import Mathlib.Data.List.Forall2

/-!
# Frames in a stream

A frame starts with two marks, which are different, and has a header that gives its length.
A decoder looks for marks in the bytes it has, drops what cannot be a frame and gives
up after so many drops; it is called again until it needs more bytes. What it gives
is compared with the frames of the whole stream, so that it does not depend on how the
stream was cut.
-/

/-- A format of frames. `parse` is given a whole frame and may refuse it. -/
structure Framing (α F : Type) where
  first : α
  second : α
  first_ne : first ≠ second
  headerSize : Nat
  two_le : 2 ≤ headerSize
  accepts : List α → Bool
  totalLen : List α → Nat
  headerSize_le : ∀ header, accepts header = true → headerSize ≤ totalLen header
  parse : List α → Option F

namespace Framing

variable {α F : Type} [DecidableEq α] (d : Framing α F)

def header (s : List α) : List α := s.take d.headerSize

/-- The stream has marks here. -/
def marked (s : List α) : Bool := s.take 2 = [d.first, d.second]

section Decode

/-- The offset of the first marks. -/
def findMagic : List α → Option Nat
  | [] => none
  | a :: s => if d.marked (a :: s) then some 0 else (findMagic s).map (· + 1)

inductive Status (F : Type) where
  | ok (frame : F)
  | needMore
  | error
  deriving DecidableEq, Repr

/-- How a round of the loop ends. -/
inductive Round (α F : Type) where
  | done (status : Status F) (rest : List α)
  | again (resync : Nat) (rest : List α)

/-- Marks that are no frame are dropped. -/
def skip (limit resync : Nat) (s : List α) : Round α F :=
  if limit < resync + 1 then .done .error (s.drop 2) else .again (resync + 1) (s.drop 2)

/-- What is done with marks at the start. -/
def candidate (limit resync : Nat) (s : List α) : Round α F :=
  if !d.accepts (d.header s) then skip limit resync s
  else if s.length < d.totalLen (d.header s) then .done .needMore s
  else match d.parse (s.take (d.totalLen (d.header s))) with
    | none => .done .error (s.drop 2)
    | some frame => .done (.ok frame) (s.drop (d.totalLen (d.header s)))

def round (limit resync : Nat) (s : List α) : Round α F :=
  if s.length < d.headerSize then .done .needMore s
  else match d.findMagic s with
    -- only the last one may be half of the marks
    | none => .done .needMore (s.drop (s.length - 1))
    | some offset =>
      if offset = 0 then d.candidate limit resync s
      else if limit < resync + 1 then .done .error (s.drop offset)
      else if (s.drop offset).length < d.headerSize then .done .needMore (s.drop offset)
      else d.candidate limit (resync + 1) (s.drop offset)

/-- `none` is a loop that has not ended. -/
def loop (limit : Nat) : Nat → Nat → List α → Option (Status F × List α)
  | 0, _, _ => none
  | fuel + 1, resync, s =>
    match d.round limit resync s with
    | .done status rest => some (status, rest)
    | .again resync rest => loop limit fuel resync rest

/-- A call of the decoder. -/
def decode (limit : Nat) (s : List α) : Option (Status F × List α) := d.loop limit (limit + 1) 0 s

/-- Calls of the decoder until it needs more. -/
def drain (limit : Nat) : Nat → List α → Option (List F × List α)
  | 0, _ => none
  | fuel + 1, s => do
    let (status, rest) ← d.decode limit s
    match status with
    | .needMore => some ([], rest)
    | .error => drain limit fuel rest
    | .ok frame =>
      let (frames, rest) ← drain limit fuel rest
      some (frame :: frames, rest)

/-- The chunks of a stream, each decoded when it comes. -/
def feed (limit : Nat) : List α → List (List α) → Option (List F × List α)
  | s, [] => some ([], s)
  | s, chunk :: chunks => do
    let (frames, rest) ← d.drain limit ((s ++ chunk).length + 1) (s ++ chunk)
    let (frames', rest) ← feed limit rest chunks
    some (frames ++ frames', rest)

end Decode

section Frames

/-- The frames of a stream, one after another. -/
def frames (s : List α) : List F :=
  if s.length < d.headerSize then []
  else if !d.marked s then frames (s.drop 1)
  else if d.accepts (d.header s) then
    if s.length < d.totalLen (d.header s) then []
    else match d.parse (s.take (d.totalLen (d.header s))) with
      | none => frames (s.drop 2)
      | some frame => frame :: frames (s.drop (d.totalLen (d.header s)))
  else frames (s.drop 2)
  termination_by s.length
  decreasing_by
    all_goals
      have htwo := d.two_le
      simp only [List.length_drop]
    · omega
    · omega
    · have hle := d.headerSize_le _ ‹_›
      omega
    · omega

variable {d} {s : List α}

theorem frames_short (h : s.length < d.headerSize) : d.frames s = [] := by
  rw [frames, if_pos h]

theorem frames_unmarked (h : d.marked s = false) : d.frames s = d.frames (s.drop 1) := by
  by_cases hlen : s.length < d.headerSize
  · rw [frames_short hlen, frames_short (by rw [List.length_drop]; omega)]
  · rw [frames, if_neg hlen, if_pos (by simp [h])]

theorem frames_rejected (hlen : d.headerSize ≤ s.length) (hmark : d.marked s = true)
    (haccept : d.accepts (d.header s) = false) : d.frames s = d.frames (s.drop 2) := by
  rw [frames, if_neg (Nat.not_lt.mpr hlen), if_neg (by simp [hmark]), if_neg (by simp [haccept])]

theorem frames_incomplete (hlen : d.headerSize ≤ s.length) (hmark : d.marked s = true)
    (haccept : d.accepts (d.header s) = true) (htotal : s.length < d.totalLen (d.header s)) :
    d.frames s = [] := by
  rw [frames, if_neg (Nat.not_lt.mpr hlen), if_neg (by simp [hmark]), if_pos haccept,
    if_pos htotal]

theorem frames_refused (hmark : d.marked s = true)
    (haccept : d.accepts (d.header s) = true) (htotal : d.totalLen (d.header s) ≤ s.length)
    (hparse : d.parse (s.take (d.totalLen (d.header s))) = none) :
    d.frames s = d.frames (s.drop 2) := by
  have hlen := Nat.le_trans (d.headerSize_le _ haccept) htotal
  rw [frames, if_neg (Nat.not_lt.mpr hlen), if_neg (by simp [hmark]), if_pos haccept,
    if_neg (Nat.not_lt.mpr htotal)]
  simp only [hparse]

theorem frames_frame (hmark : d.marked s = true)
    (haccept : d.accepts (d.header s) = true) (htotal : d.totalLen (d.header s) ≤ s.length)
    {frame : F} (hparse : d.parse (s.take (d.totalLen (d.header s))) = some frame) :
    d.frames s = frame :: d.frames (s.drop (d.totalLen (d.header s))) := by
  have hlen := Nat.le_trans (d.headerSize_le _ haccept) htotal
  rw [frames, if_neg (Nat.not_lt.mpr hlen), if_neg (by simp [hmark]), if_pos haccept,
    if_neg (Nat.not_lt.mpr htotal)]
  simp only [hparse]

section Append

variable {t : List α}

omit [DecidableEq α] in
theorem header_append (h : d.headerSize ≤ s.length) : d.header (s ++ t) = d.header s :=
  List.take_append_of_le_length h

theorem marked_append (h : 2 ≤ s.length) : d.marked (s ++ t) = d.marked s := by
  unfold marked
  rw [List.take_append_of_le_length h]

theorem findMagic_none (h : d.findMagic s = none) :
    d.frames (s ++ t) = d.frames (s.drop (s.length - 1) ++ t) := by
  induction s with
  | nil => rfl
  | cons a s ih =>
    unfold findMagic at h
    split at h
    · cases h
    rename_i hmark
    cases s with
    | nil => rfl
    | cons b s =>
      have hmark : d.marked (a :: b :: s ++ t) = false := by
        rw [marked_append (by simp)]
        exact Bool.not_eq_true _ ▸ hmark
      rw [frames_unmarked hmark]
      exact ih (Option.map_eq_none_iff.mp h)

theorem findMagic_some {offset : Nat} (h : d.findMagic s = some offset) :
    offset < s.length ∧ d.marked (s.drop offset) = true ∧
      d.frames (s ++ t) = d.frames (s.drop offset ++ t) := by
  induction s generalizing offset with
  | nil => cases h
  | cons a s ih =>
    unfold findMagic at h
    split at h
    · rename_i hmark
      obtain rfl := Option.some.inj h
      exact ⟨Nat.succ_pos _, hmark, rfl⟩
    · rename_i hmark
      obtain ⟨k, hk, rfl⟩ := Option.map_eq_some_iff.mp h
      obtain ⟨hlt, hmarked, hframes⟩ := ih hk
      refine ⟨Nat.succ_lt_succ hlt, hmarked, ?_⟩
      -- the marks that were found have two bytes
      have htwo : 2 ≤ (a :: s).length := by
        simp only [List.length_cons]
        omega
      have hmark : d.marked (a :: s ++ t) = false := by
        rw [marked_append htwo]
        exact Bool.not_eq_true _ ▸ hmark
      rw [frames_unmarked hmark]
      exact hframes

end Append

end Frames

section Reads

/-- The stream is, whatever follows, some frames and then the rest. -/
def Reads (s : List α) (frames : List F) (rest : List α) : Prop :=
  ∀ t, d.frames (s ++ t) = frames ++ d.frames (rest ++ t)

variable {d} {s rest last : List α} {fs gs : List F}

theorem Reads.refl (s : List α) : d.Reads s [] s := fun _ => rfl

theorem Reads.trans (h : d.Reads s fs rest) (h' : d.Reads rest gs last) :
    d.Reads s (fs ++ gs) last := fun t => by
  rw [h t, h' t, List.append_assoc]

theorem Reads.append (h : d.Reads s fs rest) (t : List α) : d.Reads (s ++ t) fs (rest ++ t) :=
  fun u => by rw [List.append_assoc, List.append_assoc, h (t ++ u)]

theorem Reads.frames_eq (h : d.Reads s fs rest) (hrest : d.frames rest = []) : d.frames s = fs := by
  have hnil := h []
  rwa [List.append_nil, List.append_nil, hrest, List.append_nil] at hnil

/-- What a call has done to the stream. -/
def Answers (d : Framing α F) (s : List α) : Status F → List α → Prop
  | .ok frame, rest => rest.length < s.length ∧ d.Reads s [frame] rest
  | .error, rest => rest.length < s.length ∧ d.Reads s [] rest
  | .needMore, rest => d.Reads s [] rest ∧ d.frames rest = []

/-- What a round has done to the stream. -/
def Turns (d : Framing α F) (limit resync : Nat) (s : List α) : Round α F → Prop
  | .done status rest => d.Answers s status rest
  | .again resync' rest => resync < resync' ∧ resync' ≤ limit ∧ rest.length < s.length ∧
    d.Reads s [] rest

/-- What follows dropped bytes follows the stream. -/
theorem Answers.after (hlen : rest.length ≤ s.length) (h : d.Reads s [] rest) {status : Status F}
    (ha : d.Answers rest status last) : d.Answers s status last := by
  cases status with
  | ok frame => exact ⟨Nat.lt_of_lt_of_le ha.1 hlen, h.trans ha.2⟩
  | error => exact ⟨Nat.lt_of_lt_of_le ha.1 hlen, h.trans ha.2⟩
  | needMore => exact ⟨h.trans ha.1, ha.2⟩

theorem skip_turns (limit resync : Nat) (hlen : 2 ≤ s.length) (h : d.Reads s [] (s.drop 2)) :
    d.Turns limit resync s (skip limit resync s) := by
  have hlt : (s.drop 2).length < s.length := by
    rw [List.length_drop]
    omega
  unfold skip
  split
  · exact ⟨hlt, h⟩
  · exact ⟨Nat.lt_succ_self _, by omega, hlt, h⟩

/-- Marks at the start of enough bytes are a frame, are dropped, or wait. -/
theorem candidate_turns (limit resync : Nat) (hlen : d.headerSize ≤ s.length)
    (hmark : d.marked s = true) : d.Turns limit resync s (d.candidate limit resync s) := by
  have htwo := Nat.le_trans d.two_le hlen
  have hmark' : ∀ t, d.marked (s ++ t) = true := fun t => (marked_append htwo).trans hmark
  have hlen' : ∀ t, d.headerSize ≤ (s ++ t).length := fun t => by
    rw [List.length_append]
    omega
  unfold candidate
  split
  · rename_i haccept
    refine skip_turns limit resync htwo fun t => ?_
    rw [frames_rejected (hlen' t) (hmark' t) (by rw [header_append hlen]; simpa using haccept),
      List.drop_append_of_le_length htwo]
    rfl
  rename_i haccept
  have haccept : d.accepts (d.header s) = true := by simpa using haccept
  have haccept' : ∀ t, d.accepts (d.header (s ++ t)) = true := fun t => by
    rw [header_append hlen]
    exact haccept
  split
  · rename_i htotal
    exact ⟨Reads.refl s, frames_incomplete hlen hmark haccept htotal⟩
  rename_i htotal
  have htotal : d.totalLen (d.header s) ≤ s.length := Nat.not_lt.mp htotal
  have htotal' : ∀ t, d.totalLen (d.header (s ++ t)) ≤ (s ++ t).length := fun t => by
    rw [header_append hlen, List.length_append]
    omega
  have htake : ∀ t, (s ++ t).take (d.totalLen (d.header (s ++ t))) =
      s.take (d.totalLen (d.header s)) := fun t => by
    rw [header_append hlen, List.take_append_of_le_length htotal]
  split
  · rename_i hparse
    refine ⟨by rw [List.length_drop]; omega, fun t => ?_⟩
    rw [frames_refused (hmark' t) (haccept' t) (htotal' t) (by rw [htake, hparse]),
      List.drop_append_of_le_length htwo]
    rfl
  · rename_i frame hparse
    have hpos := Nat.le_trans d.two_le (d.headerSize_le _ haccept)
    refine ⟨by rw [List.length_drop]; omega, fun t => ?_⟩
    rw [frames_frame (hmark' t) (haccept' t) (htotal' t) (by rw [htake, hparse]),
      header_append hlen, List.drop_append_of_le_length htotal]
    rfl

theorem Turns.after {limit resync resync' : Nat} (hresync : resync ≤ resync')
    (hlen : rest.length ≤ s.length) (h : d.Reads s [] rest) {r : Round α F}
    (hr : d.Turns limit resync' rest r) : d.Turns limit resync s r := by
  cases r with
  | done status last => exact Answers.after hlen h hr
  | again resync'' last =>
    obtain ⟨hlt, hle, hlast, hreads⟩ := hr
    exact ⟨Nat.lt_of_le_of_lt hresync hlt, hle, Nat.lt_of_lt_of_le hlast hlen, h.trans hreads⟩

theorem round_turns (limit resync : Nat) (s : List α) :
    d.Turns limit resync s (d.round limit resync s) := by
  unfold round
  split
  · rename_i hshort
    exact ⟨Reads.refl s, frames_short hshort⟩
  rename_i hlen
  have hlen := Nat.not_lt.mp hlen
  split
  · rename_i hnone
    refine ⟨fun t => findMagic_none hnone, frames_short ?_⟩
    have htwo := d.two_le
    rw [List.length_drop]
    omega
  · rename_i offset hsome
    obtain ⟨hlt, hmark, -⟩ := findMagic_some (t := []) hsome
    have hreads : d.Reads s [] (s.drop offset) := fun t => (findMagic_some hsome).2.2
    have hle : (s.drop offset).length ≤ s.length := by
      rw [List.length_drop]
      omega
    split
    · rename_i hzero
      subst hzero
      exact candidate_turns limit resync hlen hmark
    rename_i hzero
    split
    · exact ⟨by rw [List.length_drop]; omega, hreads⟩
    split
    · rename_i hshort
      exact ⟨hreads, frames_short hshort⟩
    · rename_i hrest
      exact Turns.after (Nat.le_succ _) hle hreads
        (candidate_turns limit (resync + 1) (Nat.not_lt.mp hrest) hmark)

/-- The loop ends, for the rounds that go on are counted. -/
theorem loop_answers {limit fuel resync : Nat} (hfuel : limit < fuel + resync)
    (hresync : resync ≤ limit) (s : List α) :
    ∃ status rest, d.loop limit fuel resync s = some (status, rest) ∧ d.Answers s status rest := by
  induction fuel generalizing resync s with
  | zero => omega
  | succ fuel ih =>
    have hround := d.round_turns limit resync s
    unfold loop
    cases hr : d.round limit resync s with
    | done status rest =>
      rw [hr] at hround
      exact ⟨status, rest, rfl, hround⟩
    | again resync' rest =>
      rw [hr] at hround
      obtain ⟨hlt, hle, hlen, hreads⟩ := hround
      obtain ⟨status, last, hloop, hanswers⟩ := ih (by omega) hle rest
      exact ⟨status, last, hloop, hanswers.after (Nat.le_of_lt hlen) hreads⟩

/-- A call of the decoder ends. -/
theorem decode_answers (limit : Nat) (s : List α) :
    ∃ status rest, d.decode limit s = some (status, rest) ∧ d.Answers s status rest :=
  loop_answers (Nat.lt_succ_self _) (Nat.zero_le _) s

theorem drain_reads (limit : Nat) {fuel : Nat} {s : List α} (hfuel : s.length < fuel) :
    ∃ fs rest, d.drain limit fuel s = some (fs, rest) ∧ d.Reads s fs rest ∧ d.frames rest = [] := by
  induction fuel generalizing s with
  | zero => omega
  | succ fuel ih =>
    obtain ⟨status, rest, hdecode, hanswers⟩ := d.decode_answers limit s
    cases status with
    | needMore =>
      refine ⟨[], rest, ?_, hanswers⟩
      simp only [drain, hdecode, Option.bind_eq_bind, Option.bind_some]
    | error =>
      obtain ⟨fs, last, hdrain, hreads, hlast⟩ := ih (s := rest) (by have := hanswers.1; omega)
      refine ⟨fs, last, ?_, hanswers.2.trans hreads, hlast⟩
      simp only [drain, hdecode, Option.bind_eq_bind, Option.bind_some, hdrain]
    | ok frame =>
      obtain ⟨fs, last, hdrain, hreads, hlast⟩ := ih (s := rest) (by have := hanswers.1; omega)
      refine ⟨frame :: fs, last, ?_, hanswers.2.trans hreads, hlast⟩
      simp only [drain, hdecode, Option.bind_eq_bind, Option.bind_some, hdrain]

/-- The frames of the chunks are the frames of the stream. -/
theorem feed_reads (limit : Nat) (chunks : List (List α)) {s : List α} (hs : d.frames s = []) :
    ∃ fs rest, d.feed limit s chunks = some (fs, rest) ∧ d.Reads (s ++ chunks.flatten) fs rest ∧
      d.frames rest = [] := by
  induction chunks generalizing s with
  | nil => exact ⟨[], s, rfl, by simpa using Reads.refl s, hs⟩
  | cons chunk chunks ih =>
    obtain ⟨fs, rest, hdrain, hreads, hrest⟩ :=
      drain_reads limit (Nat.lt_succ_self (s ++ chunk).length)
    obtain ⟨gs, last, hfeed, hreads', hlast⟩ := ih hrest
    refine ⟨fs ++ gs, last, ?_, ?_, hlast⟩
    · simp only [feed, hdrain, Option.bind_eq_bind, Option.bind_some, hfeed]
    · rw [List.flatten_cons, ← List.append_assoc]
      exact (hreads.append chunks.flatten).trans hreads'

/-- What a stream gives does not depend on how it was cut. -/
theorem feed_eq (limit : Nat) (chunks : List (List α)) :
    ∃ rest, d.feed limit [] chunks = some (d.frames chunks.flatten, rest) := by
  have hnil : d.frames ([] : List α) = [] :=
    frames_short (Nat.lt_of_lt_of_le (by decide : 0 < 2) d.two_le)
  obtain ⟨fs, rest, hfeed, hreads, hrest⟩ := feed_reads limit chunks hnil
  refine ⟨rest, ?_⟩
  rw [hfeed, ← hreads.frames_eq hrest, List.nil_append]

end Reads

section Written

/-- Bytes that are one frame. -/
structure Writes (d : Framing α F) (bytes : List α) (frame : F) : Prop where
  marked : d.marked bytes = true
  accepts : d.accepts (d.header bytes) = true
  totalLen : d.totalLen (d.header bytes) = bytes.length
  parse : d.parse bytes = some frame

variable {d} {bytes part : List α} {frame : F} {limit : Nat}

theorem Writes.headerSize_le (h : d.Writes bytes frame) : d.headerSize ≤ bytes.length :=
  h.totalLen ▸ d.headerSize_le _ h.accepts

theorem loop_marked {s : List α} {resync fuel : Nat} (hlen : d.headerSize ≤ s.length)
    (hmark : d.marked s = true) :
    d.loop limit (fuel + 1) resync s = match d.candidate limit resync s with
      | .done status rest => some (status, rest)
      | .again resync rest => d.loop limit fuel resync rest := by
  have htwo := d.two_le
  have hmagic : d.findMagic s = some 0 := by
    cases s with
    | nil => simp at hlen; omega
    | cons a s => rw [findMagic, if_pos hmark]
  rw [loop, round, if_neg (Nat.not_lt.mpr hlen), hmagic]
  rfl

theorem Writes.decode (h : d.Writes bytes frame) (t : List α) :
    d.decode limit (bytes ++ t) = some (.ok frame, t) := by
  have hlen := h.headerSize_le
  have hlen' : d.headerSize ≤ (bytes ++ t).length := by
    rw [List.length_append]
    omega
  have hmark : d.marked (bytes ++ t) = true :=
    (marked_append (Nat.le_trans d.two_le hlen)).trans h.marked
  unfold Framing.decode
  rw [loop_marked hlen' hmark]
  unfold candidate
  rw [header_append hlen, h.accepts, h.totalLen, if_neg (by simp),
    if_neg (by rw [List.length_append]; omega), List.take_left, h.parse, List.drop_left]

/-- A decoder that needs more leaves what it has. -/
def Waits (d : Framing α F) (limit : Nat) (s : List α) : Prop :=
  d.decode limit s = some (.needMore, s)

theorem waits_short {s : List α} (h : s.length < d.headerSize) : d.Waits limit s := by
  unfold Waits Framing.decode
  rw [loop, round, if_pos h]

theorem Writes.waits (h : d.Writes bytes frame) (hpart : part <+: bytes)
    (hlt : part.length < bytes.length) : d.Waits limit part := by
  by_cases hshort : part.length < d.headerSize
  · exact waits_short hshort
  have hlen := Nat.not_lt.mp hshort
  obtain ⟨t, rfl⟩ := hpart
  have hmark : d.marked part = true :=
    (marked_append (Nat.le_trans d.two_le hlen)).symm.trans h.marked
  have haccept := h.accepts
  have htotal := h.totalLen
  rw [header_append hlen] at haccept htotal
  unfold Waits Framing.decode
  rw [loop_marked hlen hmark]
  unfold candidate
  rw [haccept, htotal, if_neg (by simp), if_pos hlt]

theorem drain_written {bss : List (List α)} {fs : List F} (h : List.Forall₂ d.Writes bss fs)
    (hpart : d.Waits limit part) {fuel : Nat} (hfuel : (bss.flatten ++ part).length < fuel) :
    d.drain limit fuel (bss.flatten ++ part) = some (fs, part) := by
  induction h generalizing fuel with
  | nil =>
    cases fuel with
    | zero => omega
    | succ fuel =>
      have hdecode : d.decode limit part = some (.needMore, part) := hpart
      simp only [List.flatten_nil, List.nil_append, drain, hdecode, Option.bind_eq_bind,
        Option.bind_some]
  | @cons bytes frame bss fs hw _ ih =>
    cases fuel with
    | zero => omega
    | succ fuel =>
      have hlen := Nat.le_trans d.two_le hw.headerSize_le
      rw [List.flatten_cons, List.append_assoc] at hfuel ⊢
      have hrest := @ih fuel (by rw [List.length_append] at hfuel; omega)
      simp only [drain, hw.decode, Option.bind_eq_bind, Option.bind_some, hrest]

/-- The start of a stream of frames is some frames and the start of the next. -/
theorem prefix_written (limit : Nat) {bss : List (List α)} {fs : List F} (h : List.Forall₂ d.Writes bss fs)
    {s : List α} (hs : s <+: bss.flatten) :
    ∃ bss₁ bss₂ fs₁ fs₂ part, bss = bss₁ ++ bss₂ ∧ fs = fs₁ ++ fs₂ ∧ s = bss₁.flatten ++ part ∧
      List.Forall₂ d.Writes bss₁ fs₁ ∧ List.Forall₂ d.Writes bss₂ fs₂ ∧ d.Waits limit part := by
  have hempty : d.Waits limit [] := waits_short (Nat.lt_of_lt_of_le (by decide : 0 < 2) d.two_le)
  induction h generalizing s with
  | nil =>
    rw [List.flatten_nil, List.prefix_nil] at hs
    exact ⟨[], [], [], [], [], rfl, rfl, hs, .nil, .nil, hempty⟩
  | @cons bytes frame bss fs hw hws ih =>
    rw [List.flatten_cons] at hs
    rcases Nat.lt_or_ge s.length bytes.length with hlt | hge
    · have hpart : s <+: bytes :=
        List.prefix_of_prefix_length_le hs (List.prefix_append _ _) (Nat.le_of_lt hlt)
      exact ⟨[], bytes :: bss, [], frame :: fs, s, rfl, rfl, rfl, .nil, .cons hw hws,
        hw.waits hpart hlt⟩
    · obtain ⟨s, rfl⟩ := List.prefix_of_prefix_length_le (List.prefix_append bytes _) hs hge
      obtain ⟨bss₁, bss₂, fs₁, fs₂, part, rfl, rfl, rfl, h₁, h₂, hpart⟩ :=
        ih ((List.prefix_append_right_inj bytes).mp hs)
      exact ⟨bytes :: bss₁, bss₂, frame :: fs₁, fs₂, part, rfl, rfl, by simp, .cons hw h₁, h₂,
        hpart⟩

theorem feed_waiting {bss : List (List α)} {fs : List F} (h : List.Forall₂ d.Writes bss fs)
    {s : List α} {chunks : List (List α)} (hs : d.Waits limit s)
    (hstream : s ++ chunks.flatten = bss.flatten) : d.feed limit s chunks = some (fs, []) := by
  induction chunks generalizing s bss fs with
  | nil =>
    cases h with
    | nil =>
      simp only [List.flatten_nil, List.append_nil] at hstream
      rw [hstream]
      rfl
    | cons hw hws =>
      rw [List.flatten_nil, List.append_nil, List.flatten_cons] at hstream
      have hdecode : d.decode limit s = some (.needMore, s) := hs
      rw [hstream, hw.decode] at hdecode
      cases hdecode
  | cons chunk chunks ih =>
    rw [List.flatten_cons, ← List.append_assoc] at hstream
    obtain ⟨bss₁, bss₂, fs₁, fs₂, part, rfl, rfl, hsplit, h₁, h₂, hpart⟩ :=
      prefix_written limit h (hstream ▸ List.prefix_append (s ++ chunk) chunks.flatten)
    have hdrain := drain_written h₁ hpart (Nat.lt_succ_self _)
    have hrest : part ++ chunks.flatten = bss₂.flatten := by
      rw [hsplit, List.append_assoc, List.flatten_append] at hstream
      exact List.append_cancel_left hstream
    rw [feed, hsplit, hdrain]
    simp only [Option.bind_eq_bind, Option.bind_some, ih h₂ hpart hrest]

/-- A stream of frames gives these frames, however it was cut, and nothing is left. -/
theorem feed_written (limit : Nat) {bss : List (List α)} {fs : List F}
    (h : List.Forall₂ d.Writes bss fs) {chunks : List (List α)}
    (hstream : chunks.flatten = bss.flatten) : d.feed limit [] chunks = some (fs, []) :=
  feed_waiting h (waits_short (Nat.lt_of_lt_of_le (by decide : 0 < 2) d.two_le)) hstream

theorem candidate_ok {resync : Nat} {s rest : List α}
    (hmark : d.marked s = true) (h : d.candidate limit resync s = .done (.ok frame) rest) :
    ∃ bytes, d.Writes bytes frame := by
  unfold candidate at h
  split at h
  · unfold skip at h
    split at h <;> cases h
  rename_i haccept
  have haccept : d.accepts (d.header s) = true := by simpa using haccept
  split at h
  · cases h
  rename_i htotal
  split at h
  · cases h
  rename_i hparse
  cases h
  have hsize := d.headerSize_le _ haccept
  have hheader : d.header (s.take (d.totalLen (d.header s))) = d.header s := by
    show (s.take _).take d.headerSize = s.take d.headerSize
    rw [List.take_take, Nat.min_eq_left hsize]
  refine ⟨_, ?_, hheader.symm ▸ haccept, ?_, hparse⟩
  · unfold marked
    rw [List.take_take, Nat.min_eq_left (Nat.le_trans d.two_le hsize)]
    exact hmark
  · rw [hheader, List.length_take]
    omega

/-- A frame that is decoded is one that some bytes are. -/
theorem decode_ok {s rest : List α} (h : d.decode limit s = some (.ok frame, rest)) :
    ∃ bytes, d.Writes bytes frame := by
  unfold Framing.decode at h
  generalize limit + 1 = fuel at h
  generalize 0 = resync at h
  induction fuel generalizing s resync with
  | zero => cases h
  | succ fuel ih =>
    unfold loop at h
    split at h
    · rename_i status rest' hround
      cases h
      unfold round at hround
      split at hround
      · cases hround
      split at hround
      · cases hround
      rename_i offset hmagic
      obtain ⟨-, hmark, -⟩ := findMagic_some (t := []) hmagic
      split at hround
      · rename_i hzero
        subst hzero
        exact candidate_ok hmark hround
      split at hround
      · cases hround
      split at hround
      · cases hround
      · exact candidate_ok hmark hround
    · exact ih _ h

end Written

end Framing
