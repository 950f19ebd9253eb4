import GameServer.Net.ClientProto

/-!
# Frames survive any cut of their stream

A link appends what it reads to its buffer and decodes until the decoder needs more,
going on after an error. The frames that it gets are the same however the bytes came,
and they are the ones that were sent.
-/

namespace Net

open Gateway (Bytes validRoleName)
open Framing (Writes)

section Gate

/-- Frames that are written one after another. -/
def encodeFrames (frames : List GateFrame) : Bytes :=
  frames.foldl (fun out frame => encodeFrame out frame.head frame.body) []

/-- What a link between services gets from the chunks it reads, and what its buffer has then. -/
def receiveFrames (service : UInt8) (buf : Bytes) (chunks : List Bytes) :
    Option (List GateFrame × Bytes) :=
  (gateFraming service).feed kMaxResyncPerCall buf chunks

/-- A frame with the length that its header gets on the way. -/
def GateFrame.sent (frame : GateFrame) : GateFrame := ⟨frame.head.withLength frame.body, frame.body⟩

theorem encodeFrame_append (out : Bytes) (head : Header) (body : Bytes) :
    encodeFrame out head body = out ++ encodeFrame [] head body := by
  simp only [encodeFrame, List.nil_append, List.append_assoc]

theorem encodeFrames_eq (frames : List GateFrame) :
    encodeFrames frames = (frames.map fun frame => encodeFrame [] frame.head frame.body).flatten := by
  have hfold : ∀ out : Bytes, frames.foldl (fun out frame => encodeFrame out frame.head frame.body)
      out = out ++ (frames.map fun frame => encodeFrame [] frame.head frame.body).flatten := by
    induction frames with
    | nil => simp
    | cons frame frames ih =>
      intro out
      rw [List.foldl_cons, ih, encodeFrame_append, List.map_cons, List.flatten_cons,
        List.append_assoc]
  exact hfold []

/-- A frame that a service takes. -/
def GateFrame.Fits (service : UInt8) (frame : GateFrame) : Prop :=
  kHeaderSize + frame.body.length ≤ kMaxMessageSize ∧
    (service = 0 ∨ frame.head.dstServiceID = service)

theorem receiveFrames_encoded {service : UInt8} {frames : List GateFrame}
    (h : ∀ frame ∈ frames, frame.Fits service) {chunks : List Bytes}
    (hstream : chunks.flatten = encodeFrames frames) :
    receiveFrames service [] chunks = some (frames.map GateFrame.sent, []) := by
  have hwritten : List.Forall₂ (gateFraming service).Writes
      (frames.map fun frame => encodeFrame [] frame.head frame.body)
      (frames.map GateFrame.sent) := by
    rw [List.forall₂_map_left_iff, List.forall₂_map_right_iff, List.forall₂_same]
    exact fun frame hframe => encodeFrame_writes (h frame hframe).1 (h frame hframe).2
  exact Framing.feed_written _ hwritten (hstream.trans (encodeFrames_eq frames))

end Gate

section Client

def encodeClientFrames (frames : List ClientFrame) : Except String Bytes :=
  frames.foldlM (fun out frame => encodeClientFrame out frame.head frame.body) []

/-- What a link between a client and the gateway gets from the chunks it reads. -/
def receiveClientFrames (buf : Bytes) (chunks : List Bytes) : Option (List ClientFrame × Bytes) :=
  clientFraming.feed kMaxResyncPerCall buf chunks

def ClientFrame.sent (frame : ClientFrame) : ClientFrame :=
  ⟨frame.head.withLength frame.body, frame.body⟩

def ClientFrame.Fits (frame : ClientFrame) : Prop :=
  kClientHeaderSize + frame.body.length ≤ kMaxClientFrameSize ∧
    validRoleName frame.head.roleName = true

/-- Frames with valid names are written one after another. -/
theorem encodeClientFrames_eq {frames : List ClientFrame} (h : ∀ frame ∈ frames, frame.Fits) :
    ∃ bss, encodeClientFrames frames = .ok bss.flatten ∧
      List.Forall₂ clientFraming.Writes bss (frames.map ClientFrame.sent) := by
  have hfold : ∀ out : Bytes, ∃ bss : List Bytes,
      frames.foldlM (fun out frame => encodeClientFrame out frame.head frame.body) out =
        (.ok (out ++ bss.flatten) : Except String Bytes) ∧
      List.Forall₂ clientFraming.Writes bss (frames.map ClientFrame.sent) := by
    induction frames with
    | nil => exact fun out => ⟨[], by simp [pure, Except.pure], .nil⟩
    | cons frame frames ih =>
      intro out
      obtain ⟨hlen, hname⟩ := h frame List.mem_cons_self
      have hbytes := @encodeClientFrame_ok frame.head frame.body hname []
      have hout := @encodeClientFrame_ok frame.head frame.body hname out
      obtain ⟨bss, hrest, hwritten⟩ := ih (fun x hx => h x (List.mem_cons_of_mem _ hx)) _
      refine ⟨_ :: bss, ?_, .cons (encodeClientFrame_writes hlen hbytes) hwritten⟩
      rw [List.foldlM_cons, hout]
      refine hrest.trans ?_
      simp only [List.flatten_cons, List.nil_append, List.append_assoc]
  obtain ⟨bss, hencoded, hwritten⟩ := hfold []
  exact ⟨bss, hencoded, hwritten⟩

theorem receiveClientFrames_encoded {frames : List ClientFrame}
    (h : ∀ frame ∈ frames, frame.Fits) :
    ∃ stream, encodeClientFrames frames = .ok stream ∧ ∀ chunks, chunks.flatten = stream →
      receiveClientFrames [] chunks = some (frames.map ClientFrame.sent, []) := by
  obtain ⟨bss, hencoded, hwritten⟩ := encodeClientFrames_eq h
  exact ⟨_, hencoded, fun chunks hstream => Framing.feed_written _ hwritten hstream⟩

end Client

/-- However a stream is cut: the frames that were sent arrive and leave nothing behind, any bytes
give the same frames, and every call of a decoder ends. -/
theorem frames_of_any_chunks :
    (∀ (service : UInt8) (frames : List GateFrame), (∀ frame ∈ frames, frame.Fits service) →
      ∀ chunks, chunks.flatten = encodeFrames frames →
        receiveFrames service [] chunks = some (frames.map GateFrame.sent, [])) ∧
    (∀ frames : List ClientFrame, (∀ frame ∈ frames, frame.Fits) →
      ∃ stream, encodeClientFrames frames = .ok stream ∧ ∀ chunks, chunks.flatten = stream →
        receiveClientFrames [] chunks = some (frames.map ClientFrame.sent, [])) ∧
    (∀ (service : UInt8) (stream : Bytes), ∃ frames, ∀ chunks, chunks.flatten = stream →
      ∃ rest, receiveFrames service [] chunks = some (frames, rest)) ∧
    (∀ stream : Bytes, ∃ frames, ∀ chunks, chunks.flatten = stream →
      ∃ rest, receiveClientFrames [] chunks = some (frames, rest)) ∧
    (∀ (service : UInt8) (buf : Bytes), (decodeFrame buf service).isSome = true) ∧
    ∀ buf : Bytes, (decodeClientFrame buf).isSome = true := by
  refine ⟨fun service frames h chunks => receiveFrames_encoded h,
    fun frames h => receiveClientFrames_encoded h, fun service stream => ?_, fun stream => ?_,
    fun service buf => ?_, fun buf => ?_⟩
  · refine ⟨(gateFraming service).frames stream, ?_⟩
    rintro chunks rfl
    exact Framing.feed_eq _ chunks
  · refine ⟨clientFraming.frames stream, ?_⟩
    rintro chunks rfl
    exact Framing.feed_eq _ chunks
  · obtain ⟨status, rest, hdecode, -⟩ := Framing.decode_answers (d := gateFraming service)
      kMaxResyncPerCall buf
    exact Option.isSome_of_eq_some hdecode
  · obtain ⟨status, rest, hdecode, -⟩ := Framing.decode_answers (d := clientFraming)
      kMaxResyncPerCall buf
    exact Option.isSome_of_eq_some hdecode

end Net
