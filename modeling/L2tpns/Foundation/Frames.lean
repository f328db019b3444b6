import Mathlib.Data.List.Basic

/-! # Frames in a stream

A frame starts with a header that tells its length. Frames that are put behind one another are
found again from the bytes alone: what has arrived of a stream starts with the first frame, as
soon as that is there as a whole (`Foundation.FrameFormat.arrived`).
-/

namespace Foundation

universe u

/-- A header of a fixed size and the length that it tells. -/
structure FrameFormat (Byte : Type u) where
  header : Nat
  positive : 0 < header
  length : List Byte → Nat
  header_tells : ∀ front rest, header ≤ front.length → length (front ++ rest) = length front

namespace FrameFormat

variable {Byte : Type u} (format : FrameFormat Byte)

structure IsFrame (frame : List Byte) : Prop where
  header : format.header ≤ frame.length
  length : format.length frame = frame.length

variable {format} {frames : List (List Byte)} {buffered unread : List Byte}

theorem first_frame (whole : ∀ frame ∈ frames, format.IsFrame frame)
    (stream : frames.flatten = buffered ++ unread) (header : format.header ≤ buffered.length) :
    ∃ frame rest, frames = frame :: rest ∧ format.length buffered = frame.length := by
  cases frames with
  | nil =>
      have empty := congrArg List.length stream
      have positive := format.positive
      simp at empty
      omega
  | cons frame rest =>
      have first := whole frame List.mem_cons_self
      refine ⟨frame, rest, rfl, ?_⟩
      rw [← format.header_tells buffered unread header, ← stream, List.flatten_cons,
        format.header_tells frame rest.flatten first.header, first.length]

/-- A frame that has arrived as a whole is what the stream starts with, and the other frames are
what follows it. -/
theorem arrived (whole : ∀ frame ∈ frames, format.IsFrame frame)
    (stream : frames.flatten = buffered ++ unread) (header : format.header ≤ buffered.length)
    (complete : format.length buffered ≤ buffered.length) :
    ∃ rest, frames = buffered.take (format.length buffered) :: rest ∧
      rest.flatten = buffered.drop (format.length buffered) ++ unread := by
  obtain ⟨frame, rest, rfl, length⟩ := first_frame whole stream header
  rw [List.flatten_cons] at stream
  have front := congrArg (List.take frame.length) stream
  have back := congrArg (List.drop frame.length) stream
  rw [length] at complete ⊢
  rw [List.take_left, List.take_append_of_le_length complete] at front
  rw [List.drop_left, List.drop_append_of_le_length complete] at back
  exact ⟨rest, by rw [← front], back⟩

end FrameFormat

end Foundation
