import Mathlib

/-!
# Streams of frames

A framing tells the length of the frame at the front of a stream as soon as the
front of the stream holds its header.  Every stream is cut into whole frames
and an incomplete rest, and the cut does not depend on how the stream arrives:
what arrives later is appended to the rest.
-/

namespace OpenBsw

open List

universe u

variable {α : Type u}

/-- The length of the first frame is known from a header; more bytes behind it
do not change the answer. -/
structure Framing (α : Type u) where
  total : List α → Option Nat
  positive : ∀ {stream length}, total stream = some length → 0 < length
  stable : ∀ {stream length} (more : List α), total stream = some length →
    total (stream ++ more) = some length
  /-- A complete frame holds its header. -/
  complete : ∀ {stream length}, total stream = some length → length ≤ stream.length →
    total (stream.take length) = some length

namespace Framing

variable (framing : Framing α) {stream frame : List α}

/-- A list that is one whole frame. -/
def IsFrame (frame : List α) : Prop :=
  framing.total frame = some frame.length

/-- The front of a stream is no whole frame. -/
def Incomplete (stream : List α) : Prop :=
  ∀ length, framing.total stream = some length → stream.length < length

/-- A list that consists of whole frames. -/
def Whole (stream : List α) : Prop :=
  ∃ frames, stream = List.flatten frames ∧ ∀ frame ∈ frames, framing.IsFrame frame

variable {framing}

theorem IsFrame.pos (isFrame : framing.IsFrame frame) : 0 < frame.length :=
  framing.positive isFrame

theorem incomplete_nil : framing.Incomplete [] := fun _ total => framing.positive total

theorem whole_nil : framing.Whole [] := ⟨[], rfl, by simp⟩

theorem Whole.append {front back : List α} (first : framing.Whole front)
    (second : framing.Whole back) : framing.Whole (front ++ back) := by
  obtain ⟨frames, rfl, areFrames⟩ := first
  obtain ⟨others, rfl, othersAre⟩ := second
  refine ⟨frames ++ others, by rw [flatten_append], ?_⟩
  intro frame member
  rcases mem_append.mp member with early | late
  · exact areFrames frame early
  · exact othersAre frame late

theorem IsFrame.whole (isFrame : framing.IsFrame frame) : framing.Whole frame :=
  ⟨[frame], by simp, by simpa using isFrame⟩

/-- The length of a frame in front of other bytes. -/
theorem IsFrame.total_append (isFrame : framing.IsFrame frame) (more : List α) :
    framing.total (frame ++ more) = some frame.length :=
  framing.stable more isFrame

/-- Bytes behind a stream that starts with a known length. -/
theorem isFrame_take {length : Nat} (total : framing.total stream = some length)
    (inside : length ≤ stream.length) : framing.IsFrame (stream.take length) := by
  rw [IsFrame, length_take, Nat.min_eq_left inside]
  exact framing.complete total inside

/-- A frame that a concatenation of frames starts with is the first of them. -/
theorem IsFrame.first (isFrame : framing.IsFrame frame) {frames : List (List α)} {more : List α}
    (areFrames : ∀ frame ∈ frames, framing.IsFrame frame)
    (same : List.flatten frames = frame ++ more) :
    ∃ further, frames = frame :: further ∧ List.flatten further = more := by
  cases frames with
  | nil =>
    have lengths := congrArg List.length same
    rw [flatten_nil, length_nil, List.length_append] at lengths
    have positive := isFrame.pos
    omega
  | cons head further =>
    have headFrame := areFrames head mem_cons_self
    rw [flatten_cons] at same
    have total := isFrame.total_append more
    rw [← same, headFrame.total_append] at total
    obtain ⟨rfl, moreEq⟩ := append_inj same (Option.some.inj total)
    exact ⟨further, rfl, moreEq⟩

/-- Whole frames at the front of a stream of frames are the first of them. -/
theorem Whole.front {frames : List (List α)} {handed rest : List α}
    (areFrames : ∀ frame ∈ frames, framing.IsFrame frame) (whole : framing.Whole handed)
    (split : List.flatten frames = handed ++ rest) :
    ∃ done todo, frames = done ++ todo ∧ List.flatten done = handed ∧ List.flatten todo = rest := by
  obtain ⟨passed, rfl, passedFrames⟩ := whole
  induction passed generalizing frames with
  | nil => exact ⟨[], frames, rfl, rfl, split⟩
  | cons first passed ih =>
    rw [flatten_cons, append_assoc] at split
    obtain ⟨further, rfl, restSplit⟩ :=
      (passedFrames first mem_cons_self).first areFrames split
    obtain ⟨done, todo, rfl, doneEq, todoEq⟩ := ih
      (fun frame member => areFrames frame (mem_cons_of_mem _ member))
      (fun frame member => passedFrames frame (mem_cons_of_mem _ member)) restSplit
    exact ⟨first :: done, todo, rfl, by rw [flatten_cons, flatten_cons, doneEq],
      todoEq⟩

/-- In a stream of frames, a front that is incomplete is shorter than the first
frame. -/
theorem Incomplete.lt {frames : List (List α)} {front back : List α}
    (incomplete : framing.Incomplete front) (isFrame : framing.IsFrame frame)
    (split : List.flatten (frame :: frames) = front ++ back) : front.length < frame.length := by
  by_contra long
  rw [flatten_cons] at split
  have taken := congrArg (List.take frame.length) split
  rw [take_left, take_append_of_le_length (by omega)] at taken
  have frontEq : front = frame ++ front.drop frame.length := by
    conv_lhs => rw [← take_append_drop frame.length front, ← taken]
  have short := incomplete frame.length (frontEq ▸ isFrame.total_append _)
  omega

end Framing

end OpenBsw
