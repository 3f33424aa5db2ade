import Mathlib
import WhistledSpeech.Proofs.Decimal.Positive
import WhistledSpeech.Proofs.Signal.Writing

/-!
# Writing a track

Where the time of every segment and the sample rate are above zero, the number of samples of each
segment is a natural number or beyond all bounds (`sampleCount_of_isUnsigned`), and in the latter case
nothing is written. Else a buffer at hand is too short for the samples and left as it is, or the write
is the one of `Proofs.Signal.Writing`; a new buffer is one of zeros (`write_some`, `write_none`).

A list of segments can be written in two parts, the second from the offset on that the first one gives
(`write_append_iff`). `write_exact` has all of this together.
-/

namespace WhistledSpeech

open Arithmetic

namespace Track

/-! ## The buffer of a write -/

section Destination

variable {α : Type} [Arithmetic α] {scope? : Option (Scope α)} {rate : α}
  {segments front back : List (Segment α)} {counts : List Nat}

/-- **A buffer at hand** is written if it is long enough. -/
theorem write_some (counted : Counts rate segments counts) (buffer : Array α) (offset : Nat) :
    write scope? segments rate (some buffer) offset =
      if buffer.size < offset + 2 * counts.sum then
        ⟨buffer, .error (.shortBuffer (offset + 2 * counts.sum : Nat) buffer.size)⟩
      else writeAll scope? rate buffer offset segments := by
  unfold write destination
  rw [counted.totalCount]
  dsimp only
  rw [natCast_end]
  by_cases short : buffer.size < offset + 2 * counts.sum
  · rw [if_pos short, if_pos (Nat.cast_lt.mpr short)]
    rfl
  · rw [if_neg short, if_neg (mt Nat.cast_lt.mp short)]

/-- **Without a buffer** zeros are written over, as many as are needed if there can be so many. -/
theorem write_none (counted : Counts rate segments counts) (offset : Nat) :
    write scope? segments rate none offset =
      match lengthFault? (offset + 2 * counts.sum : Nat) with
      | some fault => ⟨#[], .error fault⟩
      | none => write scope? segments rate
          (some (Array.replicate (offset + 2 * counts.sum) (nat 0))) offset := by
  rw [write_some counted, Array.size_replicate, if_neg (Nat.lt_irrefl _)]
  unfold write destination zeroBuffer
  rw [counted.totalCount]
  dsimp only
  rw [natCast_end, Int.toNat_natCast]
  cases lengthFault? (offset + 2 * counts.sum : Nat) with
  | none => rfl
  | some fault => rfl

/-- A write that goes through had room, and keeps to its cells. -/
theorem write_some_eq_ok_iff (counted : Counts rate segments counts) {buffer filled : Array α}
    {offset : Nat} {last : Int} :
    write scope? segments rate (some buffer) offset = ⟨filled, .ok last⟩
      ↔ offset + 2 * counts.sum ≤ buffer.size
        ∧ writeAll scope? rate buffer offset segments = ⟨filled, .ok last⟩ := by
  rw [write_some counted]
  by_cases short : buffer.size < offset + 2 * counts.sum
  · rw [if_pos short]
    exact ⟨nofun, fun h => absurd short (Nat.not_lt.mpr h.1)⟩
  · rw [if_neg short]
    exact ⟨fun h => ⟨Nat.not_lt.mp short, h⟩, And.right⟩

/-- **A list of segments can be written in two parts**, given their numbers of samples. -/
theorem write_append_iff {counts' : List Nat} (counted : Counts rate front counts)
    (counted' : Counts rate back counts') {buffer filled : Array α} {offset : Nat} {last : Int} :
    write scope? (front ++ back) rate (some buffer) offset = ⟨filled, .ok last⟩
      ↔ ∃ middle next, write scope? front rate (some buffer) offset = ⟨middle, .ok next⟩
        ∧ write scope? back rate (some middle) next = ⟨filled, .ok last⟩ := by
  have whole : Counts rate (front ++ back) (counts ++ counts') :=
    List.rel_append counted counted'
  have keeps : offset + 2 * counts.sum ≤ buffer.size → KeepsTo buffer offset counts.sum
      (writeAll scope? rate buffer offset front) :=
    fun room => (writeAll_spec counted buffer room).keeps
  rw [write_some_eq_ok_iff whole, List.sum_append, writeAll_append]
  constructor
  · rintro ⟨room, written⟩
    have keeps := keeps (by omega)
    cases result : writeAll scope? rate buffer offset front with
    | mk middle outcome =>
    rw [result] at written keeps
    cases outcome with
    | error fault => exact absurd written (by simp)
    | ok next =>
      obtain rfl := keeps.ends next rfl
      have size : middle.size = buffer.size := keeps.size
      refine ⟨middle, _, (write_some_eq_ok_iff counted).mpr ⟨by omega, result⟩, ?_⟩
      exact (write_some_eq_ok_iff counted').mpr ⟨by omega, written⟩
  · rintro ⟨middle, next, first, second⟩
    obtain ⟨room, result⟩ := (write_some_eq_ok_iff counted).mp first
    have keeps := keeps room
    rw [result] at keeps
    obtain rfl := keeps.ends next rfl
    have size : middle.size = buffer.size := keeps.size
    obtain ⟨room', result'⟩ := (write_some_eq_ok_iff counted').mp second
    refine ⟨by omega, ?_⟩
    rw [result]
    exact result'

/-- **A buffer is found too short exactly if it is.** -/
theorem shortBuffer_iff (counted : Counts rate segments counts) (buffer : Array α) (offset : Nat) :
    (∃ need size, (write scope? segments rate (some buffer) offset).outcome
        = .error (.shortBuffer need size)) ↔ buffer.size < offset + 2 * counts.sum := by
  rw [write_some counted]
  by_cases short : buffer.size < offset + 2 * counts.sum
  · rw [if_pos short]
    exact ⟨fun _ => short, fun _ => ⟨_, _, rfl⟩⟩
  · rw [if_neg short]
    refine ⟨?_, fun h => absurd h short⟩
    rintro ⟨need, size, found⟩
    have writes : Writes buffer offset counts.sum _ _ (writeAll scope? rate buffer offset segments) :=
      writeAll_spec counted buffer (Nat.not_lt.mp short)
    exact absurd found (writes.keeps.free need size)

/-- **The layout of a track**: what has been written into a buffer from an offset on, given the number of
samples of each segment. -/
structure LaidOut (scope? : Option (Scope α)) (segments : List (Segment α)) (counts : List Nat)
    (offset : Nat) (buffer filled : Array α) : Prop where
  /-- The buffer keeps its size. -/
  size : filled.size = buffer.size
  /-- The levels of each segment stand behind the cells of the segments before it. -/
  shows : ∀ (i : Nat) segment count, segments[i]? = some segment → counts[i]? = some count →
    Shows scope? filled (offset + 2 * (counts.take i).sum) segment count
  /-- A cell that belongs to no sample stays. -/
  others : ∀ c, (∀ (i : Nat) count, counts[i]? = some count → ∀ k < count,
      c ≠ offset + 2 * (counts.take i).sum + 2 * k
      ∧ c ≠ offset + 2 * (counts.take i).sum + 2 * k + 1) →
    filled[c]? = buffer[c]?

/-- **Where every sample has its levels**, a write into a buffer that is long enough lays them out. -/
theorem write_laidOut (counted : Counts rate segments counts) {buffer : Array α} {offset : Nat}
    (room : offset + 2 * counts.sum ≤ buffer.size)
    (has : ∀ (i : Nat) segment count, segments[i]? = some segment → counts[i]? = some count →
      HasLevels scope? segment count) :
    ∃ filled, write scope? segments rate (some buffer) offset
        = ⟨filled, .ok (offset + 2 * counts.sum : Nat)⟩
      ∧ LaidOut scope? segments counts offset buffer filled := by
  have writes : Writes buffer offset counts.sum (ShowsAll scope? · offset segments counts) _
      (writeAll scope? rate buffer offset segments) := writeAll_spec counted buffer room
  cases result : writeAll scope? rate buffer offset segments with
  | mk filled outcome =>
  rw [result] at writes
  cases outcome with
  | error fault => exact absurd (counted.forall₂ has) (writes.missing fault rfl)
  | ok next =>
    obtain rfl := writes.keeps.ends next rfl
    refine ⟨filled, (write_some_eq_ok_iff counted).mpr ⟨room, result⟩, writes.keeps.size, ?_, ?_⟩
    · exact fun i segment count hs hc => (writes.shows _ rfl).get hs hc
    · intro c apart
      refine writes.keeps.frame c (Decidable.byContradiction fun inside => ?_)
      -- a cell in between belongs to the sample halfway
      obtain ⟨i, count, hc, k, hk, place⟩ :=
        exists_sample (by omega : (c - offset) / 2 < counts.sum)
      have := apart i count hc k hk
      omega

end Destination

/-! ## Positive times and rates -/

section Positive

variable {scope? : Option (Scope Float)} {rate : Float} {segments : List (Segment Float)}

/-- **The number of samples** of a time without a minus sign is not negative, or beyond all bounds. -/
theorem sampleCount_of_isUnsigned {run : Float} (unsigned : IsUnsigned (run * rate)) :
    (∃ count : Nat, sampleCount run rate = .ok (count : Int))
      ∨ sampleCount run rate = .error .overflow := by
  unfold sampleCount
  obtain ⟨count, floored⟩ | unbounded := floor_of_isUnsigned (isUnsigned_div_thousand unsigned)
  · rw [floored]
    exact .inl ⟨count, rfl⟩
  · rw [unbounded]
    exact .inr rfl

/-- The segments have numbers of samples, or one of them has too many to count. -/
theorem counts_or_overflow_of_isUnsigned
    (unsigned : ∀ segment ∈ segments, IsUnsigned (segment.run * rate)) :
    (∃ counts, Counts rate segments counts)
      ∨ (∃ segment ∈ segments, sampleCount segment.run rate = .error .overflow)
        ∧ totalCount rate segments = .error .overflow := by
  induction segments with
  | nil => exact .inl ⟨[], .nil⟩
  | cons segment rest ih =>
    rw [totalCount]
    obtain ⟨count, counted⟩ | unbounded :=
      sampleCount_of_isUnsigned (unsigned segment List.mem_cons_self)
    · obtain ⟨counts, rest'⟩ | ⟨⟨segment', mem, unbounded⟩, total⟩ :=
        ih fun segment mem => unsigned segment (List.mem_cons_of_mem _ mem)
      · exact .inl ⟨count :: counts, .cons counted rest'⟩
      · rw [counted, total]
        exact .inr ⟨⟨segment', List.mem_cons_of_mem _ mem, unbounded⟩, rfl⟩
    · rw [unbounded]
      exact .inr ⟨⟨segment, List.mem_cons_self, unbounded⟩, rfl⟩

/-- Times and a rate above zero leave no minus sign. -/
theorem counts_or_overflow (runs : ∀ segment ∈ segments, lt (nat 0) segment.run = true)
    (positive : lt (nat 0) rate = true) :
    (∃ counts, Counts rate segments counts)
      ∨ (∃ segment ∈ segments, sampleCount segment.run rate = .error .overflow)
        ∧ totalCount rate segments = .error .overflow :=
  counts_or_overflow_of_isUnsigned fun segment mem => isUnsigned_mul (runs segment mem) positive

theorem write_of_overflow (unbounded : totalCount rate segments = .error .overflow)
    (atHand : Option (Array Float)) (offset : Int) :
    write scope? segments rate atHand offset = ⟨atHand.getD #[], .error .overflow⟩ := by
  unfold write
  rw [unbounded]

theorem write_ne_ok_of_overflow (runs : ∀ segment ∈ segments, lt (nat 0) segment.run = true)
    (positive : lt (nat 0) rate = true)
    (unbounded : ∃ segment ∈ segments, sampleCount segment.run rate = .error .overflow)
    (atHand : Option (Array Float)) (offset : Int) (filled : Array Float) (last : Int) :
    write scope? segments rate atHand offset ≠ ⟨filled, .ok last⟩ := by
  obtain ⟨counts, counted⟩ | ⟨_, total⟩ := counts_or_overflow runs positive
  · obtain ⟨segment, mem, overflows⟩ := unbounded
    obtain ⟨count, counted⟩ := counted.exists_of_mem mem
    exact absurd (overflows.symm.trans counted) (by simp)
  · rw [write_of_overflow total]
    simp

/-- A list of segments can be written in two parts, whatever their numbers of samples. -/
theorem write_append_iff_of_positive {front back : List (Segment Float)}
    (runs : ∀ segment ∈ front ++ back, lt (nat 0) segment.run = true)
    (positive : lt (nat 0) rate = true) {buffer filled : Array Float} {offset : Nat} {last : Int} :
    write scope? (front ++ back) rate (some buffer) offset = ⟨filled, .ok last⟩
      ↔ ∃ middle next, write scope? front rate (some buffer) offset = ⟨middle, .ok next⟩
        ∧ write scope? back rate (some middle) next = ⟨filled, .ok last⟩ := by
  have runs_front : ∀ segment ∈ front, lt (nat 0) segment.run = true :=
    fun segment mem => runs segment (List.mem_append_left back mem)
  have runs_back : ∀ segment ∈ back, lt (nat 0) segment.run = true :=
    fun segment mem => runs segment (List.mem_append_right front mem)
  obtain ⟨counts, counted⟩ | ⟨⟨segment, mem, unbounded⟩, _⟩ :=
    counts_or_overflow runs_front positive
  · obtain ⟨counts', counted'⟩ | ⟨⟨segment, mem, unbounded⟩, _⟩ :=
      counts_or_overflow runs_back positive
    · exact write_append_iff counted counted'
    · have whole : ∃ segment ∈ front ++ back, sampleCount segment.run rate = .error .overflow :=
        ⟨segment, List.mem_append_right front mem, unbounded⟩
      constructor
      · exact fun written => absurd written (write_ne_ok_of_overflow runs positive whole _ _ _ _)
      · rintro ⟨middle, next, _, written⟩
        exact absurd written
          (write_ne_ok_of_overflow runs_back positive ⟨segment, mem, unbounded⟩ _ _ _ _)
  · have whole : ∃ segment ∈ front ++ back, sampleCount segment.run rate = .error .overflow :=
      ⟨segment, List.mem_append_left back mem, unbounded⟩
    constructor
    · exact fun written => absurd written (write_ne_ok_of_overflow runs positive whole _ _ _ _)
    · rintro ⟨middle, next, written, _⟩
      exact absurd written
        (write_ne_ok_of_overflow runs_front positive ⟨segment, mem, unbounded⟩ _ _ _ _)

/-- **Writing a track is exact.** With times and a rate above zero, some segment may have too many
samples to be counted, and that is the fault. Otherwise each has a number of samples. A buffer at hand
is found too short exactly if it has not two cells for each sample from the offset on, and is then left
as it is; if it is long enough and every sample has its levels, they are laid out in it. Without a
buffer the write is that into one of zeros with no cell to spare. In any case a write goes through
exactly if it does in two parts, and leaves the same. -/
theorem write_exact (scope? : Option (Scope Float)) (offset : Nat)
    (runs : ∀ segment ∈ segments, lt (nat 0) segment.run = true)
    (positive : lt (nat 0) rate = true) :
    ((∃ segment ∈ segments, sampleCount segment.run rate = .error .overflow)
        ∧ (∀ atHand, write scope? segments rate atHand offset
            = ⟨atHand.getD #[], .error .overflow⟩)
      ∨ ∃ counts, Counts rate segments counts
        ∧ (∀ buffer,
          ((∃ need size, (write scope? segments rate (some buffer) offset).outcome
              = .error (.shortBuffer need size)) ↔ buffer.size < offset + 2 * counts.sum)
          ∧ (buffer.size < offset + 2 * counts.sum →
            write scope? segments rate (some buffer) offset
              = ⟨buffer, .error (.shortBuffer (offset + 2 * counts.sum : Nat) buffer.size)⟩)
          ∧ (offset + 2 * counts.sum ≤ buffer.size →
            (∀ (i : Nat) segment count, segments[i]? = some segment → counts[i]? = some count →
              HasLevels scope? segment count) →
            ∃ filled, write scope? segments rate (some buffer) offset
                = ⟨filled, .ok (offset + 2 * counts.sum : Nat)⟩
              ∧ LaidOut scope? segments counts offset buffer filled))
        ∧ write scope? segments rate none offset =
          match lengthFault? (offset + 2 * counts.sum : Nat) with
          | some fault => ⟨#[], .error fault⟩
          | none => write scope? segments rate
              (some (Array.replicate (offset + 2 * counts.sum) (nat 0))) offset)
    ∧ ∀ front back, segments = front ++ back → ∀ buffer filled last,
        write scope? segments rate (some buffer) offset = ⟨filled, .ok last⟩
          ↔ ∃ middle next, write scope? front rate (some buffer) offset = ⟨middle, .ok next⟩
            ∧ write scope? back rate (some middle) next = ⟨filled, .ok last⟩ := by
  constructor
  · obtain ⟨counts, counted⟩ | ⟨unbounded, total⟩ := counts_or_overflow runs positive
    · refine .inr ⟨counts, counted, fun buffer => ⟨?_, fun short => ?_, ?_⟩, ?_⟩
      · exact shortBuffer_iff counted buffer offset
      · rw [write_some counted, if_pos short]
      · exact write_laidOut counted
      · exact write_none counted offset
    · exact .inl ⟨unbounded, fun atHand => write_of_overflow total atHand offset⟩
  · rintro front back rfl buffer filled last
    exact write_append_iff_of_positive runs positive

/-- A tone of two samples behind the first cell of a buffer. -/
theorem write_exact_tone :
    ∃ filled, write none [⟨.constant 5, .constant 7, 2⟩] (1000 : Float)
        (some #[9, 9, 9, 9, 9, 9]) 1 = ⟨filled, .ok 5⟩
      ∧ filled[0]? = some 9 ∧ filled[5]? = some 9
      ∧ ∀ k < 2, filled[1 + 2 * k]? = some (toCell (nat 0 + 5))
        ∧ filled[1 + 2 * k + 1]? = some (toCell (nat 0 + 7)) := by
  have two : sampleCount (2 : Float) 1000 = .ok 2 := rfl
  have run : ∀ segment ∈ [(⟨.constant 5, .constant 7, 2⟩ : Segment Float)],
      lt (nat 0) segment.run = true := by
    intro segment mem
    cases List.mem_singleton.mp mem
    rfl
  have rate : lt (nat 0) (1000 : Float) = true := rfl
  obtain ⟨⟨⟨segment, mem, unbounded⟩, _⟩ | ⟨counts, counted, buffers, _⟩, _⟩ :=
    write_exact none 1 run rate
  · cases List.mem_singleton.mp mem
    exact absurd (two.symm.trans unbounded) (by simp)
  · cases counted with
    | @cons _ count _ counts' first rest =>
    cases rest
    obtain rfl : count = 2 := by
      have same := Except.ok.inj (first.symm.trans two)
      omega
    have levels : ∀ k < 2, (Component.constant (5 : Float)).levelAt none 2 k = .ok (toCell (nat 0 + 5))
        ∧ (Component.constant (7 : Float)).levelAt none 2 k = .ok (toCell (nat 0 + 7)) :=
      fun k _ => ⟨rfl, rfl⟩
    have has : ∀ (i : Nat) segment count,
        [(⟨.constant 5, .constant 7, 2⟩ : Segment Float)][i]? = some segment →
        [2][i]? = some count → HasLevels none segment count := by
      intro i segment count hs hc
      cases i with
      | zero =>
        cases hs
        cases hc
        exact fun k hk => ⟨⟨_, (levels k hk).1⟩, _, (levels k hk).2⟩
      | succ i => exact absurd hs (by simp)
    obtain ⟨filled, written, laid⟩ := (buffers #[9, 9, 9, 9, 9, 9]).2.2 (by decide) has
    have outside : ∀ c, c < 1 ∨ 5 ≤ c → filled[c]? = #[9, 9, 9, 9, 9, 9][c]? := by
      intro c hc
      refine laid.others c fun i count hcount k hk => ?_
      cases i with
      | zero =>
        cases hcount
        show c ≠ 1 + 2 * 0 + 2 * k ∧ c ≠ 1 + 2 * 0 + 2 * k + 1
        omega
      | succ i => exact absurd hcount (by simp)
    refine ⟨filled, written, outside 0 (.inl Nat.one_pos), outside 5 (.inr le_rfl), fun k hk => ?_⟩
    obtain ⟨⟨x, hx, cell⟩, y, hy, cell'⟩ := laid.shows 0 _ _ rfl rfl k hk
    cases (levels k hk).1.symm.trans hx
    cases (levels k hk).2.symm.trans hy
    exact ⟨cell, cell'⟩

end Positive

end Track

end WhistledSpeech
