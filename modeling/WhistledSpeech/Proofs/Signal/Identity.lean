import Mathlib
import WhistledSpeech.Proofs.Decimal.One
import WhistledSpeech.Proofs.Exact
import WhistledSpeech.Proofs.Feed
import WhistledSpeech.Proofs.Steps
import WhistledSpeech.Signal.Rendering

/-!
# Voices that change nothing

A voice that is the identity is not kept, and what is said without it skips the voice altogether. Whether
it is the identity is read off its parameters: the factor on times is one, and each axis either has no map
or has one that neither scales nor shifts. The centre of a map is not looked at.

The test is exact (`Voice.isIdentity_exact`). A voice that passes leaves all segments as they are, and one
that does not changes a segment which merely holds two levels: with a scale other than one a map fixes one
level at most, and without a scale it moves all levels alike (`AxisMap.exists_apply_ne`).

That an identity leaves segments as they are takes one law of arithmetic, since the maps of its axes are
never computed and only times are multiplied: a number times one is that number. Exact numbers obey it, and
so do doubles. For these it is what is rendered that stays the same, from the raw segments to the last
sample.
-/

namespace WhistledSpeech

open Arithmetic Exact

/-! ## Leaving out the identity -/

section Identity

variable {α : Type} [Arithmetic α]

/-- **Times one.** What equals one changes nothing as a factor. -/
def TimesOne (α : Type) [Arithmetic α] : Prop :=
  ∀ x factor : α, eq factor (nat 1) = true → x * factor = x

theorem timesOne_float : TimesOne Float := fun _ _ one => mul_of_eq_one one

theorem timesOne_exact : TimesOne Exact := by
  intro x factor one
  rw [nat_eq] at one
  cases factor with
  | undefined => exact absurd one nofun
  | number y =>
    have y_eq : y = 1 := by rw [eq_number_iff.mp one, Nat.cast_one]
    cases x with
    | undefined => rfl
    | number x => rw [number_mul, y_eq, mul_one]

namespace Voice

variable {voice : Voice α} {m? : Option (AxisMap α)}

theorem isIdentity_iff : voice.isIdentity = true ↔
    eq voice.rate (nat 1) = true ∧ voice.f.all AxisMap.isIdentity = true
      ∧ voice.a.all AxisMap.isIdentity = true := by
  rw [isIdentity, Bool.and_eq_true, Bool.and_eq_true, and_assoc]

/-- An axis that changes nothing passes every component through. -/
theorem mapAxis_of_identity (identity : m?.all AxisMap.isIdentity = true) (component : Component α) :
    mapAxis m? component = .ok component := by
  unfold mapAxis
  cases m? with
  | none => rfl
  | some m => exact if_pos identity

/-- **The frequency is passed through** where its axis changes nothing, whatever becomes of the rest. -/
theorem mapSegment_of_identity_f (identity : voice.f.all AxisMap.isIdentity = true)
    (segment : Segment α) : voice.mapSegment segment
      = (mapAxis voice.a segment.a).map fun a => ⟨segment.f, a, segment.run * voice.rate⟩ := by
  unfold mapSegment
  rw [mapAxis_of_identity identity]
  cases mapAxis voice.a segment.a <;> rfl

/-- **The amplitude is passed through** where its axis changes nothing, whatever becomes of the rest. -/
theorem mapSegment_of_identity_a (identity : voice.a.all AxisMap.isIdentity = true)
    (segment : Segment α) : voice.mapSegment segment
      = (mapAxis voice.f segment.f).map fun f => ⟨f, segment.a, segment.run * voice.rate⟩ := by
  unfold mapSegment
  rw [mapAxis_of_identity identity]
  cases mapAxis voice.f segment.f <;> rfl

/-- **An identity leaves segments as they are**, wherever they break off. -/
theorem mapSegments_of_isIdentity (law : TimesOne α) (identity : voice.isIdentity = true)
    (segments : Feed (Segment α)) : voice.mapSegments segments = segments := by
  obtain ⟨rate, f, a⟩ := isIdentity_iff.mp identity
  refine Feed.mapExcept_eq_self fun segment _ => ?_
  rw [mapSegment_of_identity_f f, mapAxis_of_identity a, law _ _ rate]
  rfl

/-- **A voice that changes nothing** leaves every list of segments as it is. -/
def ChangesNothing (voice : Voice α) : Prop :=
  ∀ segments : List (Segment α), voice.mapSegments (.ofList segments) = .ofList segments

/-- Segments as a voice moves them, if there is one. -/
def movedBy (voice? : Option (Voice α)) (segments : Feed (Segment α)) : Feed (Segment α) :=
  match voice? with
  | none => segments
  | some voice => voice.mapSegments segments

/-- **Leaving out the identity changes nothing.** -/
theorem movedBy_unlessIdentity (law : TimesOne α) (voice : Voice α) (segments : Feed (Segment α)) :
    movedBy voice.unlessIdentity segments = voice.mapSegments segments := by
  unfold unlessIdentity
  split
  · next identity => exact (mapSegments_of_isIdentity law identity segments).symm
  · rfl

theorem unlessIdentity_eq_none_iff : voice.unlessIdentity = none ↔ voice.isIdentity = true := by
  unfold unlessIdentity
  split
  · next identity => exact iff_of_true rfl identity
  · next other => exact iff_of_false nofun other

/-- **The buffer of segments that a voice moves**, if there is one, and the offset after them. -/
def track (voice? : Option (Voice α)) (scope? : Option (Scope α)) (segments : Feed (Segment α))
    (rate : α) (atHand : Option (Array α)) (offset : Int) : Except Fault (Array α × Int) := do
  let moved ← (movedBy voice? segments).toExcept
  (Track.write scope? moved rate atHand offset).toExcept

end Voice

end Identity

namespace Rendering

variable (scope : Scope Float) (voice? : Option (Voice Float)) (source : Feed Document) (rate : Float)

theorem segments_eq_movedBy :
    segments scope voice? source
      = Voice.movedBy voice? (Segment.normalize scope Links.initial source) := by
  cases voice? <;> rfl

end Rendering

/-! ## What is not the identity -/

/-- **A map that is not the identity moves zero or one.** -/
theorem AxisMap.exists_apply_ne {m : AxisMap Exact} (other : m.isIdentity = false) :
    ∃ v : ℝ, m.apply (number v) ≠ number v := by
  by_contra! fixed
  refine Bool.eq_false_iff.mp other ?_
  have atZero := fixed 0
  have atOne := fixed 1
  unfold apply at atZero atOne
  by_cases unscaled : eq m.scale (nat 1) = true
  · rw [if_pos unscaled] at atZero
    obtain ⟨x, y, same, shift, sum⟩ := add_eq_number atZero
    cases same
    rw [isIdentity, unscaled, shift, nat_eq, Nat.cast_zero, Bool.true_and, eq_number_iff]
    linarith
  · rw [if_neg unscaled] at atZero atOne
    obtain ⟨_, _, scaled, moved, _⟩ := add_eq_number atZero
    obtain ⟨scale, _, hscale, distance, _⟩ := mul_eq_number scaled
    obtain ⟨_, center, _, hcenter, _⟩ := sub_eq_number distance
    obtain ⟨_, shift, _, hshift, _⟩ := add_eq_number moved
    rw [hscale, hcenter, hshift, number_sub, number_mul, number_add, number_add, number_inj]
      at atZero atOne
    refine absurd ?_ unscaled
    rw [hscale, nat_eq, Nat.cast_one, eq_number_iff]
    linarith

namespace Segment

/-- Two levels held for a millisecond. -/
def held (f a : ℝ) : Segment Exact := ⟨.constant (number f), .constant (number a), number 1⟩

end Segment

namespace Voice

/-- An axis that keeps every level that is held changes nothing. -/
theorem all_isIdentity_of_fixed {m? : Option (AxisMap Exact)}
    (fixed : ∀ v : ℝ, mapAxis m? (.constant (number v)) = .ok (.constant (number v))) :
    m?.all AxisMap.isIdentity = true := by
  cases m? with
  | none => rfl
  | some m =>
    by_contra other
    have notIdentity : m.isIdentity = false := Bool.eq_false_iff.mpr other
    obtain ⟨v, moved⟩ := AxisMap.exists_apply_ne notIdentity
    have image : mapAxis (some m) (.constant (number v)) = .ok (.constant (m.apply (number v))) :=
      if_neg other
    rw [fixed v] at image
    injection image with image
    injection image with image
    exact moved image.symm

/-- Without a scale and a shift an axis changes nothing, whatever its centre. -/
theorem all_isIdentity_of_unmoved {m? : Option (AxisMap Exact)}
    (unmoved : ∀ m ∈ m?, m.scale = number 1 ∧ m.shift = number 0) :
    m?.all AxisMap.isIdentity = true := by
  cases m? with
  | none => rfl
  | some m =>
    obtain ⟨scale, shift⟩ := unmoved m rfl
    show m.isIdentity = true
    rw [AxisMap.isIdentity, scale, shift, nat_eq, nat_eq, Bool.and_eq_true, eq_number_iff, eq_number_iff]
    exact ⟨Nat.cast_one.symm, Nat.cast_zero.symm⟩

/-- A voice that keeps whatever is held for a millisecond is the identity. -/
theorem isIdentity_of_fixed {voice : Voice Exact}
    (fixed : ∀ f a : ℝ, voice.mapSegments (.ofList [.held f a]) = .ofList [.held f a]) :
    voice.isIdentity = true := by
  have each : ∀ f a : ℝ, mapAxis voice.f (.constant (number f)) = .ok (.constant (number f))
      ∧ mapAxis voice.a (.constant (number a)) = .ok (.constant (number a))
      ∧ number 1 * voice.rate = number 1 := by
    intro f a
    have image := Feed.forall₂_of_mapExcept (f := voice.mapSegment) (congrArg Feed.fault (fixed f a))
    rw [show (Feed.ofList [Segment.held f a]).mapExcept voice.mapSegment = _ from fixed f a] at image
    cases image with
    | cons here _ =>
      obtain ⟨f', hf, here⟩ := bind_eq_ok_iff.mp here
      obtain ⟨a', ha, here⟩ := bind_eq_ok_iff.mp here
      injection here with here
      injection here with same same' run
      exact ⟨hf.trans (congrArg _ same), ha.trans (congrArg _ same'), run⟩
  have rate : eq voice.rate (nat 1) = true := by
    obtain ⟨x, y, one, hrate, product⟩ := mul_eq_number (each 0 0).2.2
    cases one
    rw [hrate, nat_eq, Nat.cast_one, eq_number_iff]
    linarith
  exact isIdentity_iff.mpr ⟨rate, all_isIdentity_of_fixed fun v => (each v 0).1,
    all_isIdentity_of_fixed fun v => (each 0 v).2.1⟩

/-- **The identity is what changes nothing.** -/
theorem isIdentity_iff_changesNothing {voice : Voice Exact} :
    voice.isIdentity = true ↔ voice.ChangesNothing :=
  ⟨fun identity segments => mapSegments_of_isIdentity timesOne_exact identity (.ofList segments),
    fun fixed => isIdentity_of_fixed fun f a => fixed [.held f a]⟩

/-- **The test for the identity is exact.** A voice passes it exactly if it leaves every list of segments as
it is, and one that does not pass changes two levels held for a millisecond. So a voice is left out exactly
if it changes nothing, and leaving it out never changes the buffer that is rendered; of doubles this is said
of the track and the sound of any raw segments. And an axis without a map, or with one of the scale one and
the shift zero, is passed through as it is, whatever the centre, the other axis and the factor on times. -/
theorem isIdentity_exact (voice : Voice Exact) :
    (voice.isIdentity = true ↔ voice.ChangesNothing)
      ∧ (voice.isIdentity = false →
          ∃ f a : ℝ, voice.mapSegments (.ofList [.held f a]) ≠ .ofList [.held f a])
      ∧ (voice.unlessIdentity = none ↔ voice.ChangesNothing)
      ∧ (∀ scope? segments rate atHand offset,
          track voice.unlessIdentity scope? segments rate atHand offset
            = track (some voice) scope? segments rate atHand offset)
      ∧ (∀ (spoken : Voice Float) scope source rate atHand offset,
          Rendering.track scope spoken.unlessIdentity source rate atHand offset
              = Rendering.track scope (some spoken) source rate atHand offset
            ∧ Rendering.tone scope spoken.unlessIdentity source rate
              = Rendering.tone scope (some spoken) source rate)
      ∧ ∀ m? : Option (AxisMap Exact), (∀ m ∈ m?, m.scale = number 1 ∧ m.shift = number 0) →
          ∀ other? rate segment,
            (⟨m?, other?, rate⟩ : Voice Exact).mapSegment segment
                = (mapAxis other? segment.a).map (fun a => ⟨segment.f, a, segment.run * rate⟩)
              ∧ (⟨other?, m?, rate⟩ : Voice Exact).mapSegment segment
                = (mapAxis other? segment.f).map (fun f => ⟨f, segment.a, segment.run * rate⟩) := by
  refine ⟨isIdentity_iff_changesNothing, fun other => ?_,
    unlessIdentity_eq_none_iff.trans isIdentity_iff_changesNothing,
    fun scope? segments rate atHand offset => ?_, fun spoken scope source rate atHand offset => ?_,
    fun m? unmoved other? rate segment => ?_⟩
  · by_contra! fixed
    exact Bool.eq_false_iff.mp other (isIdentity_of_fixed fixed)
  · unfold track
    rw [movedBy_unlessIdentity timesOne_exact]
    rfl
  · have same : Rendering.segments scope spoken.unlessIdentity source
        = Rendering.segments scope (some spoken) source := by
      rw [Rendering.segments_eq_movedBy, movedBy_unlessIdentity timesOne_float]
      rfl
    unfold Rendering.tone Rendering.track
    rw [same]
    exact ⟨rfl, rfl⟩
  · have identity := all_isIdentity_of_unmoved unmoved
    exact ⟨mapSegment_of_identity_f identity segment, mapSegment_of_identity_a identity segment⟩

end Voice

end WhistledSpeech
