import Mathlib
import WhistledSpeech.Proofs.Steps
import WhistledSpeech.Signal.Linking

/-!
# How raw segments are linked

Going through raw segments carries nothing from one to the next but the links. `Resolves` is a run of
that loop without a fault: each raw segment is resolved with the links before it, and the links behind
it are what its components end on. Where a run ends follows from its last segment alone
(`Resolves.afterAll`), and a list can be resolved in two parts, the second from the links behind the
first (`Resolves.resolveAll_append`).

The time of a segment is resolved with the links like any other field, but nothing reads it: it decides
whether the segment sounds, and what the segments around it become does not depend on it.
`normalize_exact` has both.
-/

namespace WhistledSpeech

open Arithmetic

/-- **The links behind some segments**: what the last of them ends on, whether it sounds or not. -/
def Links.afterAll (links : Links Float) (segments : List (Segment Float)) :
    Except Fault (Links Float) :=
  match segments.getLast? with
  | none => .ok links
  | some segment => Links.after segment.f segment.a

namespace Segment

variable {scope : Scope Float} {links last links' last' : Links Float} {raw : Document}
  {raws others front back : List Document} {segment : Segment Float}
  {segments segments' : List (Segment Float)}

/-! ## Runs -/

/-- **A run through raw segments** from some links to others, without a fault. -/
inductive Resolves (scope : Scope Float) :
    Links Float → List Document → List (Segment Float) → Links Float → Prop where
  /-- No raw segments leave the links. -/
  | nil (links : Links Float) : Resolves scope links [] [] links
  /-- A raw segment is resolved with the links before it, the others with those behind it. -/
  | cons {links middle last : Links Float} {raw : Document} {segment : Segment Float}
      {raws : List Document} {segments : List (Segment Float)}
      (made : resolve scope links raw = .ok segment)
      (ended : Links.after segment.f segment.a = .ok middle)
      (rest : Resolves scope middle raws segments last) :
      Resolves scope links (raw :: raws) (segment :: segments) last

theorem resolveAll_cons (made : resolve scope links raw = .ok segment)
    (ended : Links.after segment.f segment.a = .ok links') :
    resolveAll scope links (raw :: raws) = Feed.cons segment (resolveAll scope links' raws) := by
  rw [resolveAll, made]
  dsimp only
  rw [ended]

/-- **What a step can do**: break off, or make a segment and go on with the links behind it. -/
theorem resolveAll_cons_cases (scope : Scope Float) (links : Links Float) (raw : Document)
    (raws : List Document) :
    (∃ fault, resolveAll scope links (raw :: raws) = Feed.broken fault)
      ∨ ∃ segment links', resolve scope links raw = .ok segment
        ∧ Links.after segment.f segment.a = .ok links' := by
  rw [resolveAll]
  cases made : resolve scope links raw with
  | error fault => exact .inl ⟨fault, rfl⟩
  | ok segment =>
    dsimp only
    cases ended : Links.after segment.f segment.a with
    | error fault => exact .inl ⟨fault, rfl⟩
    | ok links' => exact .inr ⟨segment, links', rfl, ended⟩

/-- **A list can be resolved in two parts**, the second from the links behind the first. -/
theorem Resolves.resolveAll_append (run : Resolves scope links front segments last) :
    resolveAll scope links (front ++ back)
      = Feed.append (.ofList segments) (resolveAll scope last back) := by
  induction run with
  | nil links => rfl
  | cons made ended _ ih =>
    rw [List.cons_append, resolveAll_cons made ended, ih]
    rfl

/-- A run has a segment for each raw one. -/
theorem Resolves.length_eq (run : Resolves scope links raws segments last) :
    segments.length = raws.length := by
  induction run with
  | nil links => rfl
  | cons _ _ _ ih => exact congrArg Nat.succ ih

/-- They are all there is. -/
theorem Resolves.resolveAll_eq (run : Resolves scope links raws segments last) :
    resolveAll scope links raws = .ofList segments := by
  have parts : resolveAll scope links (raws ++ []) = _ := run.resolveAll_append
  rw [List.append_nil] at parts
  rw [parts, resolveAll, Feed.append_ofList, List.append_nil]

/-- The segment behind a run has been resolved with the links there. -/
theorem Resolves.resolve_of_getElem? (run : Resolves scope links front segments last)
    (made : (resolveAll scope links (front ++ raw :: back)).items[front.length]? = some segment) :
    resolve scope last raw = .ok segment := by
  rw [run.resolveAll_append] at made
  change (segments ++ (resolveAll scope last (raw :: back)).items)[front.length]? = _ at made
  rw [List.getElem?_append_right run.length_eq.le, run.length_eq, Nat.sub_self] at made
  obtain ⟨fault, broken⟩ | ⟨segment', links', made', ended⟩ :=
    resolveAll_cons_cases scope last raw back
  · rw [broken] at made
    exact absurd made nofun
  · rw [resolveAll_cons made' ended] at made
    cases made
    exact made'

/-- **Without a fault there is a run.** -/
theorem exists_resolves (whole : (resolveAll scope links raws).fault = none) :
    ∃ last, Resolves scope links raws (resolveAll scope links raws).items last := by
  induction raws generalizing links with
  | nil => exact ⟨links, .nil links⟩
  | cons raw raws ih =>
    obtain ⟨fault, broken⟩ | ⟨segment, middle, made, ended⟩ :=
      resolveAll_cons_cases scope links raw raws
    · rw [broken] at whole
      exact absurd whole nofun
    · rw [resolveAll_cons made ended] at whole ⊢
      obtain ⟨last, run⟩ := ih whole
      exact ⟨last, .cons made ended run⟩

/-- The segments made up to any point are a run through as many raw ones. -/
theorem resolves_take {i : Nat} (reached : i ≤ (resolveAll scope links raws).items.length) :
    ∃ last, Resolves scope links (raws.take i) ((resolveAll scope links raws).items.take i) last := by
  induction raws generalizing links i with
  | nil =>
    rw [Nat.le_zero.mp reached]
    exact ⟨links, .nil links⟩
  | cons raw raws ih =>
    cases i with
    | zero => exact ⟨links, .nil links⟩
    | succ i =>
      obtain ⟨fault, broken⟩ | ⟨segment, middle, made, ended⟩ :=
        resolveAll_cons_cases scope links raw raws
      · rw [broken] at reached
        exact absurd reached (Nat.not_succ_le_zero i)
      · rw [resolveAll_cons made ended] at reached ⊢
        obtain ⟨last, run⟩ := ih (Nat.le_of_succ_le_succ reached)
        exact ⟨last, .cons made ended run⟩

/-- **Where a run ends** is where its last segment does. -/
theorem Resolves.afterAll (run : Resolves scope links raws segments last) :
    Links.afterAll links segments = .ok last := by
  induction run with
  | nil links => rfl
  | @cons links middle last raw segment raws segments _ ended rest ih =>
    cases segments with
    | nil =>
      cases rest
      exact ended
    | cons next segments =>
      unfold Links.afterAll at ih ⊢
      rw [List.getLast?_cons_cons]
      -- with a segment in the list the links before it are not asked for
      rw [List.getLast?_eq_some_getLast (List.cons_ne_nil next segments)] at ih ⊢
      exact ih

/-! ## Times -/

/-- **Raw segments that differ in their times at most**: they have the same under every other key. -/
def SameButRun (raw other : Document) : Prop :=
  ∃ fields fields', raw = .object fields ∧ other = .object fields'
    ∧ ∀ key, key ≠ "run" → Document.find? key fields = Document.find? key fields'

/-- What a resolved segment has for components is what its raw one has under their keys. -/
theorem resolve_object_eq_ok {fields : List (String × Document)}
    (made : resolve scope links (.object fields) = .ok segment) :
    Component.resolve scope links.lookup .frequency ((Document.find? "f" fields).getD .null)
        = .ok segment.f
      ∧ Component.resolve scope links.lookup .amplitude ((Document.find? "a" fields).getD .null)
        = .ok segment.a := by
  unfold resolve at made
  obtain ⟨f, hf, made⟩ := bind_eq_ok_iff.mp made
  obtain ⟨a, ha, made⟩ := bind_eq_ok_iff.mp made
  obtain ⟨run, _, made⟩ := bind_eq_ok_iff.mp made
  cases made
  exact ⟨hf, ha⟩

/-- **The components do not depend on the time.** -/
theorem SameButRun.components {other : Document} {segment' : Segment Float}
    (same : SameButRun raw other) (made : resolve scope links raw = .ok segment)
    (made' : resolve scope links other = .ok segment') :
    segment.f = segment'.f ∧ segment.a = segment'.a := by
  obtain ⟨fields, fields', rfl, rfl, agree⟩ := same
  obtain ⟨hf, ha⟩ := resolve_object_eq_ok made
  obtain ⟨hf', ha'⟩ := resolve_object_eq_ok made'
  rw [agree "f" (by decide), hf'] at hf
  rw [agree "a" (by decide), ha'] at ha
  exact ⟨(Except.ok.inj hf).symm, (Except.ok.inj ha).symm⟩

/-- **Two runs through raw segments that differ in their times** go through the same components and
end on the same links. -/
theorem Resolves.components (run : Resolves scope links raws segments last)
    (run' : Resolves scope links others segments' last')
    (same : List.Forall₂ SameButRun raws others) :
    List.Forall₂ (fun segment segment' => segment.f = segment'.f ∧ segment.a = segment'.a)
      segments segments' ∧ last = last' := by
  induction run generalizing others segments' with
  | nil links =>
    cases same
    cases run'
    exact ⟨.nil, rfl⟩
  | @cons links middle last raw segment raws segments made ended _ ih =>
    obtain - | @⟨_, other, _, others, first, rest⟩ := same
    obtain - | @⟨_, middle', _, _, segment', _, segments', made', ended', run'⟩ := run'
    obtain ⟨f, a⟩ := first.components made made'
    obtain rfl : middle = middle' := by
      rw [f, a, ended'] at ended
      exact (Except.ok.inj ended).symm
    obtain ⟨components, ends⟩ := ih run' rest
    exact ⟨.cons ⟨f, a⟩ components, ends⟩

/-! ## The segments that sound -/

/-- Leaving out what makes no sound leaves the fault. -/
theorem normalize_ofList (scope : Scope Float) (links : Links Float) (raws : List Document) :
    normalize scope links (.ofList raws) = ⟨(resolveAll scope links raws).items.filter sounds,
      (resolveAll scope links raws).fault⟩ := by
  unfold normalize Feed.append Feed.ofList
  dsimp only
  cases whole : (resolveAll scope links raws).fault with
  | some fault => rw [whole]
  | none => rw [List.append_nil]

/-- **A list can be normalized in two parts.** -/
theorem Resolves.normalize_append (run : Resolves scope links front segments last)
    (fault? : Option Fault) :
    normalize scope links ⟨front ++ back, fault?⟩
      = Feed.append (.ofList (segments.filter sounds)) (normalize scope last ⟨back, fault?⟩) := by
  unfold normalize
  dsimp only
  rw [run.resolveAll_append]
  unfold Feed.append Feed.ofList
  dsimp only
  cases broken : (resolveAll scope last back).fault with
  | some fault =>
    dsimp only
    rw [List.filter_append, broken]
  | none =>
    dsimp only
    rw [List.append_nil, List.append_nil, List.filter_append]

/-- **Times decide what sounds and nothing else.** Of two lists that differ in their times at most, both
without a fault, all segments have the same components, one for each raw segment, and those whose time
is positive are the result. And a list can be normalized in two parts: where the first is without a
fault, the second goes on from the links behind its last segment, which may be one that makes no sound,
and the parts one after the other are the whole, with the fault the second may break off with or be
followed by. -/
theorem normalize_exact (scope : Scope Float) (links : Links Float) :
    (∀ raws others, List.Forall₂ SameButRun raws others →
      (normalize scope links (.ofList raws)).fault = none →
      (normalize scope links (.ofList others)).fault = none →
      ∃ segments segments', resolveAll scope links raws = .ofList segments
        ∧ resolveAll scope links others = .ofList segments'
        ∧ segments.length = raws.length
        ∧ List.Forall₂ (fun segment segment' => segment.f = segment'.f ∧ segment.a = segment'.a)
          segments segments'
        ∧ normalize scope links (.ofList raws)
          = .ofList (segments.filter fun segment => lt (nat 0) segment.run)
        ∧ normalize scope links (.ofList others)
          = .ofList (segments'.filter fun segment => lt (nat 0) segment.run))
      ∧ ∀ front back fault?, (normalize scope links (.ofList front)).fault = none →
        ∃ last, links.afterAll (resolveAll scope links front).items = .ok last
          ∧ normalize scope links ⟨front ++ back, fault?⟩
            = Feed.append (normalize scope links (.ofList front))
              (normalize scope last ⟨back, fault?⟩) := by
  have runs : ∀ raws, (normalize scope links (.ofList raws)).fault = none →
      ∃ segments last, Resolves scope links raws segments last
        ∧ resolveAll scope links raws = .ofList segments
        ∧ normalize scope links (.ofList raws) = .ofList (segments.filter sounds) := by
    intro raws whole
    rw [normalize_ofList] at whole ⊢
    obtain ⟨last, run⟩ := exists_resolves whole
    refine ⟨_, last, run, run.resolveAll_eq, ?_⟩
    rw [whole]
    rfl
  refine ⟨fun raws others same whole whole' => ?_, fun front back fault? whole => ?_⟩
  · obtain ⟨segments, last, run, resolved, normalized⟩ := runs raws whole
    obtain ⟨segments', last', run', resolved', normalized'⟩ := runs others whole'
    exact ⟨segments, segments', resolved, resolved', run.length_eq, (run.components run' same).1,
      normalized, normalized'⟩
  · obtain ⟨segments, last, run, resolved, normalized⟩ := runs front whole
    rw [resolved, normalized]
    exact ⟨last, run.afterAll, run.normalize_append fault?⟩

/-- A tone that may have no time, and a segment that holds the tone. -/
def tone (run : Int) : List Document :=
  [.object [("f", .object [("type", .text "constant"), ("y", .int 500)]), ("run", .int run)],
    .object [("run", .int 10)]]

/-- With or without a time for the tone the components are the same, and the tone is linked to. -/
theorem normalize_exact_tone :
    (∃ segments segments',
      resolveAll .builtIn .initial (tone 0) = .ofList segments
        ∧ resolveAll .builtIn .initial (tone 20) = .ofList segments'
        ∧ List.Forall₂ (fun segment segment' => segment.f = segment'.f ∧ segment.a = segment'.a)
          segments segments'
        ∧ normalize .builtIn .initial (.ofList (tone 0))
          = .ofList (segments.filter fun segment => lt (nat 0) segment.run))
      ∧ ∃ last, Links.initial.afterAll (resolveAll .builtIn .initial (tone 0)).items = .ok last
        ∧ normalize .builtIn .initial ⟨tone 0 ++ tone 20, none⟩
          = Feed.append (normalize .builtIn .initial (.ofList (tone 0)))
            (normalize .builtIn last ⟨tone 20, none⟩) := by
  have same : List.Forall₂ SameButRun (tone 0) (tone 20) := by
    refine .cons ⟨_, _, rfl, rfl, fun key other => ?_⟩ (.cons ⟨_, _, rfl, rfl, fun _ _ => rfl⟩ .nil)
    simp [Document.find?, other.symm]
  obtain ⟨components, parts⟩ := normalize_exact .builtIn .initial
  obtain ⟨segments, segments', resolved, resolved', _, alike, normalized, _⟩ :=
    components (tone 0) (tone 20) same rfl rfl
  exact ⟨⟨segments, segments', resolved, resolved', alike, normalized⟩, parts _ _ _ rfl⟩

end Segment

end WhistledSpeech
