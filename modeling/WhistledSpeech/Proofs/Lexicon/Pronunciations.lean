import Mathlib
import WhistledSpeech.Lexicon.Pronunciation
import WhistledSpeech.Proofs.Entries

/-!
# Expanding pronunciations, mention by mention

A pronunciation is written as the name of another one or as a list of names and segments. Its full
expansion has the segments of the list in their order and, for every mention of a name, all that this
name expands to (`Expansion`): a name mentioned twice is expanded twice, and none is left.

Not everything has one. A name may be missing, or come up again inside its own expansion. Where that
happens is said by `Mentions`, which goes to any mention of a name and notes the names it has entered
on the way. The place of a mention is a list of numbers – which item of the list, which item of what
that one names, and so on – so that of two mentions the one that is come to first is the one whose
place comes first in the order of the dictionary. No mention of this says in which order anything is
computed, nor when to stop.

`PronunciationRef.expand` stops at the first mention that something is wrong with, and has the full
expansion where nothing is wrong with any (`expand_exact`).
-/

namespace WhistledSpeech

/-- **A pronunciation as it is written**: the name of another, or a list in which a text is a name and
anything else is a raw segment. -/
inductive WrittenPronunciation where
  /-- The name of a pronunciation. -/
  | byName (n : String)
  /-- Names and segments. -/
  | listed (items : List Document)

namespace WrittenPronunciation

/-- The pronunciation as a value of a document. -/
def toDocument : WrittenPronunciation → Document
  | byName n => .text n
  | listed items => .list items

/-- What is written, item by item. A name by itself is the only item. -/
def items : WrittenPronunciation → List Document
  | byName n => [.text n]
  | listed items => items

end WrittenPronunciation

/-- **Named pronunciations as they are written.** -/
abbrev WrittenPronunciations := List (String × WrittenPronunciation)

namespace WrittenPronunciations

open PronunciationRef

/-- The definitions as the expansion takes them. -/
def toNamed (written : WrittenPronunciations) : Pronunciations :=
  Pronunciations.ofDocument (.object (written.map fun e => (e.1, e.2.toDocument)))

/-- **The full expansion of some items**: segments stay, and a name stands for the full expansion of
what it is defined as. -/
inductive Expansion (written : WrittenPronunciations) : List Document → List Document → Prop where
  /-- Nothing expands to nothing. -/
  | nil : Expansion written [] []
  /-- What is no name is a segment. -/
  | segment {raw : Document} {rest segments : List Document} (kept : ∀ n, raw ≠ .text n)
      (behind : Expansion written rest segments) :
      Expansion written (raw :: rest) (raw :: segments)
  /-- A name is expanded in its place. -/
  | named {n : String} {pronunciation : WrittenPronunciation} {rest inner segments : List Document}
      (found : Document.find? n written = some pronunciation)
      (within : Expansion written pronunciation.items inner)
      (behind : Expansion written rest segments) :
      Expansion written (.text n :: rest) (inner ++ segments)

/-- **A mention of a name in the expansion of some items**: its place, and the chain of the names that
have been entered to come to it. -/
inductive Mentions (written : WrittenPronunciations) :
    List Document → List Nat → List String → String → Prop where
  /-- The first item may be the name. -/
  | here {n : String} {rest : List Document} : Mentions written (.text n :: rest) [0] [] n
  /-- It may be mentioned in what the first item names. -/
  | inside {n m : String} {pronunciation : WrittenPronunciation} {rest : List Document}
      {place : List Nat} {chain : List String}
      (found : Document.find? n written = some pronunciation)
      (within : Mentions written pronunciation.items place chain m) :
      Mentions written (.text n :: rest) (0 :: place) (n :: chain) m
  /-- It may be mentioned by a later item. -/
  | later {item : Document} {rest : List Document} {i : Nat} {place : List Nat}
      {chain : List String} {m : String} (behind : Mentions written rest (i :: place) chain m) :
      Mentions written (item :: rest) ((i + 1) :: place) chain m

/-- **Nothing is wrong with a mention** of a name that is defined and has not been entered. -/
def IsSound (written : WrittenPronunciations) (chain : List String) (n : String) : Prop :=
  n ∉ chain ∧ n ∈ written.map Prod.fst

/-- **What is wrong with a mention.** -/
inductive Problem (written : WrittenPronunciations) (chain : List String) (n : String) :
    Fault → Prop where
  /-- The name has been entered and not been left. -/
  | circular (entered : n ∈ chain) :
      Problem written chain n (.circularPronunciation (Chain.cycle chain n))
  /-- The name is not defined. -/
  | missing (new : n ∉ chain) (undefined : n ∉ written.map Prod.fst) :
      Problem written chain n (.unresolvedPronunciation n)

variable {written : WrittenPronunciations} {items rest : List Document} {place : List Nat}
  {outer chain : List String} {n : String} {fault : Fault}

/-! ## Mentions and expansions -/

theorem Problem.not_isSound (h : Problem written chain n fault) : ¬ IsSound written chain n := by
  cases h with
  | circular entered => exact fun sound => sound.1 entered
  | missing _ undefined => exact fun sound => undefined sound.2

/-- One thing at most is wrong with a mention. -/
theorem Problem.unique {other : Fault} (h : Problem written chain n fault)
    (h' : Problem written chain n other) : other = fault := by
  cases h with
  | circular entered =>
    cases h' with
    | circular _ => rfl
    | missing new _ => exact absurd entered new
  | missing new _ =>
    cases h' with
    | circular entered => exact absurd entered new
    | missing _ _ => rfl

theorem Mentions.place_ne_nil (h : Mentions written items place chain n) : place ≠ [] := by
  cases h <;> exact List.cons_ne_nil _ _

/-- At a place there is one mention at most. -/
theorem Mentions.unique {chain' : List String} {n' : String}
    (h : Mentions written items place chain n) (h' : Mentions written items place chain' n') :
    chain' = chain ∧ n' = n := by
  induction h generalizing chain' with
  | here =>
    cases h' with
    | here => exact ⟨rfl, rfl⟩
    | inside _ within => exact absurd rfl within.place_ne_nil
  | inside found within ih =>
    cases h' with
    | here => exact absurd rfl within.place_ne_nil
    | inside found' within' =>
      cases found.symm.trans found'
      obtain ⟨rfl, rfl⟩ := ih within'
      exact ⟨rfl, rfl⟩
  | later _ ih =>
    cases h' with
    | later behind' => exact ih behind'

/-- **Only what is mentioned counts**: definitions of other names make no other mentions. -/
theorem Mentions.congr {others : WrittenPronunciations}
    (same : ∀ place chain n, Mentions written items place chain n →
      Document.find? n others = Document.find? n written)
    (h : Mentions written items place chain n) : Mentions others items place chain n := by
  induction h with
  | here => exact .here
  | inside found _ ih =>
    refine .inside ((same _ _ _ .here).trans found) (ih fun place chain n mention => ?_)
    exact same _ _ _ (.inside found mention)
  | later _ ih =>
    refine .later (ih fun place chain n mention => ?_)
    obtain ⟨i, place, rfl⟩ := List.exists_cons_of_ne_nil mention.place_ne_nil
    exact same _ _ _ (.later mention)

/-- Nor are there fewer. -/
theorem Mentions.of_congr {others : WrittenPronunciations}
    (same : ∀ place chain n, Mentions written items place chain n →
      Document.find? n others = Document.find? n written)
    (h : Mentions others items place chain n) : Mentions written items place chain n := by
  induction h with
  | here => exact .here
  | inside found _ ih =>
    have found' := (same _ _ _ .here).symm.trans found
    refine .inside found' (ih fun place chain n mention => ?_)
    exact same _ _ _ (.inside found' mention)
  | later _ ih =>
    refine .later (ih fun place chain n mention => ?_)
    obtain ⟨i, place, rfl⟩ := List.exists_cons_of_ne_nil mention.place_ne_nil
    exact same _ _ _ (.later mention)

/-- Whether something is wrong with a mention depends on what is found only. -/
theorem isSound_congr {others : WrittenPronunciations}
    (same : Document.find? n others = Document.find? n written) :
    IsSound others chain n ↔ IsSound written chain n := by
  have defined : n ∈ others.map Prod.fst ↔ n ∈ written.map Prod.fst := by
    rw [← not_iff_not, ← Document.find?_eq_none_iff, ← Document.find?_eq_none_iff, same]
  exact and_congr_right' defined

/-- The full expansion is determined. -/
theorem Expansion.unique {segments others : List Document} (h : Expansion written items segments)
    (h' : Expansion written items others) : others = segments := by
  induction h generalizing others with
  | nil =>
    cases h'
    rfl
  | segment kept _ ih =>
    cases h' with
    | segment _ behind' => rw [ih behind']
    | named _ _ _ => exact absurd rfl (kept _)
  | named found _ _ ihWithin ihBehind =>
    cases h' with
    | segment kept _ => exact absurd rfl (kept _)
    | named found' within' behind' =>
      cases found.symm.trans found'
      rw [ihWithin within', ihBehind behind']

/-- **No name is left** in a full expansion. -/
theorem Expansion.ne_text {segments : List Document} (h : Expansion written items segments) :
    ∀ raw ∈ segments, ∀ n, raw ≠ .text n := by
  induction h with
  | nil => exact fun raw mem => absurd mem List.not_mem_nil
  | segment kept _ ih =>
    intro raw mem
    obtain rfl | mem := List.mem_cons.mp mem
    · exact kept
    · exact ih raw mem
  | named _ _ _ ihWithin ihBehind =>
    intro raw mem
    exact (List.mem_append.mp mem).elim (ihWithin raw) (ihBehind raw)

/-! ## What expanding does, step by step -/

theorem find?_toNamed (written : WrittenPronunciations) (n : String) :
    Document.find? n written.toNamed.entries
      = (Document.find? n written).map fun p => PronunciationRef.ofDocument p.toDocument := by
  show Document.find? n (List.map (fun e => (e.1, PronunciationRef.ofDocument e.2))
    (written.map fun e => (e.1, e.2.toDocument))) = _
  rw [Document.find?_map (fun _ value => PronunciationRef.ofDocument value),
    Document.find?_map (fun _ p => WrittenPronunciation.toDocument p), Option.map_map]
  rfl

theorem find?_toNamed_of_find? {pronunciation : WrittenPronunciation}
    (found : Document.find? n written = some pronunciation) :
    Document.find? n written.toNamed.entries
      = some (PronunciationRef.ofDocument pronunciation.toDocument) := by
  rw [find?_toNamed, found]
  rfl

theorem item_of_ne_text {raw : Document} (kept : ∀ n, raw ≠ .text n) : item raw = .segment raw := by
  cases raw with
  | text n => exact absurd rfl (kept n)
  | _ => rfl

theorem expandItems_segment (named : Pronunciations) {raw : Document} (kept : ∀ n, raw ≠ .text n) :
    expandItems named chain ((raw :: rest).map item)
      = (expandItems named chain (rest.map item)).map (raw :: ·) := by
  rw [List.map_cons, item_of_ne_text kept, expandItems]
  cases expandItems named chain (rest.map item) <;> rfl

theorem expandItems_name (named : Pronunciations) :
    expandItems named chain ((.text n :: rest).map item)
      = expandName named chain n >>= fun front =>
          (expandItems named chain (rest.map item)).map (front ++ ·) := by
  show expandItems named chain (.name n :: rest.map item) = _
  rw [expandItems]
  cases expandName named chain n with
  | error _ => rfl
  | ok front => cases expandItems named chain (rest.map item) <;> rfl

/-- A name by itself is expanded like a list of one. -/
theorem expandItems_singleton (named : Pronunciations) :
    expandItems named chain ([.text n].map item) = expandName named chain n := by
  rw [expandItems_name, List.map_nil, expandItems]
  cases expandName named chain n with
  | error _ => rfl
  | ok front =>
    show Except.ok (front ++ []) = Except.ok front
    rw [List.append_nil]

theorem expandName_of_mem (named : Pronunciations) (entered : n ∈ chain) :
    expandName named chain n = .error (.circularPronunciation (Chain.cycle chain n)) := by
  rw [expandName]
  exact dif_pos (List.contains_iff_mem.mpr entered)

theorem expandName_of_undefined (new : n ∉ chain) (undefined : n ∉ written.map Prod.fst) :
    expandName written.toNamed chain n = .error (.unresolvedPronunciation n) := by
  have absent : Document.find? n written.toNamed.entries = none := by
    rw [find?_toNamed, Document.find?_eq_none_iff.mpr undefined]
    rfl
  rw [expandName, dif_neg (fun mem => new (List.contains_iff_mem.mp mem))]
  split
  · rfl
  · rename_i other some
    exact absurd (absent.symm.trans some) (by simp)
  · rename_i listed some
    exact absurd (absent.symm.trans some) (by simp)

/-- A list that runs to its end leaves what has been expanded as it is. -/
theorem close_ofList (listed : List PronunciationItem) (expanded : Except Fault (List Document)) :
    close (Feed.ofList listed) expanded = expanded := by
  cases expanded <;> rfl

/-- **A name expands to what it is defined as**, on a chain that has it. -/
theorem expandName_of_found {pronunciation : WrittenPronunciation} (new : n ∉ chain)
    (found : Document.find? n written = some pronunciation) :
    expandName written.toNamed chain n
      = expandItems written.toNamed (chain ++ [n]) (pronunciation.items.map item) := by
  have found' := find?_toNamed_of_find? found
  rw [expandName, dif_neg (fun mem => new (List.contains_iff_mem.mp mem))]
  split
  · rename_i none
    exact absurd (found'.symm.trans none) (by simp)
  · rename_i other some
    cases pronunciation with
    | byName m =>
      cases found'.symm.trans some
      exact (expandItems_singleton written.toNamed).symm
    | listed items => exact absurd (found'.symm.trans some) (by
        simp [WrittenPronunciation.toDocument, PronunciationRef.ofDocument, Document.members?])
  · rename_i listed some
    cases pronunciation with
    | byName m => exact absurd (found'.symm.trans some) (by
        simp [WrittenPronunciation.toDocument, PronunciationRef.ofDocument])
    | listed items =>
      cases found'.symm.trans some
      exact close_ofList _ _

/-! ## What expanding comes to -/

/-- Of two places behind an item the same comes first as without the item. -/
theorem lt_of_later_lt {i j : Nat} {place place' : List Nat}
    (before : (i + 1) :: place < (j + 1) :: place') : i :: place < j :: place' := by
  rw [List.cons_lt_cons_iff] at before ⊢
  obtain before | ⟨same, before⟩ := before
  · exact .inl (Nat.lt_of_succ_lt_succ before)
  · exact .inr ⟨Nat.succ.inj same, before⟩

/-- **What expanding some items comes to** after the names `outer` have been entered: their full
expansion, if nothing is wrong with any mention, and else what is wrong with the first that something
is wrong with. -/
def Expands (written : WrittenPronunciations) (outer : List String) (items : List Document) :
    Except Fault (List Document) → Prop
  | .ok segments => Expansion written items segments
      ∧ ∀ place chain n, Mentions written items place chain n → IsSound written (outer ++ chain) n
  | .error fault => ∃ place chain n, Mentions written items place chain n
      ∧ Problem written (outer ++ chain) n fault
      ∧ ∀ earlier < place, ∀ chain' n', Mentions written items earlier chain' n' →
          IsSound written (outer ++ chain') n'

theorem Expands.nil : Expands written outer [] (.ok []) := by
  refine ⟨.nil, ?_⟩
  intro place chain n mention
  cases mention

/-- A segment mentions no name, so the items behind it decide. -/
theorem Expands.segment {raw : Document} {result : Except Fault (List Document)}
    (kept : ∀ n, raw ≠ .text n) (h : Expands written outer rest result) :
    Expands written outer (raw :: rest) (result.map (raw :: ·)) := by
  cases result with
  | ok segments =>
    obtain ⟨expansion, sound⟩ := h
    refine ⟨expansion.segment kept, ?_⟩
    intro place chain n mention
    cases mention with
    | here => exact absurd rfl (kept _)
    | inside _ _ => exact absurd rfl (kept _)
    | later behind => exact sound _ _ _ behind
  | error fault =>
    obtain ⟨place, chain, n, mention, problem, first⟩ := h
    obtain ⟨i, place, rfl⟩ := List.exists_cons_of_ne_nil mention.place_ne_nil
    refine ⟨_, chain, n, .later mention, problem, ?_⟩
    intro earlier before chain' n' mention'
    cases mention' with
    | here => exact absurd rfl (kept _)
    | inside _ _ => exact absurd rfl (kept _)
    | later behind => exact first _ (lt_of_later_lt before) _ _ behind

/-- **Where the first mention is at fault** nothing comes before it. -/
theorem Expands.of_problem (problem : Problem written outer n fault) :
    Expands written outer (.text n :: rest) (.error fault) := by
  refine ⟨[0], [], n, .here, by rwa [List.append_nil], ?_⟩
  intro earlier before chain' n' mention
  obtain ⟨i, place, rfl⟩ := List.exists_cons_of_ne_nil mention.place_ne_nil
  rw [List.cons_lt_cons_iff] at before
  obtain before | ⟨_, before⟩ := before
  · exact absurd before (Nat.not_lt_zero i)
  · exact absurd before (List.not_lt_nil place)

/-- **A name, expanded in its place**, and the items behind it. -/
theorem Expands.named {pronunciation : WrittenPronunciation}
    {inner behind : Except Fault (List Document)} (new : n ∉ outer)
    (found : Document.find? n written = some pronunciation)
    (hinner : Expands written (outer ++ [n]) pronunciation.items inner)
    (hbehind : Expands written outer rest behind) :
    Expands written outer (.text n :: rest)
      (inner >>= fun front => behind.map (front ++ ·)) := by
  have here : IsSound written (outer ++ []) n := by
    rw [List.append_nil]
    exact ⟨new, List.mem_map_of_mem (Document.mem_of_find? found)⟩
  have chained : ∀ chain, outer ++ [n] ++ chain = outer ++ n :: chain := by simp
  cases inner with
  | error fault =>
    -- the fault is met inside, and of what comes before it only the name itself is not inside
    obtain ⟨place, chain, m, mention, problem, first⟩ := hinner
    refine ⟨0 :: place, n :: chain, m, .inside found mention, chained chain ▸ problem, ?_⟩
    intro earlier before chain' n' mention'
    cases mention' with
    | here => exact here
    | inside found' within =>
      cases found.symm.trans found'
      rw [← chained]
      refine first _ ?_ _ _ within
      simpa using before
    | later _ =>
      obtain before | ⟨same, _⟩ := List.cons_lt_cons_iff.mp before
      · exact absurd before (Nat.not_lt_zero _)
      · exact absurd same (Nat.succ_ne_zero _)
  | ok front =>
    obtain ⟨expansion, sound⟩ := hinner
    have inside : ∀ {pronunciation' : WrittenPronunciation} {place chain m},
        Document.find? n written = some pronunciation' →
        Mentions written pronunciation'.items place chain m →
        IsSound written (outer ++ n :: chain) m := by
      intro pronunciation' place chain m found' within
      cases found.symm.trans found'
      rw [← chained]
      exact sound _ _ _ within
    cases behind with
    | error fault =>
      obtain ⟨place, chain, m, mention, problem, first⟩ := hbehind
      obtain ⟨i, place, rfl⟩ := List.exists_cons_of_ne_nil mention.place_ne_nil
      refine ⟨_, chain, m, .later mention, problem, ?_⟩
      intro earlier before chain' n' mention'
      cases mention' with
      | here => exact here
      | inside found' within => exact inside found' within
      | later behind' => exact first _ (lt_of_later_lt before) _ _ behind'
    | ok segments =>
      obtain ⟨expansion', sound'⟩ := hbehind
      refine ⟨.named found expansion expansion', ?_⟩
      intro place chain m mention
      cases mention with
      | here => exact here
      | inside found' within => exact inside found' within
      | later behind' => exact sound' _ _ _ behind'

/-- A step to a new name leaves fewer names to go to. -/
theorem unvisited_toNamed_lt {pronunciation : WrittenPronunciation} (new : n ∉ chain)
    (found : Document.find? n written = some pronunciation) :
    Chain.unvisited written.toNamed.entries (chain ++ [n])
      < Chain.unvisited written.toNamed.entries chain :=
  Chain.unvisited_lt (find?_toNamed_of_find? found) (by simpa using new)

/-- **Expanding items**, whatever names have been entered: the recursion is that of the expansion. -/
theorem expandItems_expands (written : WrittenPronunciations) (outer : List String)
    (items : List Document) :
    Expands written outer items (expandItems written.toNamed outer (items.map item)) := by
  cases items with
  | nil =>
    rw [List.map_nil, expandItems]
    exact .nil
  | cons first rest =>
    have behind := expandItems_expands written outer rest
    by_cases isName : ∃ n, first = .text n
    · obtain ⟨n, rfl⟩ := isName
      rw [expandItems_name]
      by_cases entered : n ∈ outer
      · rw [expandName_of_mem _ entered]
        exact .of_problem (.circular entered)
      · cases found : Document.find? n written with
        | none =>
          have undefined := Document.find?_eq_none_iff.mp found
          rw [expandName_of_undefined entered undefined]
          exact .of_problem (.missing entered undefined)
        | some pronunciation =>
          rw [expandName_of_found entered found]
          exact .named entered found
            (expandItems_expands written (outer ++ [n]) pronunciation.items) behind
    · have kept : ∀ n, first ≠ .text n := fun n same => isName ⟨n, same⟩
      rw [expandItems_segment _ kept]
      exact behind.segment kept
termination_by (Chain.unvisited written.toNamed.entries outer, items.length)
decreasing_by
  · subst_vars
    exact Prod.Lex.right _ (Nat.lt_succ_self _)
  · exact Prod.Lex.left _ _ (unvisited_toNamed_lt entered found)

/-- **What expanding a reference comes to.** -/
theorem expand_expands (written : WrittenPronunciations) (ref : WrittenPronunciation) :
    Expands written [] ref.items
      (expand written.toNamed (PronunciationRef.ofDocument ref.toDocument)) := by
  have items := expandItems_expands written [] ref.items
  cases ref with
  | byName n =>
    rw [WrittenPronunciation.items, expandItems_singleton] at items
    exact items
  | listed listed =>
    show Expands written [] listed (close (Feed.ofList _) _)
    rw [close_ofList]
    exact items

/-- **Of two first problems there is only one.** -/
theorem problem_unique_of_first {place' : List Nat} {chain' : List String} {n' : String}
    {other : Fault} (mention : Mentions written items place chain n)
    (problem : Problem written chain n fault)
    (first : ∀ earlier < place, ∀ chain n, Mentions written items earlier chain n →
      IsSound written chain n)
    (mention' : Mentions written items place' chain' n')
    (problem' : Problem written chain' n' other)
    (first' : ∀ earlier < place', ∀ chain n, Mentions written items earlier chain n →
      IsSound written chain n) : other = fault := by
  obtain before | rfl | before := lt_trichotomy place place'
  · exact absurd (first' _ before _ _ mention) problem.not_isSound
  · obtain ⟨rfl, rfl⟩ := mention.unique mention'
    exact problem.unique problem'
  · exact absurd (first _ before _ _ mention') problem'.not_isSound

/-- **Expanding pronunciations is exact.** It gives a result exactly if nothing is wrong with any
mention of a name in the expansion, and then it gives the full expansion, in which no name is left.
Otherwise it gives the fault of the first mention that something is wrong with: that the name is not
defined, or that it has been entered already, with the cycle this closes. -/
theorem expand_exact (written : WrittenPronunciations) (ref : WrittenPronunciation) :
    ((∃ segments,
        expand written.toNamed (PronunciationRef.ofDocument ref.toDocument) = .ok segments)
      ↔ ∀ place chain n, Mentions written ref.items place chain n → IsSound written chain n)
    ∧ (∀ segments,
        expand written.toNamed (PronunciationRef.ofDocument ref.toDocument) = .ok segments →
        Expansion written ref.items segments
        ∧ (∀ others, Expansion written ref.items others → others = segments)
        ∧ ∀ raw ∈ segments, ∀ n, raw ≠ .text n)
    ∧ ∀ fault,
        expand written.toNamed (PronunciationRef.ofDocument ref.toDocument) = .error fault
        ↔ ∃ place chain n, Mentions written ref.items place chain n
          ∧ Problem written chain n fault
          ∧ ∀ earlier < place, ∀ chain' n', Mentions written ref.items earlier chain' n' →
              IsSound written chain' n' := by
  have expands := expand_expands written ref
  cases result : expand written.toNamed (PronunciationRef.ofDocument ref.toDocument) with
  | ok segments =>
    rw [result] at expands
    obtain ⟨expansion, sound⟩ := expands
    refine ⟨⟨fun _ => sound, fun _ => ⟨segments, rfl⟩⟩, ?_, ?_⟩
    · intro segments' same
      cases same
      exact ⟨expansion, fun _ other => expansion.unique other, expansion.ne_text⟩
    · intro fault
      refine ⟨fun same => absurd same (by simp), ?_⟩
      rintro ⟨place, chain, n, mention, problem, _⟩
      exact absurd (sound place chain n mention) problem.not_isSound
  | error fault =>
    rw [result] at expands
    obtain ⟨place, chain, n, mention, problem, first⟩ := expands
    refine ⟨⟨?_, ?_⟩, ?_, ?_⟩
    · rintro ⟨segments, same⟩
      exact absurd same (by simp)
    · intro sound
      exact absurd (sound place chain n mention) problem.not_isSound
    · intro segments same
      exact absurd same (by simp)
    · intro other
      constructor
      · intro same
        cases same
        exact ⟨place, chain, n, mention, problem, first⟩
      · rintro ⟨place', chain', n', mention', problem', first'⟩
        rw [problem_unique_of_first mention problem first mention' problem' first']

/-- What is shared is expanded each time it is mentioned; of a name that is missing and one that comes
up again the first that is come to counts. -/
example :
    expand (toNamed [("A", .listed [.text "B", .text "B"]), ("B", .listed [.null])])
        (PronunciationRef.ofDocument (.text "A")) = .ok [.null, .null]
    ∧ expand (toNamed [("A", .listed [.text "B", .text "X"]), ("B", .listed [.null, .text "A"])])
        (PronunciationRef.ofDocument (.list [.text "A"]))
      = .error (.circularPronunciation ["A", "B", "A"]) := by
  constructor <;> cbv

end WrittenPronunciations

end WhistledSpeech
