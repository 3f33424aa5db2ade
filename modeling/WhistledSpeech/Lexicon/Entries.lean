import WhistledSpeech.Lexicon.Pronunciation

/-!
# The compiled lexicon

A model gives whole words their pronunciations, and graphemes theirs: one for everywhere else, and
rules for particular neighbours. A rule names two classes and holds for every pair of their members; a
later rule overrides an earlier one where they meet. The empty text stands for the edge of a word, and
a rule without a pronunciation is silent.

`Lexicon.compile` resolves everything a model gives, in the order classes, words, graphemes, and within
a grapheme its general pronunciation before its rules; it stops at the first fault, so a lexicon is
never half built.
-/

namespace WhistledSpeech

/-- **A side of a context rule.** -/
inductive RuleSide where
  /-- A class or a grapheme. -/
  | member (m : ClassMember)
  /-- A value that can be neither, with its form in a message. -/
  | unusable (shown : String)
  deriving Repr, DecidableEq

/-- **A context rule.** -/
structure ContextRule where
  /-- What the preceding grapheme has to be. -/
  ante : RuleSide
  /-- What the following grapheme has to be. -/
  post : RuleSide
  /-- The pronunciation between the two; without one the rule is silent. -/
  pronunciation : Option PronunciationRef

/-- **What a model gives for a grapheme.** -/
structure GraphemeSource where
  /-- The pronunciation where no rule holds. -/
  elsewhere : Option PronunciationRef
  /-- The rules, in order. -/
  rules : Feed ContextRule

/-- Raw segments, as a pronunciation expands to them. -/
abbrev RawSegments := List Document

/-- Values by members of classes, in the order in which they were first set. -/
abbrev MemberTable (α : Type) := List (ClassMember × α)

/-- The pronunciations of a grapheme by its neighbours: preceding, then following. -/
abbrev ContextTable := MemberTable (MemberTable RawSegments)

/-- **The compiled pronunciations of a grapheme.** -/
structure GraphemeEntry where
  /-- The pronunciation where the table has none. -/
  elsewhere : Option RawSegments
  /-- The pronunciations between particular neighbours. -/
  contexts : ContextTable

/-- **A compiled lexicon.** -/
structure Lexicon where
  /-- The classes, flattened. -/
  classes : ClassTable
  /-- The words with a pronunciation of their own. -/
  words : List (String × RawSegments)
  /-- The graphemes. -/
  graphemes : List (String × GraphemeEntry)

/-! ## Tables of contexts -/

namespace MemberTable

variable {α : Type}

/-- Sets the value of a member: one that is there keeps its place. -/
def set (member : ClassMember) (value : α) : MemberTable α → MemberTable α
  | [] => [(member, value)]
  | (m, v) :: rest =>
    if m.same member then (m, value) :: rest else (m, v) :: set member value rest

/-- The value of a member. -/
def get? (member : ClassMember) : MemberTable α → Option α
  | [] => none
  | (m, v) :: rest => if m.same member then some v else get? member rest

end MemberTable

namespace ContextTable

/-- Sets one pronunciation for several following graphemes. -/
def setPosts (segments : RawSegments) (byPost : MemberTable RawSegments)
    (posts : List ClassMember) : MemberTable RawSegments :=
  posts.foldl (fun byPost post => MemberTable.set post segments byPost) byPost

/-- **Enters a rule**: one pronunciation for every pair of a preceding and a following grapheme. -/
def setPairs (segments : RawSegments) (antes posts : List ClassMember) (table : ContextTable) :
    ContextTable :=
  antes.foldl
    (fun table ante =>
      MemberTable.set ante (setPosts segments ((MemberTable.get? ante table).getD []) posts) table)
    table

end ContextTable

namespace GraphemeEntry

/-- The pronunciation between two values. One that can be no member must not be looked up. -/
def between (entry : GraphemeEntry) (ante post : Document) : Except Fault (Option RawSegments) :=
  match ClassMember.ofDocument? ante with
  | none => .error .wrongType
  | some ante =>
    match MemberTable.get? ante entry.contexts with
    | none => .ok entry.elsewhere
    | some byPost =>
      match ClassMember.ofDocument? post with
      | none => .error .wrongType
      | some post => .ok ((MemberTable.get? post byPost).or entry.elsewhere)

/-- The pronunciation between two neighbours. -/
def lookup (entry : GraphemeEntry) (ante post : String) : Option RawSegments :=
  match (MemberTable.get? (.grapheme ante) entry.contexts).bind
      (MemberTable.get? (.grapheme post)) with
  | some segments => some segments
  | none => entry.elsewhere

/-- Texts are members, so they can always be looked up. -/
theorem between_text (entry : GraphemeEntry) (ante post : String) :
    entry.between (.text ante) (.text post) = .ok (entry.lookup ante post) := by
  unfold between lookup
  dsimp only [ClassMember.ofDocument?]
  cases MemberTable.get? (.grapheme ante) entry.contexts with
  | none => rfl
  | some byPost =>
    dsimp only [Option.bind_some]
    cases MemberTable.get? (.grapheme post) byPost <;> rfl

end GraphemeEntry

/-! ## Compiling -/

namespace Lexicon

/-- Names what a missing name was needed for; other faults stay as they are. -/
def relate {α : Type} (missing : String → Fault) : Except Fault α → Except Fault α
  | .error (.unresolvedPronunciation name) => .error (missing name)
  | other => other

/-- The words of a model, compiled. -/
def compileWords (named : Pronunciations) :
    List (String × PronunciationRef) → Except Fault (List (String × RawSegments))
  | [] => .ok []
  | (word, ref) :: rest => do
    let segments ← relate (.wordPronunciation ref.name? word) (ref.expand named)
    let others ← compileWords named rest
    return (word, segments) :: others

end Lexicon

namespace RuleSide

/-- The form of a side in a message. -/
def shown : RuleSide → String
  | member m => m.toDocument.plain
  | unusable shown => shown

/-- The members that a side stands for. -/
def members (classes : ClassTable) : RuleSide → Except Fault (List ClassMember)
  | member m => .ok (classes.members m)
  | unusable _ => .error .wrongType

end RuleSide

namespace Lexicon

/-- The segments of a rule. -/
def compileRule (named : Pronunciations) (grapheme : String) (rule : ContextRule) :
    Except Fault RawSegments :=
  match rule.pronunciation with
  | none => .ok []
  | some ref =>
    relate (.rulePronunciation ref.name? grapheme rule.ante.shown rule.post.shown)
      (ref.expand named)

/-- Enters rules into a table one after the other. -/
def compileRules (named : Pronunciations) (classes : ClassTable) (grapheme : String)
    (table : ContextTable) : List ContextRule → Except Fault ContextTable
  | [] => .ok table
  | rule :: rest => do
    let segments ← compileRule named grapheme rule
    let antes ← rule.ante.members classes
    let posts ← if antes.isEmpty then pure [] else rule.post.members classes
    compileRules named classes grapheme (ContextTable.setPairs segments antes posts table) rest

/-- The general pronunciation of a grapheme. -/
def compileElsewhere (named : Pronunciations) (grapheme : String) :
    Option PronunciationRef → Except Fault (Option RawSegments)
  | none => .ok none
  | some ref => (relate (.elsewherePronunciation grapheme) (ref.expand named)).map some

/-- **Compiles a grapheme.** -/
def compileGrapheme (named : Pronunciations) (classes : ClassTable) (grapheme : String)
    (source : GraphemeSource) : Except Fault GraphemeEntry := do
  let elsewhere ← compileElsewhere named grapheme source.elsewhere
  let contexts ← compileRules named classes grapheme [] source.rules.items
  match source.rules.fault with
  | some fault => .error fault
  | none => return ⟨elsewhere, contexts⟩

/-- The graphemes of a model, compiled. -/
def compileGraphemes (named : Pronunciations) (classes : ClassTable) :
    List (String × GraphemeSource) → Except Fault (List (String × GraphemeEntry))
  | [] => .ok []
  | (grapheme, source) :: rest => do
    let entry ← compileGrapheme named classes grapheme source
    let others ← compileGraphemes named classes rest
    return (grapheme, entry) :: others

/-! ### Looking up

Whatever is asked for, and whatever its neighbours are, is a member if it can be one; only what is looked up
at all has to be. A word is spelled with texts for all three. -/

/-- The form of a preceding neighbour in a message. What counts as left out is the edge of a word. -/
def shownBefore (ante : Document) : String := if ante.isEmptyValue then "" else ante.plain

@[simp] theorem shownBefore_text (ante : String) : shownBefore (.text ante) = ante := by
  by_cases h : ante = ""
  · simp [shownBefore, Document.isEmptyValue, h]
  · simp [shownBefore, Document.isEmptyValue, Document.plain, h]

/-- **The raw segments of a value between its neighbours**, whatever kind of values they are. -/
def pronunciationOf (lexicon : Lexicon) (ante current post : Document) : Except Fault RawSegments :=
  match ClassMember.ofDocument? current with
  | none => .error .wrongType
  | some member =>
    match member.name?.bind fun name => Document.find? name lexicon.graphemes with
    | none => .error (.unknownGrapheme current.plain)
    | some entry => do
      match ← entry.between ante post with
      | some segments => return segments
      | none => throw (.unknownContext current.plain (shownBefore ante) post.plain)

/-- **The raw segments of a grapheme between its neighbours.** -/
def pronunciation (lexicon : Lexicon) (ante current post : String) : Except Fault RawSegments :=
  lexicon.pronunciationOf (.text ante) (.text current) (.text post)

/-- A grapheme that is there is looked up between its neighbours. -/
theorem pronunciation_eq (lexicon : Lexicon) (ante current post : String) :
    lexicon.pronunciation ante current post =
      match Document.find? current lexicon.graphemes with
      | none => .error (.unknownGrapheme current)
      | some entry =>
        match entry.lookup ante post with
        | none => .error (.unknownContext current ante post)
        | some segments => .ok segments := by
  unfold pronunciation pronunciationOf
  dsimp only [ClassMember.ofDocument?, ClassMember.name?, Option.bind_some, Document.plain]
  cases Document.find? current lexicon.graphemes with
  | none => rfl
  | some entry =>
    dsimp only
    rw [GraphemeEntry.between_text, shownBefore_text]
    cases entry.lookup ante post <;> rfl

end Lexicon

/-! ## The lexicon of a document -/

namespace ContextRule

/-- The side a value of a document gives. -/
def side (value : Document) : RuleSide :=
  match ClassMember.ofDocument? value with
  | some m => .member m
  | none => .unusable value.plain

/-- The two sides of a rule. -/
def sidesOf (value : Document) : Except Fault (RuleSide × RuleSide) :=
  match value.members? with
  | none => .error .wrongType
  | some [ante, post] => .ok (side ante, side post)
  | some _ => .error .wrongCount

/-- The rule a value of a document gives. -/
def ofDocument : Document → Except Fault ContextRule
  | .object fields =>
    match Document.find? "con" fields with
    | none => .error .missingKey
    | some con => do
      let (ante, post) ← sidesOf con
      let pronunciation := match Document.find? "pron" fields with
        | none | some .null => none
        | some value => some (PronunciationRef.ofDocument value)
      return ⟨ante, post, pronunciation⟩
  | _ => .error .wrongType

/-- The rules of a list, up to the first value that is none. -/
def ofDocuments (values : List Document) : Feed ContextRule :=
  (Feed.ofList values).mapExcept ofDocument

end ContextRule

namespace GraphemeSource

/-- What a value of a document gives for a grapheme. -/
def ofDocument : Document → Except Fault GraphemeSource
  | .object fields =>
    let elsewhere := match Document.find? "elsewhere" fields with
      | none | some .null => none
      | some value => some (PronunciationRef.ofDocument value)
    let contexts := (Document.find? "contexts" fields).getD .null
    let rules :=
      if contexts.isEmptyValue then Feed.ofList []
      else match contexts.members? with
        | some values => ContextRule.ofDocuments values
        | none => Feed.broken .wrongType
    .ok ⟨elsewhere, rules⟩
  | _ => .error .wrongShape

/-- The graphemes of an object, up to the first value that gives none. -/
def ofEntries (entries : List (String × Document)) : Feed (String × GraphemeSource) :=
  (Feed.ofList entries).mapExcept fun entry =>
    (ofDocument entry.2).map fun source => (entry.1, source)

end GraphemeSource

namespace Lexicon

/-- **Compiles the lexicon of a model.** -/
def compile (model : List (String × Document)) : Except Fault Lexicon := do
  let part (key : String) : Document := (Document.find? key model).getD .null
  let classes ← ClassMap.ofDocument (part "classes")
  let classes ← ClassMap.resolve classes
  let named := Pronunciations.ofModel (part "namedPronunciations")
  let words ← (part "words").optionalEntries
  let words ← compileWords named (words.map fun e => (e.1, PronunciationRef.ofDocument e.2))
  let graphemes ← (part "graphemes").optionalEntries
  let sources := GraphemeSource.ofEntries graphemes
  let compiled ← compileGraphemes named classes sources.items
  match sources.fault with
  | some fault => .error fault
  | none => return ⟨classes, words, compiled⟩

end Lexicon

end WhistledSpeech
