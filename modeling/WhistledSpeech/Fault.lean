import WhistledSpeech.Document
import WhistledSpeech.Formula.Expr
import WhistledSpeech.Formula.Token

/-!
# Faults

Everything that can keep a text, a model or a list of segments from becoming sound, as one type of
causes. A cause carries what a message has to name – the formula, the class, the grapheme and its
neighbours – and `message` is the only place where a cause becomes words.

The causes fall into families. *Formulas*, *pronunciations*, *text*, *curves* and *buffers* are faults
of what an author wrote and have a message. *Values* and *numbers* are faults of a document nobody
checked or of a number no buffer can follow; *outside* are those of what surrounds the engine.
-/

namespace WhistledSpeech

/-- **Why something could not be done.** -/
inductive Fault where
  -- formulas
  /-- A text is not a formula. -/
  | malformedFormula (formula : String) (cause : SyntaxFault)
  /-- A formula asks for a name that stands for nothing. -/
  | unknownConstant (name formula : String)
  /-- A formula has no value. -/
  | undefinedFormula (formula : String) (cause : ArithmeticFault)
  /-- A field that takes a number or a formula holds neither. -/
  | notAFormula (value : Document)
  /-- The formula of a curve has names other than the angle and the constants. -/
  | strayNames (formula : String) (names : List String)
  /-- These constants depend on one another, or on a name that stands for nothing. -/
  | unresolvableConstants (entries : List (String × String))
  -- models
  /-- A class contains itself, along this path. -/
  | circularClass (path : List String)
  /-- A pronunciation contains itself, along this path. -/
  | circularPronunciation (path : List String)
  /-- The pronunciation of a word needs a name that is not defined. `ref` is the name the word refers
  to, if it refers to one. -/
  | wordPronunciation (ref : Option String) (word missing : String)
  /-- The general pronunciation of a grapheme needs a name that is not defined. -/
  | elsewherePronunciation (grapheme missing : String)
  /-- A context rule of a grapheme needs a name that is not defined. -/
  | rulePronunciation (ref : Option String) (grapheme ante post missing : String)
  /-- A signal component is of no known kind. -/
  | unknownComponent (kind : Document)
  -- pronunciations
  /-- A pronunciation needs a name that is not defined. -/
  | unresolvedPronunciation (name : String)
  -- text
  /-- A stretch of text never becomes a grapheme. -/
  | unrecognizedText (fragment : String)
  /-- A grapheme is not in the model. -/
  | unknownGrapheme (grapheme : String)
  /-- A grapheme has no pronunciation between these neighbours. -/
  | unknownContext (grapheme ante post : String)
  -- curves
  /-- A curve given by a formula is built where there are no constants to read it with. -/
  | curveWithoutScope (formula : String)
  /-- A transition is of no known curve. -/
  | unknownTransitionCurve (name : String)
  /-- A contour is of no known curve. -/
  | unknownContourCurve (name : Document)
  /-- A transition does not rise or fall between the ends of its domain, or is undefined there. -/
  | flatTransition (curve startClip endClip : String)
  /-- A contour does not rise or fall between its start and its middle, or is undefined there. -/
  | flatContour (curve clip : String)
  /-- What should be a component is none, and has no curve. -/
  | noCurve (label : String)
  -- buffers
  /-- A buffer is shorter than what is to be written. -/
  | shortBuffer (need : Int) (size : Nat)
  /-- Frequencies and amplitudes do not come in pairs. -/
  | oddInterlaced (size : Nat)
  -- values
  /-- A value is of a kind that cannot be used in its place. -/
  | wrongType
  /-- A value that has to be an object, or a text, is not. -/
  | wrongShape
  /-- A required key is not there. -/
  | missingKey
  /-- A list has the wrong number of members. -/
  | wrongCount
  -- numbers
  /-- A sample rate of zero. -/
  | zeroRate
  /-- A number is beyond the range of what has to hold it. -/
  | overflow
  /-- A number of samples is undefined. -/
  | undefinedCount
  /-- A buffer would have a length no buffer can have. -/
  | impossibleLength
  /-- There is no memory for a buffer. -/
  | noMemory
  /-- The samples of a segment do not fit the stretch they are written to. -/
  | unevenStretch
  -- outside
  /-- The word boundary is not a pattern. -/
  | malformedPattern
  /-- The word boundary is to cover ASCII only and every script. -/
  | contraryFlags
  /-- A capture of the word boundary ends before it starts. -/
  | reversedCapture
  /-- An integer is written with more digits than any may have. -/
  | longInteger
  /-- A document does not have the form it has to have. -/
  | invalidDocument
  /-- A text is not a document. -/
  | malformedDocument
  /-- A sample rate no sound file can have. -/
  | refusedRate
  /-- There is no model at this path. -/
  | missingModel (path : String)
  /-- There is no file at a path, or no folder on the way. -/
  | absentFile
  /-- A path goes on where there is a file. -/
  | notFolder
  /-- A path that should lead to a file leads to a folder. -/
  | isFolder
  /-- A path cannot be followed, or what is there cannot be used. -/
  | refusedPath
  /-- A text is no path. -/
  | malformedPath
  /-- A path has a code point that no character has. -/
  | unwritablePath
  /-- The input is not a document. -/
  | malformedInput

namespace SyntaxFault

/-- The message for a text that is not a formula. -/
def message (formula : String) : SyntaxFault → String
  | unrecognized position =>
    s!"Unrecognized token in formula \"{formula}\" at position {position}"
  | empty => s!"Empty formula \"{formula}\""
  | endOfFormula => s!"Unexpected end of formula \"{formula}\""
  | unexpected token =>
    let lexeme := String.ofList token.lexeme
    let position := token.position
    s!"Unexpected token '{lexeme}' in formula \"{formula}\" at position {position}"
  | expected parenthesis token =>
    let lexeme := String.ofList token.lexeme
    let position := token.position
    s!"Expected '{parenthesis}' '{lexeme}' in formula \"{formula}\" at position {position}"

end SyntaxFault

namespace Fault

/-- A chain of references that leads back to its start. -/
def chain (path : List String) : String := " -> ".intercalate path

/-- How a pronunciation is named: by its name, or as a list that has none. -/
def describe : Option String → String
  | some name => s!"\"{name}\""
  | none => "inline list"

/-- **The message of a fault**, for those that have one. -/
def message : Fault → Option String
  | malformedFormula formula cause => some (cause.message formula)
  | unknownConstant name formula => some s!"Unknown constant {name} in formula \"{formula}\""
  | undefinedFormula formula cause =>
    let reason := cause.reason
    some s!"Invalid formula \"{formula}\": {reason}"
  | notAFormula value =>
    let shown := value.display
    some s!"Invalid formula value {shown}"
  | strayNames formula names =>
    let listed := ", ".intercalate names
    some s!"Invalid formula \"{formula}\": free variables {listed} (only t is allowed)"
  | unresolvableConstants entries =>
    let listed := ", ".intercalate (entries.map fun entry => entry.1 ++ " = \"" ++ entry.2 ++ "\"")
    some s!"Recursive or unresolvable constant definitions: {listed}"
  | circularClass path =>
    let listed := chain path
    some s!"Circular class definition: {listed}"
  | circularPronunciation path =>
    let name := path.getLastD ""
    let listed := chain path
    some s!"Could not resolve recursive name \"{name}\": {listed}"
  | wordPronunciation ref word missing =>
    let described := describe ref
    some <| s!"Could not find named pronunciation {described} for word \"{word}\"; " ++
      s!"missing name \"{missing}\""
  | elsewherePronunciation grapheme missing =>
    some <| s!"Could not find named pronunciation \"{missing}\" for grapheme \"{grapheme}\" " ++
      "in 'elsewhere' context"
  | rulePronunciation ref grapheme ante post missing =>
    let place := s!"grapheme \"{grapheme}\" in context \"{ante}\"_\"{post}\""
    let described := describe ref
    if ref = some missing then
      some s!"Could not find named pronunciation \"{missing}\" for {place}"
    else
      some <| s!"Could not resolve named pronunciation {described} for {place}; " ++
        s!"could not find name \"{missing}\""
  | unknownComponent kind =>
    let shown := kind.display
    some s!"Unknown signal component type {shown}"
  | unresolvedPronunciation name => some s!"Could not find named pronunciation \"{name}\""
  | unrecognizedText fragment => some s!"Unrecognized sequence: \"{fragment}\""
  | unknownGrapheme grapheme => some s!"Unrecognized grapheme: \"{grapheme}\""
  | unknownContext grapheme ante post =>
    let before := if ante.isEmpty then "" else s!"\"{ante}\""
    some s!"Unrecognized grapheme context: \"{grapheme}\" in {before}_\"{post}\""
  | curveWithoutScope formula =>
    some s!"Dynamic curve \"{formula}\" needs an interpreter to compile"
  | unknownTransitionCurve name =>
    let shown := Text.quoted name
    some s!"Unknown transition curve {shown}"
  | unknownContourCurve name =>
    let shown := name.display
    some s!"Unknown contour curve {shown}"
  | flatTransition curve startClip endClip =>
    some <| s!"Transition curve {curve} is flat or undefined over its domain " ++
      s!"(sclip={startClip}, eclip={endClip})"
  | flatContour curve clip =>
    some s!"Contour curve {curve} is flat or undefined over its domain (clip={clip})"
  | noCurve label =>
    let shown := Text.quoted label
    some s!"Not a signal component: {shown}"
  | shortBuffer need size =>
    some s!"Output has insufficient length: need {need}, got {size}"
  | oddInterlaced size => some s!"Interlaced input must have even length, got {size}"
  | missingModel path => some s!"Missing file: Model config not found at {path}"
  | malformedInput => some "Input must be a JSON array containing at least one object value."
  | _ => none

end Fault

end WhistledSpeech
