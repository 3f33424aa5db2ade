import WhistledSpeech.Authored.Field
import WhistledSpeech.Authored.Model
import WhistledSpeech.Authored.Score
import WhistledSpeech.Authored.Segment
import WhistledSpeech.Authored.Voice
import WhistledSpeech.Command.Arguments
import WhistledSpeech.Command.Folder
import WhistledSpeech.Command.Outcome
import WhistledSpeech.Decimal.Written
import WhistledSpeech.Document
import WhistledSpeech.Document.Reader
import WhistledSpeech.Formula.Arithmetic
import WhistledSpeech.Formula.Parse
import WhistledSpeech.Formula.Scope
import WhistledSpeech.Formula.Session
import WhistledSpeech.Formula.Token
import WhistledSpeech.Lexicon.Entries
import WhistledSpeech.Lexicon.Graphemes
import WhistledSpeech.Main
import WhistledSpeech.Pattern.Match
import WhistledSpeech.Pattern.Reader
import WhistledSpeech.Proofs.Authored.Normal
import WhistledSpeech.Proofs.Command.Run
import WhistledSpeech.Proofs.Decimal.Positive
import WhistledSpeech.Proofs.Formula.Constants
import WhistledSpeech.Proofs.Formula.Curves
import WhistledSpeech.Proofs.Formula.Dependencies
import WhistledSpeech.Proofs.Formula.EarliestFault
import WhistledSpeech.Proofs.Formula.Names
import WhistledSpeech.Proofs.Formula.Reading
import WhistledSpeech.Proofs.Formula.Requests
import WhistledSpeech.Proofs.Formula.Resolution
import WhistledSpeech.Proofs.Lexicon.Classes
import WhistledSpeech.Proofs.Lexicon.Cutting
import WhistledSpeech.Proofs.Lexicon.CycleFaults
import WhistledSpeech.Proofs.Lexicon.GenuineCycles
import WhistledSpeech.Proofs.Lexicon.Pronunciations
import WhistledSpeech.Proofs.Lexicon.References
import WhistledSpeech.Proofs.Lexicon.Segments
import WhistledSpeech.Proofs.Pattern.Possessive
import WhistledSpeech.Proofs.Pronouncing
import WhistledSpeech.Proofs.Scores
import WhistledSpeech.Proofs.Signal.Checking
import WhistledSpeech.Proofs.Signal.Course
import WhistledSpeech.Proofs.Signal.Ends
import WhistledSpeech.Proofs.Signal.Excursion
import WhistledSpeech.Proofs.Signal.Identity
import WhistledSpeech.Proofs.Signal.Interruption
import WhistledSpeech.Proofs.Signal.Levels
import WhistledSpeech.Proofs.Signal.Linking
import WhistledSpeech.Proofs.Signal.Omission
import WhistledSpeech.Proofs.Signal.Phases
import WhistledSpeech.Proofs.Signal.Remapping
import WhistledSpeech.Proofs.Signal.Replay
import WhistledSpeech.Proofs.Signal.Stretch
import WhistledSpeech.Proofs.Signal.Tone
import WhistledSpeech.Proofs.Signal.Track
import WhistledSpeech.Proofs.Signal.Writing
import WhistledSpeech.Proofs.SpeakerFaults
import WhistledSpeech.Signal.Linking
import WhistledSpeech.Signal.Rendering
import WhistledSpeech.Signal.Tone
import WhistledSpeech.Signal.Track
import WhistledSpeech.Signal.Voice
import WhistledSpeech.Speaker
import WhistledSpeech.Text.CharacterName
import WhistledSpeech.Text.Table.Identifier
import WhistledSpeech.Text.Table.Uppercase
