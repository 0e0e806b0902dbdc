import TextAdventure.Console.Replay
import TextAdventure.Console.Transcript
import TextAdventure.Main
import TextAdventure.Proofs.PlainScan
import TextAdventure.Proofs.LoadedWorld
import TextAdventure.Proofs.PlayerPass
import TextAdventure.Proofs.Writes
import TextAdventure.Proofs.TurnWrites
import TextAdventure.Proofs.StateBounds
import TextAdventure.Proofs.SessionRuns
import TextAdventure.Proofs.DecimalText
import TextAdventure.Proofs.SavedFields
import TextAdventure.Proofs.SaveRoundTrip
import TextAdventure.Proofs.RecordedSteps
import TextAdventure.Proofs.SavedSessions
import TextAdventure.Proofs.CounterFloor
import TextAdventure.Proofs.RowReferences
import TextAdventure.Proofs.LaidOutText
import TextAdventure.Proofs.SectionRoundTrip
import TextAdventure.Proofs.WorldRoundTrip
import TextAdventure.Proofs.HaltedSessions
import TextAdventure.Proofs.PassInvariants
import TextAdventure.Proofs.SavedText
import TextAdventure.Proofs.TableAccess
import TextAdventure.Proofs.CutData
import TextAdventure.Proofs.SpreadText
import TextAdventure.Proofs.RoomViews
import TextAdventure.Proofs.SpelledText
import TextAdventure.Proofs.Lockstep
import TextAdventure.Proofs.EchoedNouns
import TextAdventure.Proofs.LetterCase
import TextAdventure.Proofs.CarryLimit
import TextAdventure.Proofs.Draws
import TextAdventure.Proofs.Synonyms
import TextAdventure.Proofs.RowPositions
import TextAdventure.Proofs.FinalCommand
import TextAdventure.Proofs.RankedWords
import TextAdventure.Proofs.ReservedWords
import TextAdventure.Proofs.ConsumedLexemes
import TextAdventure.Proofs.PlayerOutcomes
import TextAdventure.Proofs.ItemOrders
import TextAdventure.Proofs.MovementForms
import TextAdventure.Proofs.WordsByKind
import TextAdventure.Proofs.VocabularyLayouts
import TextAdventure.Proofs.LightTiming
import TextAdventure.Proofs.Footprints
import TextAdventure.Proofs.Exchanges
import TextAdventure.Proofs.ConditionLaws
import TextAdventure.Proofs.PackedFields
import TextAdventure.Proofs.ScoreRating
import TextAdventure.Proofs.TranscriptText
import TextAdventure.Proofs.PercentageWords
import TextAdventure.Proofs.EncodedText
import TextAdventure.Proofs.UnreadInput
import TextAdventure.Proofs.FlagWrites
