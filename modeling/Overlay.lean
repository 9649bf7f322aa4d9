import Overlay.Main
import Overlay.Session
import Overlay.Proofs.EntriesLookup
import Overlay.Proofs.MergeOutcome
import Overlay.Proofs.EntriesOfList
import Overlay.Proofs.MergeRuns
import Overlay.Proofs.MergeKeys
import Overlay.Proofs.MergeExpansion
import Overlay.Proofs.ConvertedEntries
import Overlay.Proofs.DocumentParts
import Overlay.Proofs.InnerNames
import Overlay.Proofs.WellFormedTrees
import Overlay.Proofs.NumberTexts
import Overlay.Proofs.PlainTrees
import Overlay.Proofs.ChainedMerges
import Overlay.Proofs.ExplicitEntries
import Overlay.Proofs.AgreeingRuns
import Overlay.Proofs.MemberInduction
import Overlay.Proofs.SameVariables
import Overlay.Proofs.RelatedArguments
import Overlay.Proofs.TopLevel
import Overlay.Proofs.Lookups
import Overlay.Proofs.FixedKeys
import Overlay.Proofs.AssignmentLists
import Overlay.Proofs.FileVerdict
import Overlay.Proofs.EqualValues
import Overlay.Proofs.DistinctNames
import Overlay.Proofs.LoggedKeys
import Overlay.Proofs.TypingOfTexts
import Overlay.Proofs.References
import Overlay.Proofs.NamesApart
import Overlay.Proofs.DocumentOrder
import Overlay.Proofs.PermutedEntries
import Overlay.Proofs.TextParts
import Overlay.Proofs.PlaceholderScan
import Overlay.Proofs.PlaceholderNames
import Overlay.Proofs.InertValues
import Overlay.Proofs.FirstFault
import Overlay.Proofs.ReadBack
import Overlay.Proofs.QuietRuns
import Overlay.Proofs.LoadVerdict
import Overlay.Proofs.JsonNumbers
import Overlay.Proofs.JsonTrees
import Overlay.Proofs.JsonOutput
import Overlay.Proofs.JsonData
import Overlay.Proofs.CheckOutput
import Overlay.Proofs.CommandWords
import Overlay.Proofs.PrintedEntries
import Overlay.Proofs.CommandAgreement
import Overlay.Proofs.OverriddenKeys
import Overlay.Proofs.SettledMerges
import Overlay.Proofs.WrittenAssignments
import Overlay.Proofs.BuiltBaseline
import Overlay.Proofs.LayeredVariables
import Overlay.Proofs.EndlessReading
import Overlay.Proofs.ScalarTyping
import Overlay.Proofs.DecimalIntegers
import Overlay.Proofs.RepeatedNames
import Overlay.Proofs.ErasedTags
import Overlay.Proofs.ReorderedValues
import Overlay.Proofs.TextWidths
import Overlay.Proofs.FramedMessages
import Overlay.Proofs.SessionRuns
