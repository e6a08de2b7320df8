import GuestCases.Main
import GuestCases.Proofs.AlternativeText
import GuestCases.Proofs.FusedEntries
import GuestCases.Proofs.EntryKeys
import GuestCases.Proofs.PrintedTokens
import GuestCases.Proofs.StableOrder
import GuestCases.Proofs.AssembledEntries
import GuestCases.Proofs.RepeatedFusion
import GuestCases.Proofs.FieldAttribution
import GuestCases.Proofs.FileTree
import GuestCases.Proofs.FailingStages
import GuestCases.Proofs.WrittenHeaders
import GuestCases.Proofs.AccessAccounts
import GuestCases.Proofs.CollectedEntries
import GuestCases.Proofs.DescriptionForms
import GuestCases.Proofs.DeclaredHooks
import GuestCases.Proofs.Waypoints
import GuestCases.Proofs.IndependentPasses
import GuestCases.Proofs.AgreeingCommands
import GuestCases.Proofs.SourceOrder
import GuestCases.Proofs.WrittenRecords
import GuestCases.Proofs.RecordLines
import GuestCases.Proofs.MissingAlternatives
import GuestCases.Proofs.CaseLines
import GuestCases.Proofs.MarkerRoles
import GuestCases.Proofs.HeaderLines
import GuestCases.Proofs.GroupMarkers
import GuestCases.Proofs.FieldFaults
import GuestCases.Proofs.AddedHooks
import GuestCases.Proofs.DecodedLines
import GuestCases.Proofs.LeafPhrases
import GuestCases.Proofs.ExpandedRanges
import GuestCases.Proofs.FusedMarkers
import GuestCases.Proofs.RegisterNumbers
import GuestCases.Proofs.BalancedConditions
import GuestCases.Proofs.DescriptionOutcomes
import GuestCases.Proofs.HarvestedHooks
import GuestCases.Proofs.SheetAssembly
import GuestCases.Proofs.CanonicalHex
import GuestCases.Proofs.CaseIdentity
import GuestCases.Proofs.DecodedRecords
import GuestCases.Proofs.IntegerCells
import GuestCases.Proofs.RowCounts
import GuestCases.Proofs.SectionFields
import GuestCases.Proofs.SettingSpellings
import GuestCases.Proofs.NumbersReadBack
