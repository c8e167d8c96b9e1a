import GameEffects.Text.Case
import GameEffects.Text.File
import GameEffects.Text.Quoted
import GameEffects.Number.Literal
import GameEffects.Number.Shortest
import GameEffects.Value.Written
import GameEffects.Value.Order
import GameEffects.Action
import GameEffects.Run
import GameEffects.Spec
import GameEffects.Vocabulary
import GameEffects.Catalog
import GameEffects.Yaml.Source
import GameEffects.Yaml.QuotedText
import GameEffects.Yaml.PlainText
import GameEffects.Yaml.BlockText
import GameEffects.Yaml.Token
import GameEffects.Yaml.Draft
import GameEffects.Yaml.Merge
import GameEffects.Yaml.Evaluation
import GameEffects.Yaml.Document
import GameEffects.Yaml.Reader
import GameEffects.Main
import GameEffects.Proofs.LowerCase
import GameEffects.Proofs.UpperCase
import GameEffects.Proofs.Pieces
import GameEffects.Proofs.Entries
import GameEffects.Proofs.Runs
import GameEffects.Proofs.Parameters
import GameEffects.Proofs.Grammar
import GameEffects.Proofs.RoundTrip
import GameEffects.Proofs.Lookup
import GameEffects.Proofs.Sessions
import GameEffects.Proofs.Rendering
import GameEffects.Proofs.Validation
import GameEffects.Proofs.Colors
import GameEffects.Proofs.Derivation
import GameEffects.Proofs.Fireworks
import GameEffects.Proofs.DigitLimit
import GameEffects.Proofs.Logging
import GameEffects.Proofs.Trials
import GameEffects.Proofs.Sorting
import GameEffects.Proofs.DryRuns
import GameEffects.Proofs.Membership
import GameEffects.Proofs.FailedPlays
import GameEffects.Proofs.Accounts
import GameEffects.Proofs.Rounding
import GameEffects.Proofs.DecimalRounding
import GameEffects.Proofs.Literals
import GameEffects.Proofs.Decimals
import GameEffects.Proofs.Volumes
import GameEffects.Proofs.MasterVolume
import GameEffects.Proofs.EffectFiles
import GameEffects.Proofs.ColorGrammar
import GameEffects.Proofs.Decisive
import GameEffects.Proofs.FieldOrder
import GameEffects.Proofs.Integers
import GameEffects.Proofs.FireworkFaults
import GameEffects.Proofs.SinkFailures
import GameEffects.Proofs.NonTexts
import GameEffects.Proofs.Revalidation
import GameEffects.Proofs.GivenParameters
import GameEffects.Proofs.TrailingCommas
import GameEffects.Proofs.NameLookup
import GameEffects.Proofs.Identifiers
import GameEffects.Proofs.ReportedCalls
import GameEffects.Proofs.Defaults
