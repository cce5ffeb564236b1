import ScriptReview.Command.Run
import ScriptReview.Main
import ScriptReview.Proofs.Numeric.Rounding
import ScriptReview.Proofs.Text.Trim
import ScriptReview.Proofs.Text.Words
import ScriptReview.Proofs.Text.Gaps
import ScriptReview.Proofs.Text.Utf8
import ScriptReview.Proofs.Text.Raw
import ScriptReview.Proofs.Review.Branches
import ScriptReview.Proofs.Review.Layout
import ScriptReview.Proofs.Review.Detection
import ScriptReview.Proofs.Review.Joining
import ScriptReview.Proofs.Review.Sessions
import ScriptReview.Proofs.Review.Matches
import ScriptReview.Proofs.Review.Brackets
import ScriptReview.Proofs.Review.Seams
import ScriptReview.Proofs.Review.Suggestions
import ScriptReview.Proofs.Review.Tallies
import ScriptReview.Proofs.Files.Relisting
import ScriptReview.Proofs.Lookup
import ScriptReview.Proofs.Json.Strict
import ScriptReview.Proofs.Json.Tokens
import ScriptReview.Proofs.Json.Reading
import ScriptReview.Proofs.Json.Spelling
import ScriptReview.Proofs.Json.Printable
import ScriptReview.Proofs.Json.Records
import ScriptReview.Proofs.Toml.Defaults
import ScriptReview.Proofs.Config.Sections
import ScriptReview.Proofs.Config.Settings
import ScriptReview.Proofs.Console.Printing
import ScriptReview.Proofs.Console.ScanJson
import ScriptReview.Proofs.Console.Summaries
import ScriptReview.Proofs.Console.Sequences
import ScriptReview.Proofs.Console.Colors
import ScriptReview.Proofs.Exercise.Draws
import ScriptReview.Proofs.Exercise.CatalogJson
import ScriptReview.Proofs.Exercise.Filing
import ScriptReview.Proofs.Exercise.Members
import ScriptReview.Proofs.Command.Endings
import ScriptReview.Proofs.Command.Inputs
import ScriptReview.Proofs.Command.Verdict
import ScriptReview.Proofs.Review.Terminators
import ScriptReview.Proofs.Command.Arguments
