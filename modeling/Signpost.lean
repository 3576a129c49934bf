import Signpost.Catalogue
import Signpost.Group
import Signpost.Main
import Signpost.Proofs.Outcome
import Signpost.Proofs.Regex.Scanning
import Signpost.Proofs.Regex.Reading
import Signpost.Proofs.Regex.Embedding
import Signpost.Proofs.Regex.Refusal
import Signpost.Proofs.Regex.Limit
import Signpost.Proofs.Regex.Standalone
import Signpost.Proofs.Regex.Ends
import Signpost.Proofs.Regex.Passage
import Signpost.Proofs.Template.Parts
import Signpost.Proofs.Template.Grammar
import Signpost.Proofs.Template.Escape
import Signpost.Proofs.Template.Fragment
import Signpost.Proofs.Template.Layout
import Signpost.Proofs.Template.Registration
import Signpost.Proofs.Template.Verdict
import Signpost.Proofs.Template.Binding
import Signpost.Proofs.Template.Agreement
import Signpost.Proofs.Regex.Alike
import Signpost.Proofs.Regex.Simple
import Signpost.Proofs.Preference
import Signpost.Proofs.Template.Rule
import Signpost.Proofs.Template.Choice
import Signpost.Proofs.Template.Language
import Signpost.Proofs.Template.Split
import Signpost.Proofs.Template.Trial
import Signpost.Proofs.Template.Search
import Signpost.Proofs.Template.Closing
import Signpost.Proofs.Template.Precedence
import Signpost.Proofs.Template.Gluing
import Signpost.Proofs.Template.Filling
import Signpost.Proofs.Value
import Signpost.Proofs.Entries
import Signpost.Proofs.Settings.Reading
import Signpost.Proofs.Settings.Inheritance
import Signpost.Proofs.Settings.Growth
import Signpost.Proofs.Route.Definition
import Signpost.Proofs.Settings.Descent
import Signpost.Proofs.Settings.HandDown
import Signpost.Proofs.Settings.Nesting
import Signpost.Proofs.Template.Acceptance
import Signpost.Proofs.Template.Literal
import Signpost.Proofs.Template.Signs
import Signpost.Proofs.Route.Listed
import Signpost.Proofs.Route.Grouped
import Signpost.Proofs.Regex.Binds
import Signpost.Proofs.Template.Live
import Signpost.Proofs.Regex.Abreast
import Signpost.Proofs.Regex.Cutting
import Signpost.Proofs.Template.Meaning
import Signpost.Proofs.Template.Effective
import Signpost.Proofs.Route.Change
import Signpost.Proofs.Value.Mapping
import Signpost.Proofs.Value.Proper
import Signpost.Proofs.Settings.Proper
import Signpost.Proofs.Settings.Equality
import Signpost.Proofs.Route.Equality
import Signpost.Proofs.Route.Interchange
import Signpost.Proofs.Route.Methods
import Signpost.Proofs.Route.Stated
import Signpost.Proofs.Dispatch.Journal
import Signpost.Proofs.Dispatch.Serving
import Signpost.Proofs.Dispatch.Positional
import Signpost.Proofs.Dispatch.Arguments
import Signpost.Proofs.Dispatch.Qualified
import Signpost.Proofs.Text.Cut
import Signpost.Proofs.Text.Space
import Signpost.Proofs.Callback
import Signpost.Proofs.Dispatch.Import
import Signpost.Proofs.Dispatch.Lookup
import Signpost.Proofs.Dispatch.Separator
import Signpost.Proofs.Dispatch.Failure
import Signpost.Proofs.CommandLine.Constraints
import Signpost.Proofs.CommandLine.Ending
import Signpost.Proofs.Template.Spelling
