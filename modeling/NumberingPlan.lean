import NumberingPlan.Main
import NumberingPlan.Pool
import NumberingPlan.Session
import NumberingPlan.Proofs.Fallible
import NumberingPlan.Proofs.Lookup
import NumberingPlan.Proofs.Files
import NumberingPlan.Proofs.Text.Pieces
import NumberingPlan.Proofs.Text.Numerals
import NumberingPlan.Proofs.Text.Lines
import NumberingPlan.Proofs.Text.Utf8
import NumberingPlan.Proofs.Text.Substitution
import NumberingPlan.Proofs.Json.Strings
import NumberingPlan.Proofs.Json.Unambiguous
import NumberingPlan.Proofs.Length.Grammar
import NumberingPlan.Proofs.Length.Pair
import NumberingPlan.Proofs.Length.Rendering
import NumberingPlan.Proofs.Length.FirstFault
import NumberingPlan.Proofs.Pattern.Complaints
import NumberingPlan.Proofs.Xml.Descent
import NumberingPlan.Proofs.Xml.Reattributed
import NumberingPlan.Proofs.Descriptor.Lengths
import NumberingPlan.Proofs.Descriptor.Refusals
import NumberingPlan.Proofs.Descriptor.Coverage
import NumberingPlan.Proofs.Length.Canonical
import NumberingPlan.Proofs.Territory.Compression
import NumberingPlan.Proofs.Serialize.Canonical
import NumberingPlan.Proofs.Territory.Rearranged
import NumberingPlan.Proofs.Territory.Faults
import NumberingPlan.Proofs.Territory.Attribution
import NumberingPlan.Proofs.Territory.Patterns
import NumberingPlan.Proofs.Territory.General
import NumberingPlan.Proofs.Territory.ShortNumbers
import NumberingPlan.Proofs.Format.Rules
import NumberingPlan.Proofs.Format.Inherited
import NumberingPlan.Proofs.Format.Filling
import NumberingPlan.Proofs.Collection.Sequence
import NumberingPlan.Proofs.Collection.Shared
import NumberingPlan.Proofs.Collection.Regions
import NumberingPlan.Proofs.Collection.Entries
import NumberingPlan.Proofs.Collection.Profiles
import NumberingPlan.Proofs.Collection.Filters
import NumberingPlan.Proofs.Collection.Trace
import NumberingPlan.Proofs.Diagnostic.Told
import NumberingPlan.Proofs.Diagnostic.Normal
import NumberingPlan.Proofs.Diagnostic.Fields
import NumberingPlan.Proofs.Diagnostic.Shown
import NumberingPlan.Proofs.Diagnostic.Alike
import NumberingPlan.Proofs.Diagnostic.Detail
import NumberingPlan.Proofs.Settings.Content
import NumberingPlan.Proofs.Settings.Reading
import NumberingPlan.Proofs.Settings.Stable
import NumberingPlan.Proofs.Settings.Shape
import NumberingPlan.Proofs.Command.Ends
import NumberingPlan.Proofs.Command.Job
import NumberingPlan.Proofs.Command.Filed
import NumberingPlan.Proofs.Command.Stages
import NumberingPlan.Proofs.Command.Lines
