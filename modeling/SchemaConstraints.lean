import SchemaConstraints.Json.Printer
import SchemaConstraints.Json.Reader
import SchemaConstraints.Proofs.Attach.ListLevels
import SchemaConstraints.Proofs.Attach.NonEmpty
import SchemaConstraints.Proofs.Attach.ScalarAxes
import SchemaConstraints.Proofs.Evaluate.Acyclic
import SchemaConstraints.Proofs.Evaluate.Repetition
import SchemaConstraints.Proofs.Override
import SchemaConstraints.Scenario
import SchemaConstraints.Value.Equality
import SchemaConstraints.Proofs.Narrowing.Preorder
import SchemaConstraints.Proofs.OverrideChain
import SchemaConstraints.Proofs.Evaluate.Substitution
import SchemaConstraints.Proofs.Options.Records
import SchemaConstraints.Proofs.Json.Written
import SchemaConstraints.Proofs.Attach.Spelling
import SchemaConstraints.Proofs.Attach.NullArguments
import SchemaConstraints.Proofs.Evaluate.Selection
import SchemaConstraints.Proofs.Narrowing.Exact
import SchemaConstraints.Proofs.Attach.Site
import SchemaConstraints.Proofs.Evaluate.Duplicates
import SchemaConstraints.Proofs.Evaluate.ScalarEquality
import SchemaConstraints.Proofs.Evaluate.LeafDemands
import SchemaConstraints.Proofs.Evaluate.ListVisits
import SchemaConstraints.Proofs.Number.Exact
import SchemaConstraints.Proofs.Evaluate.FieldStates
import SchemaConstraints.Proofs.Attach.Members
import SchemaConstraints.Proofs.Attach.ArgumentVisits
import SchemaConstraints.Proofs.Schema.Wrappers
import SchemaConstraints.Proofs.Schema.Text
import SchemaConstraints.Proofs.Evaluate.Bounded
import SchemaConstraints.Proofs.Json.ScalarReadings
