import JobMatrix.Basic
import JobMatrix.Binding
import JobMatrix.Cli
import JobMatrix.Decimal.Shortest
import JobMatrix.Files
import JobMatrix.Job.Basic
import JobMatrix.Job.Check
import JobMatrix.Job.Fault
import JobMatrix.Job.Load
import JobMatrix.Job.OfYaml
import JobMatrix.Job.Plan
import JobMatrix.Job.Report
import JobMatrix.Main
import JobMatrix.Matrix
import JobMatrix.Matrix.OfYaml
import JobMatrix.NameMap
import JobMatrix.Query.Fill
import JobMatrix.Query.Template
import JobMatrix.Text.Json
import JobMatrix.Text.Printable
import JobMatrix.Text.Quoted
import JobMatrix.Text.Upper
import JobMatrix.Yaml.Decode
import JobMatrix.Yaml.Document
import JobMatrix.Yaml.Event
import JobMatrix.Yaml.Mark
import JobMatrix.Yaml.Scalar
import JobMatrix.Yaml.Token
import JobMatrix.Yaml.Token.Cursor
import JobMatrix.Yaml.Token.Scalar
import JobMatrix.Yaml.Token.Scan
import JobMatrix.Yaml.Value
import JobMatrix.Proofs.NameMap
import JobMatrix.Proofs.MixedRadix
import JobMatrix.Proofs.Instances
import JobMatrix.Proofs.Fill
import JobMatrix.Proofs.Check
import JobMatrix.Proofs.Plan
import JobMatrix.Proofs.Traverse
import JobMatrix.Proofs.CheckedPlan
import JobMatrix.Proofs.Env
import JobMatrix.Proofs.Template
import JobMatrix.Proofs.Numbering
import JobMatrix.Proofs.Faults
import JobMatrix.Proofs.ByteOrder
import JobMatrix.Proofs.Count
import JobMatrix.Proofs.CheckOrder
import JobMatrix.Proofs.Spans
import JobMatrix.Proofs.ArgValues
import JobMatrix.Proofs.CommandLine
import JobMatrix.Proofs.Display
