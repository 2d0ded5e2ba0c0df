import Rollout.Assembly
import Rollout.Bucket
import Rollout.Builder
import Rollout.CacheLevel
import Rollout.Calculator
import Rollout.Command
import Rollout.CommandLine
import Rollout.Commander
import Rollout.Condition
import Rollout.Condition.Registry
import Rollout.Config
import Rollout.Context
import Rollout.Decimal.Nearest
import Rollout.Decimal.Read
import Rollout.Decimal.Shortest
import Rollout.Definition
import Rollout.Digest.Block
import Rollout.Digest.Md5
import Rollout.Digest.Sha256
import Rollout.Document
import Rollout.Document.Json
import Rollout.Document.Json.Number
import Rollout.Document.Meaning
import Rollout.Document.Reading
import Rollout.Document.Tree
import Rollout.Document.Yaml.Cursor
import Rollout.Document.Yaml.Node
import Rollout.Document.Yaml.Scalar
import Rollout.Document.Yaml.Token
import Rollout.Document.Yaml.Word
import Rollout.Draft
import Rollout.Files
import Rollout.Flag
import Rollout.Ids
import Rollout.Layer
import Rollout.Main
import Rollout.Metric
import Rollout.Numeral
import Rollout.Operator
import Rollout.Override
import Rollout.Payload
import Rollout.Proofs.Acceptance
import Rollout.Proofs.Admission
import Rollout.Proofs.Allocation
import Rollout.Proofs.Arranged
import Rollout.Proofs.Assembly
import Rollout.Proofs.Assignment
import Rollout.Proofs.Builder
import Rollout.Proofs.Bulk
import Rollout.Proofs.Caching
import Rollout.Proofs.Combination
import Rollout.Proofs.Commutation
import Rollout.Proofs.Conservation
import Rollout.Proofs.Contention
import Rollout.Proofs.Covering
import Rollout.Proofs.Declaration
import Rollout.Proofs.Description
import Rollout.Proofs.Diagnosis
import Rollout.Proofs.DocumentTyping
import Rollout.Proofs.Draft
import Rollout.Proofs.Effect
import Rollout.Proofs.Extension
import Rollout.Proofs.Forcing
import Rollout.Proofs.Gain
import Rollout.Proofs.Independence
import Rollout.Proofs.Index
import Rollout.Proofs.Interpretation
import Rollout.Proofs.KillSwitch
import Rollout.Proofs.Labels
import Rollout.Proofs.Launches
import Rollout.Proofs.Leftover
import Rollout.Proofs.Locality
import Rollout.Proofs.Lockstep
import Rollout.Proofs.Muting
import Rollout.Proofs.Nesting
import Rollout.Proofs.OutOfWindow
import Rollout.Proofs.Outline
import Rollout.Proofs.Overlap
import Rollout.Proofs.Ownership
import Rollout.Proofs.Progress
import Rollout.Proofs.Recording
import Rollout.Proofs.Rediversion
import Rollout.Proofs.Refusal
import Rollout.Proofs.Reloading
import Rollout.Proofs.Reordering
import Rollout.Proofs.Repetition
import Rollout.Proofs.Request
import Rollout.Proofs.Resolution
import Rollout.Proofs.Sameness
import Rollout.Proofs.Separation
import Rollout.Proofs.Shorthand
import Rollout.Proofs.Site
import Rollout.Proofs.Stability
import Rollout.Proofs.Table
import Rollout.Proofs.Timeless
import Rollout.Proofs.Tree
import Rollout.Proofs.TypeSoundness
import Rollout.Proofs.Typing
import Rollout.Proofs.ValueText
import Rollout.Proofs.Visits
import Rollout.Proofs.WellFormed
import Rollout.Proofs.WellTyped
import Rollout.Proofs.Workbook
import Rollout.Proofs.Working
import Rollout.Reload
import Rollout.Request
import Rollout.Serving
import Rollout.Space
import Rollout.Table
import Rollout.Text.Blank
import Rollout.Text.Extending
import Rollout.Text.Quoted
import Rollout.Text.Units
import Rollout.Text.Unprintable
import Rollout.Value
import Rollout.Window
import Rollout.Worker
