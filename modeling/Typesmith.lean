import Typesmith.Main
import Typesmith.Recorder
import Typesmith.Session
import Typesmith.Proofs.Walk
import Typesmith.Proofs.Integer
import Typesmith.Proofs.Carries
import Typesmith.Proofs.Accounts
import Typesmith.Proofs.Consistent
import Typesmith.Proofs.Declared
import Typesmith.Proofs.ShortNames
import Typesmith.Proofs.Authority
import Typesmith.Proofs.Gate
import Typesmith.Proofs.Inlining
import Typesmith.Proofs.Batch
import Typesmith.Proofs.GoTypes
import Typesmith.Proofs.Comments
import Typesmith.Proofs.Annotations
import Typesmith.Proofs.History
import Typesmith.Proofs.Stages
import Typesmith.Proofs.Streaming
import Typesmith.Proofs.RawJson
import Typesmith.Proofs.Collector
import Typesmith.Proofs.Composition
import Typesmith.Proofs.Numeral
import Typesmith.Proofs.Keys
import Typesmith.Proofs.DistinctKeys
import Typesmith.Proofs.Encoding
import Typesmith.Proofs.Quoting
import Typesmith.Proofs.Fragments
import Typesmith.Proofs.Ranges
import Typesmith.Proofs.References
import Typesmith.Proofs.Identifiers
import Typesmith.Proofs.MapSyntax
import Typesmith.Proofs.WireNames
import Typesmith.Proofs.ServicePaths
import Typesmith.Proofs.StreamSearch
import Typesmith.Proofs.Selection
