import EdgeIncludes.Text.Basic
import EdgeIncludes.Text.Blank
import EdgeIncludes.Text.Utf8
import EdgeIncludes.Text.Percent
import EdgeIncludes.Text.Escape
import EdgeIncludes.Text.Category.Table
import EdgeIncludes.Text.Category
import EdgeIncludes.Text.Case
import EdgeIncludes.Text.Decomposition.Table
import EdgeIncludes.Text.Decomposition
import EdgeIncludes.Text.Composition
import EdgeIncludes.Text.Direction
import EdgeIncludes.Text.Joining
import EdgeIncludes.Number.Basic
import EdgeIncludes.Number.Reader
import EdgeIncludes.Number.Printer
import EdgeIncludes.Dictionary
import EdgeIncludes.Value
import EdgeIncludes.Context
import EdgeIncludes.Nesting
import EdgeIncludes.Reference
import EdgeIncludes.Literal
import EdgeIncludes.Expr
import EdgeIncludes.CharSet.Basic
import EdgeIncludes.CharSet.Table
import EdgeIncludes.CharSet.Property.Table
import EdgeIncludes.CharSet.Property
import EdgeIncludes.CharSet.Script.Table
import EdgeIncludes.CharSet.Script
import EdgeIncludes.CharSet.Age
import EdgeIncludes.CharSet.Boundary
import EdgeIncludes.CharSet.Named
import EdgeIncludes.CharSet.Fold
import EdgeIncludes.CharSet.Ascii
import EdgeIncludes.Pattern.Basic
import EdgeIncludes.Pattern.Compose
import EdgeIncludes.Pattern.Escape
import EdgeIncludes.Pattern.Bracket
import EdgeIncludes.Pattern.Bytes
import EdgeIncludes.Pattern.Size
import EdgeIncludes.Pattern.Reader
import EdgeIncludes.Condition
import EdgeIncludes.Collection
import EdgeIncludes.Http.Uri
import EdgeIncludes.Http.Header
import EdgeIncludes.Http.Message
import EdgeIncludes.Builtin.Basic
import EdgeIncludes.Fault
import EdgeIncludes.Log
import EdgeIncludes.Builtin.Call
import EdgeIncludes.Markup.Element
import EdgeIncludes.Markup.Delimiter
import EdgeIncludes.Markup.Reader
import EdgeIncludes.Http.Cookie
import EdgeIncludes.Config
import EdgeIncludes.Render.Segment
import EdgeIncludes.Render.Directive
import EdgeIncludes.Render.Pass
import EdgeIncludes.Render.Standard
import EdgeIncludes.Url.Punycode
import EdgeIncludes.Url.Domain.Mapping
import EdgeIncludes.Url.Domain.Label
import EdgeIncludes.Url.Domain
import EdgeIncludes.Url.Address
import EdgeIncludes.Url.Host
import EdgeIncludes.Url.Basic
import EdgeIncludes.Url.Encoding
import EdgeIncludes.Url.Path
import EdgeIncludes.Url.Reader
import EdgeIncludes.Url.Pinning
import EdgeIncludes.Url.Query
import EdgeIncludes.Inbound
import EdgeIncludes.Fragment.Source
import EdgeIncludes.Fragment.Include
import EdgeIncludes.Fragment.Queue
import EdgeIncludes.Backend
import EdgeIncludes.Processor
import EdgeIncludes.Fragment.Fetch
import EdgeIncludes.Site.Path
import EdgeIncludes.Site.Folder
import EdgeIncludes.Site.Origin
import EdgeIncludes.Main
import EdgeIncludes.Proofs.Queue
import EdgeIncludes.Proofs.Rendering
import EdgeIncludes.Proofs.Scan
import EdgeIncludes.Proofs.Page
import EdgeIncludes.Proofs.Progress
import EdgeIncludes.Proofs.Completion
import EdgeIncludes.Proofs.Filling
import EdgeIncludes.Proofs.Trimming
import EdgeIncludes.Proofs.Search
import EdgeIncludes.Proofs.Replacement
import EdgeIncludes.Proofs.Parenthesis
import EdgeIncludes.Proofs.Substitution
import EdgeIncludes.Proofs.Element
import EdgeIncludes.Proofs.Escaping
import EdgeIncludes.Proofs.Pinning
import EdgeIncludes.Proofs.Confinement
import EdgeIncludes.Proofs.Afresh
import EdgeIncludes.Proofs.Course
import EdgeIncludes.Proofs.Memory
import EdgeIncludes.Proofs.Printing
import EdgeIncludes.Proofs.Source
import EdgeIncludes.Proofs.Structured
import EdgeIncludes.Proofs.Excerpt
import EdgeIncludes.Proofs.Siblings
import EdgeIncludes.Proofs.Branches
import EdgeIncludes.Proofs.Seed
import EdgeIncludes.Proofs.Headers
import EdgeIncludes.Proofs.Inert
import EdgeIncludes.Proofs.SourceMark
import EdgeIncludes.Proofs.Passes
import EdgeIncludes.Proofs.Parameter
import EdgeIncludes.Proofs.Failure
import EdgeIncludes.Proofs.Reading
import EdgeIncludes.Proofs.Simulation
import EdgeIncludes.Proofs.Stray
import EdgeIncludes.Proofs.Trace
import EdgeIncludes.Proofs.Opening
import EdgeIncludes.Proofs.Asking
import EdgeIncludes.Proofs.Ending
import EdgeIncludes.Proofs.Balance
import EdgeIncludes.Proofs.Cutting
import EdgeIncludes.Proofs.Template
import EdgeIncludes.Proofs.Concatenation
import EdgeIncludes.Proofs.TripleQuotes
import EdgeIncludes.Proofs.Protection
import EdgeIncludes.Proofs.WriteOnly
import EdgeIncludes.Proofs.Conditions
import EdgeIncludes.Proofs.Disjunction
import EdgeIncludes.Proofs.Agreement
import EdgeIncludes.Proofs.Calls
import EdgeIncludes.Proofs.Listing
import EdgeIncludes.Proofs.Literals
import EdgeIncludes.Proofs.Splitting
import EdgeIncludes.Proofs.Encoding
import EdgeIncludes.Proofs.Cookies
import EdgeIncludes.Proofs.Sources
import EdgeIncludes.Proofs.Propagation
import EdgeIncludes.Proofs.Rounds
import EdgeIncludes.Proofs.Enclosure
import EdgeIncludes.Proofs.Bytes
import EdgeIncludes.Proofs.Soundness
import EdgeIncludes.Proofs.Offsets
import EdgeIncludes.Proofs.Containment
