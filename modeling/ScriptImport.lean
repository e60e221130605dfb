import ScriptImport.Fetch.Race
import ScriptImport.Loader
import ScriptImport.Proofs.Fetch.Honest
import ScriptImport.Proofs.Fetch.LostBody
import ScriptImport.Proofs.Fetch.Map
import ScriptImport.Proofs.Fetch.Race
import ScriptImport.Proofs.Fetch.Stopped
import ScriptImport.Proofs.Fetch.Unwritten
import ScriptImport.Proofs.Module.Link
import ScriptImport.Syntax.Module
import ScriptImport.Proofs.Script.Plain
import ScriptImport.Proofs.Script.Simulation
import ScriptImport.Proofs.Script.CallDepth
import ScriptImport.Proofs.Script.Context
import ScriptImport.Proofs.Script.Watched
import ScriptImport.Proofs.Script.ApartRuns
import ScriptImport.Proofs.Script.Assignment
import ScriptImport.Proofs.Script.Keys
import ScriptImport.Proofs.Script.Circular
import ScriptImport.Proofs.Script.RoundTrip
import ScriptImport.Proofs.Script.Rendered
import ScriptImport.Proofs.Isolation
import ScriptImport.Proofs.Constants
import ScriptImport.Proofs.Module.Evaluate
import ScriptImport.Proofs.Module.Footprint
import ScriptImport.Proofs.Module.Namespace
import ScriptImport.Proofs.Module.Tree
import ScriptImport.Proofs.Module.Order
import ScriptImport.Proofs.Module.Readiness
import ScriptImport.Proofs.Module.Lifecycle
import ScriptImport.Proofs.Module.Running
import ScriptImport.Proofs.Syntax.Grammar
import ScriptImport.Proofs.Syntax.Names
import ScriptImport.Proofs.Syntax.Reads
import ScriptImport.Proofs.Syntax.Written
import ScriptImport.Proofs.Syntax.Operators
import ScriptImport.Proofs.Syntax.Precedence
import ScriptImport.Proofs.Syntax.ReadBack
import ScriptImport.Proofs.Syntax.Height
import ScriptImport.Proofs.Syntax.Unbounded
import ScriptImport.Proofs.Syntax.Loose
import ScriptImport.Proofs.Syntax.Lexemes
import ScriptImport.Proofs.Syntax.Tiling
import ScriptImport.Proofs.Keeps
import ScriptImport.Proofs.Module.Keeps
import ScriptImport.Proofs.Script.Recorded
import ScriptImport.Proofs.Survival
import ScriptImport.Proofs.Path.TakenApart
import ScriptImport.Proofs.Resolve.Builtins
import ScriptImport.Proofs.Resolve.Base
import ScriptImport.Proofs.Resolve.Canonical
import ScriptImport.Proofs.Syntax.LineBreaks
import ScriptImport.Proofs.Syntax.Spelling
import ScriptImport.Proofs.Syntax.InBounds
