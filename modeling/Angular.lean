import Angular.Compiler.Ast
import Angular.Compiler.Ir
import Angular.Compiler.Semantics
import Angular.Compiler.IrFacts
import Angular.Compiler.Ingest
import Angular.Compiler.Delta
import Angular.Compiler.WellFormed
import Angular.Compiler.IngestSound.Convert
import Angular.Compiler.IngestSound.Bindings
import Angular.Compiler.IngestSound.Nodes
import Angular.Compiler.IngestSound.Blocks
import Angular.Compiler.IngestSound.Component
import Angular.Compiler.IngestSound.ForLoop
import Angular.Compiler.IngestSound.Attributes
import Angular.Compiler.IngestSound.Host
import Angular.Compiler.IngestSound.Lowering
import Angular.Compiler.IngestSound.Meaning
import Angular.Compiler.IngestSound.HostMeaning
import Angular.Compiler.IngestSound.Lowerable
import Angular.Core.ApplicationRef
import Angular.Core.AttachedViews
import Angular.Core.Scheduler
import Angular.Core.Reentrancy
import Angular.Core.Lifecycle
import Angular.Core.Refinement
import Angular.Core.Options
