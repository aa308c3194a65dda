import DialectIR.Builtin.Layout
import DialectIR.Instr.Render
import DialectIR.Instr.Renumber
import DialectIR.Instr.Visitor
import DialectIR.Proofs.Builtin.Exceptions
import DialectIR.Proofs.Builtin.Languages
import DialectIR.Proofs.Builtin.Layouts
import DialectIR.Proofs.Builtin.Source
import DialectIR.Proofs.Catalog
import DialectIR.Proofs.Code.Blocks
import DialectIR.Proofs.Code.Body
import DialectIR.Proofs.Code.Symbols
import DialectIR.Proofs.Directory
import DialectIR.Proofs.Instr.Building
import DialectIR.Proofs.Instr.Extension
import DialectIR.Proofs.Instr.Listing
import DialectIR.Proofs.Instr.Origin
import DialectIR.Proofs.Instr.Renaming
import DialectIR.Proofs.Instr.Renumbering
import DialectIR.Proofs.Instr.Translation
import DialectIR.Proofs.Interner.Bijection
import DialectIR.Proofs.Interner.Growth
import DialectIR.Proofs.Interner.Vocabulary
import DialectIR.Proofs.Registry.Answers
import DialectIR.Proofs.Registry.Binding
import DialectIR.Proofs.Registry.Chain
import DialectIR.Proofs.Registry.Consistency
import DialectIR.Proofs.Registry.Foundation
import DialectIR.Proofs.Registry.Growth
import DialectIR.Proofs.Registry.Marks
import DialectIR.Proofs.Registry.Nesting
import DialectIR.Proofs.Registry.Permanence
import DialectIR.Proofs.Registry.Reordering
import DialectIR.Proofs.Registry.Request
import DialectIR.Proofs.Registry.Rollback
import DialectIR.Proofs.Registry.Template
import DialectIR.Proofs.Scope.Ancestry
import DialectIR.Proofs.Scope.Bases
import DialectIR.Proofs.Scope.Confluence
import DialectIR.Proofs.Scope.Cycles
import DialectIR.Proofs.Scope.Delegation
import DialectIR.Proofs.Scope.Hiding
import DialectIR.Proofs.Scope.Home
import DialectIR.Proofs.Scope.Layout
import DialectIR.Proofs.Scope.Order
import DialectIR.Proofs.Scope.Request
import DialectIR.Proofs.Scope.Visibility
import DialectIR.Registry.Binding
