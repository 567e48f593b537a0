import TypedTemplate.Proofs.Diagnostic
import TypedTemplate.Proofs.Expr.Distribution
import TypedTemplate.Proofs.Expr.Valuation
import TypedTemplate.Proofs.Scope.Journal
import TypedTemplate.Proofs.Session
import TypedTemplate.Proofs.Session.Agreement
import TypedTemplate.Proofs.Session.Duality
import TypedTemplate.Proofs.Session.Frame
import TypedTemplate.Proofs.Session.Narrowing
import TypedTemplate.Proofs.SourceFile.Advance
import TypedTemplate.Proofs.SourceFile.Annotated
import TypedTemplate.Proofs.SourceFile.Cause
import TypedTemplate.Proofs.SourceFile.Definite
import TypedTemplate.Proofs.SourceFile.Independence
import TypedTemplate.Proofs.SourceFile.Located
import TypedTemplate.Proofs.SourceFile.Numbering
import TypedTemplate.Proofs.SourceFile.RoundTrip
import TypedTemplate.Proofs.Statement.Announced
import TypedTemplate.Proofs.Statement.Dialect
import TypedTemplate.Proofs.Statement.Loosen
import TypedTemplate.Proofs.Statement.Unfolding
import TypedTemplate.Proofs.Token.Brackets
import TypedTemplate.Proofs.Token.Cover
import TypedTemplate.Proofs.Token.Layout
import TypedTemplate.Proofs.Token.Quoted
import TypedTemplate.Proofs.Ty.Annotation
import TypedTemplate.Proofs.Ty.Distribution
import TypedTemplate.Proofs.Ty.Meet
import TypedTemplate.Proofs.Ty.Preorder
import TypedTemplate.Proofs.Ty.Semilattice
