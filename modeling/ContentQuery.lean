import ContentQuery.Config
import ContentQuery.Description
import ContentQuery.Version
import ContentQuery.Proofs.Chain
import ContentQuery.Proofs.Folding
import ContentQuery.Proofs.Meaning
import ContentQuery.Proofs.CompiledMeaning
import ContentQuery.Proofs.Terminal
import ContentQuery.Proofs.Page
import ContentQuery.Proofs.PositiveClause
import ContentQuery.Proofs.Capture
import ContentQuery.Proofs.StackDiscipline
import ContentQuery.Proofs.LowerCase
import ContentQuery.Proofs.Shape
import ContentQuery.Proofs.TermText
import ContentQuery.Proofs.EqualityText
import ContentQuery.Proofs.FingerprintKey
import ContentQuery.Proofs.DirectiveStart
import ContentQuery.Proofs.Consistency
import ContentQuery.Proofs.CompileError
import ContentQuery.Proofs.Step
import ContentQuery.Proofs.Retrieval
import ContentQuery.Proofs.TermReader
import ContentQuery.Proofs.FoldCursor
import ContentQuery.Proofs.Grouping
import ContentQuery.Proofs.ProjectionPaths
import ContentQuery.Proofs.Run
import ContentQuery.Proofs.Independence
import ContentQuery.Proofs.Spine
import ContentQuery.Proofs.Agreement
import ContentQuery.Proofs.Filters
import ContentQuery.Proofs.Twins
import ContentQuery.Proofs.ListMatch
import ContentQuery.Proofs.ReferenceFilter
import ContentQuery.Proofs.Settings
import ContentQuery.Proofs.LetterCase
import ContentQuery.Proofs.Rebuild
import ContentQuery.Proofs.Refolding
import ContentQuery.Proofs.Substitution
import ContentQuery.Proofs.Termination
