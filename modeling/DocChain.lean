import DocChain.Main
import DocChain.Dispatch
import DocChain.Proofs.Refusal
import DocChain.Proofs.Conjunction
import DocChain.Proofs.Scope
import DocChain.Proofs.Fragments
import DocChain.Proofs.QueryForm
import DocChain.Proofs.RefusedPush
import DocChain.Proofs.Grammar
import DocChain.Proofs.ParserSoundness
import DocChain.Proofs.ParserCompleteness
import DocChain.Proofs.RoundTrip
import DocChain.Proofs.Unwinding
import DocChain.Proofs.Interleaving
import DocChain.Proofs.UpdateEntries
import DocChain.Proofs.Literals
import DocChain.Proofs.Trimming
import DocChain.Proofs.Markers
import DocChain.Proofs.Requests
import DocChain.Proofs.Spelling
import DocChain.Proofs.SpelledChains
import DocChain.Proofs.SurfaceForms
import DocChain.Proofs.TokenLayout
import DocChain.Proofs.IntegerFolding
import DocChain.Proofs.Constants
import DocChain.Proofs.FloatArithmetic
import DocChain.Proofs.DecimalFloats
import DocChain.Proofs.WideFolding
import DocChain.Proofs.FieldAccess
import DocChain.Proofs.Assignments
import DocChain.Proofs.UnaryMinus
import DocChain.Proofs.AssignedValues
import DocChain.Proofs.ElementMeaning
import DocChain.Proofs.Targets
import DocChain.Proofs.PatchedFragments
import DocChain.Proofs.LambdaBodies
import DocChain.Proofs.LexerRuns
import DocChain.Proofs.LexicalErrors
import DocChain.Proofs.ClosedConstants
import DocChain.Proofs.WireOrder
