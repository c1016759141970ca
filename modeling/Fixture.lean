import Fixture.Document
import Fixture.Directive
import Fixture.Draw.Sources
import Fixture.Factory
import Fixture.Library.Builtin
import Fixture.Library.Sample
import Fixture.Proofs.Attempt
import Fixture.Proofs.Fields
import Fixture.Proofs.Compilation
import Fixture.Proofs.WellFormed
import Fixture.Proofs.Generation
import Fixture.Proofs.LiteralCheck
import Fixture.Proofs.AcceptedLiterals
import Fixture.Proofs.Contents
import Fixture.Proofs.Precedence
import Fixture.Proofs.Leaves
import Fixture.Proofs.EffectiveRules
import Fixture.Proofs.LiteralChange
import Fixture.Proofs.RegistryRuns
import Fixture.Proofs.Draws
import Fixture.Proofs.FloatDraws
import Fixture.Proofs.DayNumbers
import Fixture.Proofs.CheckedCalls
import Fixture.Proofs.Refusals
import Fixture.Proofs.Overloads
import Fixture.Proofs.OverloadOrder
import Fixture.Proofs.NumberTexts
import Fixture.Proofs.DirectiveGrammar
import Fixture.Proofs.FloatTexts
import Fixture.Proofs.CanonicalText
import Fixture.Proofs.CalendarTexts
import Fixture.Proofs.UuidTexts
import Fixture.Proofs.OutputKinds
import Fixture.Proofs.CountLimit
import Fixture.Proofs.FurtherRegistration
import Fixture.Proofs.DocumentForms
import Fixture.Proofs.ExactIntegers
import Fixture.Proofs.IntegerForms
import Fixture.Proofs.ReachedDraws
import Fixture.Proofs.IntegerRanges
import Fixture.Proofs.TextRequests
import Fixture.Proofs.CalendarDays
import Fixture.Proofs.DrawnMoments
import Fixture.Proofs.JoinedTexts
import Fixture.Proofs.RoundingErrors
import Fixture.Proofs.RoundedFloats
import Fixture.Proofs.KeyFolding
import Fixture.Proofs.FieldWrites
import Fixture.Proofs.ValueRules
import Fixture.Proofs.NestingDepth
import Fixture.Proofs.TreeOverlay
import Fixture.Proofs.CoercedArguments
