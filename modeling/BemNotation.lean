import BemNotation.Main
import BemNotation.Data.Range
import BemNotation.Proofs.Characters
import BemNotation.Proofs.Lexemes
import BemNotation.Proofs.LineGrammar
import BemNotation.Proofs.EntryTokens
import BemNotation.Proofs.NameScopes
import BemNotation.Proofs.NotationReading
import BemNotation.Proofs.CanonicalText
import BemNotation.Proofs.TokenPlaces
import BemNotation.Proofs.TokenStages
import BemNotation.Proofs.ViableTokens
import BemNotation.Proofs.EarliestFault
import BemNotation.Proofs.AliasGrammar
import BemNotation.Proofs.ReadableDeclaration
import BemNotation.Proofs.CanonicalFixedPoint
import BemNotation.Proofs.PascalCase
import BemNotation.Proofs.TypeNames
import BemNotation.Proofs.OutlineNames
import BemNotation.Proofs.Rejections
import BemNotation.Proofs.IdentifierNames
import BemNotation.Proofs.DeclarationNames
import BemNotation.Proofs.DeclarationFields
import BemNotation.Proofs.MovedSpans
import BemNotation.Proofs.LineFeeds
import BemNotation.Proofs.LineEndings
import BemNotation.Proofs.FileReplacement
import BemNotation.Proofs.RunSteps
import BemNotation.Proofs.DocumentGrammar
import BemNotation.Proofs.BlockRecord
import BemNotation.Proofs.DocumentText
import BemNotation.Proofs.DocumentLines
import BemNotation.Proofs.DocumentWriting
import BemNotation.Proofs.RunOutcome
import BemNotation.Proofs.SnapshotReading
import BemNotation.Proofs.NormalNames
import BemNotation.Proofs.PascalFixedPoint
import BemNotation.Proofs.AsciiNames
import BemNotation.Proofs.TypeSuffix
import BemNotation.Proofs.WordNumbers
import BemNotation.Proofs.SourceTiles
import BemNotation.Proofs.NameUses
import BemNotation.Proofs.PrintedRows
