import Lexis.Main
import Lexis.Package
import Lexis.Proofs.Session
import Lexis.Proofs.TokenPlace
import Lexis.Proofs.ViablePrefix
import Lexis.Proofs.Concatenation
import Lexis.Proofs.Faults
import Lexis.Proofs.Stepwise
import Lexis.Proofs.Progress
import Lexis.Proofs.Encoding
import Lexis.Proofs.LineEnds
import Lexis.Proofs.Pieces
import Lexis.Proofs.StreamLines
import Lexis.Proofs.ConsoleInput
import Lexis.Proofs.InputModes
import Lexis.Proofs.Decoding
import Lexis.Proofs.Reading
import Lexis.Proofs.Outcomes
import Lexis.Proofs.CarriageReturns
import Lexis.Proofs.Caret
import Lexis.Proofs.Resumption
import Lexis.Proofs.Layout
import Lexis.Proofs.Lookahead
import Lexis.Proofs.CharacterClass
import Lexis.Proofs.NormalLines
import Lexis.Proofs.Listing
import Lexis.Proofs.Records
import Lexis.Proofs.ErrorText
import Lexis.Proofs.NumberAhead
