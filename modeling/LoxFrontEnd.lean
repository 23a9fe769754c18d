import LoxFrontEnd.Main
import LoxFrontEnd.Files
import LoxFrontEnd.Session
import LoxFrontEnd.Reporter.Collection
import LoxFrontEnd.Proofs.MaximalMunch
import LoxFrontEnd.Proofs.PromptSession
import LoxFrontEnd.Proofs.LinewiseScan
import LoxFrontEnd.Proofs.LineNumbers
import LoxFrontEnd.Proofs.Recovery
import LoxFrontEnd.Proofs.Indifference
import LoxFrontEnd.Proofs.ExitStatus
import LoxFrontEnd.Proofs.Concatenation
import LoxFrontEnd.Proofs.Respelling
import LoxFrontEnd.Proofs.Chronicle
import LoxFrontEnd.Proofs.PrintedTokens
import LoxFrontEnd.Proofs.BrokenSession
import LoxFrontEnd.Proofs.PrintedNumbers
import LoxFrontEnd.Proofs.Layout
import LoxFrontEnd.Proofs.FaultSnippets
import LoxFrontEnd.Proofs.SnippetPlaces
import LoxFrontEnd.Proofs.LinePartition
import LoxFrontEnd.Proofs.Uncolored
import LoxFrontEnd.Proofs.ArgumentOrder
import LoxFrontEnd.Proofs.Cursor
