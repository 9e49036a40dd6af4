import Reckon.Main
import Reckon.Proofs.Coverage
import Reckon.Proofs.Evaluation
import Reckon.Proofs.Rejection
import Reckon.Proofs.Parenthesizing
import Reckon.Proofs.Operators
import Reckon.Proofs.Kinds
import Reckon.Proofs.Rewording
import Reckon.Proofs.Stages
import Reckon.Proofs.Joining
import Reckon.Proofs.Mending
import Reckon.Proofs.Sessions
import Reckon.Proofs.Prompting
import Reckon.Proofs.Respacing
import Reckon.Proofs.Endings
import Reckon.Proofs.Layouts
import Reckon.Proofs.Nearness
import Reckon.Proofs.Digits
import Reckon.Proofs.ShortDecimals
import Reckon.Proofs.Displaying
import Reckon.Proofs.Splicing
import Reckon.Proofs.Groups
import Reckon.Proofs.Postfix
import Reckon.Proofs.Sums
import Reckon.Proofs.Cursors
import Reckon.Proofs.Descent
