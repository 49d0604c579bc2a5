import Scad.Main
import Scad.Workload.Report
import Scad.Proofs.Parsing.Relayout
import Scad.Proofs.Session.TraceNames
import Scad.Proofs.Scoping.Cycle
import Scad.Proofs.Session.Hiding
import Scad.Proofs.Building.Product
import Scad.Proofs.Arithmetic.Chains
import Scad.Proofs.Scoping.Arguments
import Scad.Proofs.Parsing.Name
import Scad.Proofs.Arithmetic.Order
import Scad.Proofs.Literal.Quoted
import Scad.Proofs.Literal.Number
import Scad.Proofs.Parsing.Termination
import Scad.Proofs.Environment.Nesting
import Scad.Proofs.Building.Diameter
import Scad.Proofs.Loading.Descent
