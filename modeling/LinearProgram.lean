import LinearProgram.Session.Answering
import LinearProgram.Solver.Fixed
import LinearProgram.Solver.Scripted
import LinearProgram.Session.WorkerPool
import LinearProgram.Session.Workshop
import LinearProgram.Lp.Arrays
import LinearProgram.Proofs.History
import LinearProgram.Proofs.Lp.RoundTrip
import LinearProgram.Proofs.Model.Saved
import LinearProgram.Proofs.Problem.Refinement
import LinearProgram.Proofs.Session.Solutions
import LinearProgram.Proofs.Session.Ownership
import LinearProgram.Proofs.Session.Deliveries
import LinearProgram.Proofs.Session.Rejection
import LinearProgram.Proofs.Session.RowMode
import LinearProgram.Proofs.Session.Agreement
import LinearProgram.Proofs.Lp.FixedPoint
import LinearProgram.Proofs.Lp.FirstMentions
import LinearProgram.Proofs.Lp.Limits
import LinearProgram.Proofs.Lp.Between
import LinearProgram.Proofs.Lp.Variables
import LinearProgram.Proofs.Lp.Labels
import LinearProgram.Proofs.Lp.BoundedLimits
import LinearProgram.Proofs.Lp.Positions
import LinearProgram.Proofs.Arguments.Frames
import LinearProgram.Proofs.Model.RowForms
import LinearProgram.Proofs.Lp.Conversion
import LinearProgram.Proofs.Arguments.Sparse
import LinearProgram.Proofs.Problem.Appending
import LinearProgram.Proofs.Host.Gates
import LinearProgram.Proofs.Session.Closing
import LinearProgram.Proofs.Lp.ReadBack
