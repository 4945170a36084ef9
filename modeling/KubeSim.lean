import KubeSim.Cluster.Codec
import KubeSim.Launch
import KubeSim.Main
import KubeSim.Screen.Dashboard
import KubeSim.Proofs.Agenda
import KubeSim.Proofs.Remediation
import KubeSim.Proofs.Run
import KubeSim.Proofs.Queue
import KubeSim.Proofs.TickSize
import KubeSim.Proofs.Evolution
import KubeSim.Proofs.Chronicle
import KubeSim.Proofs.Timeline
import KubeSim.Proofs.Ledger
import KubeSim.Proofs.Tally
import KubeSim.Proofs.Tape
import KubeSim.Proofs.Shutdown
import KubeSim.Proofs.Failure
import KubeSim.Proofs.Reads
import KubeSim.Proofs.Grammar
import KubeSim.Proofs.Transcript
import KubeSim.Proofs.Paste
import KubeSim.Proofs.LineBreaks
import KubeSim.Proofs.History
import KubeSim.Proofs.Recall
import KubeSim.Proofs.Commuting
import KubeSim.Proofs.JsonText
import KubeSim.Proofs.Catalog
import KubeSim.Proofs.Codec
import KubeSim.Proofs.Resources
import KubeSim.Proofs.PodTable
import KubeSim.Proofs.Progress
import KubeSim.Proofs.Lookup
import KubeSim.Proofs.Reach
import KubeSim.Proofs.Tiling
import KubeSim.Proofs.Strip
import KubeSim.Proofs.Printable
import KubeSim.Proofs.ProgressBar
import KubeSim.Proofs.PodCard
import KubeSim.Proofs.Panels
import KubeSim.Proofs.Terminal
import KubeSim.Proofs.Isolation
