import KubeletCollector.Agent.Status
import KubeletCollector.Endpoint.Machine
import KubeletCollector.Main
import KubeletCollector.Outside.Logging
import KubeletCollector.Proofs.Bounds
import KubeletCollector.Proofs.Isolation
import KubeletCollector.Proofs.NodeSide
import KubeletCollector.Proofs.Usable
import KubeletCollector.Proofs.Turns
import KubeletCollector.Proofs.Directories
import KubeletCollector.Proofs.Rounds
import KubeletCollector.Proofs.Probed
import KubeletCollector.Proofs.Leftovers
import KubeletCollector.Proofs.ProbeOnce
import KubeletCollector.Proofs.Shutdown
import KubeletCollector.Proofs.Blur
import KubeletCollector.Proofs.Settling
import KubeletCollector.Proofs.Secrecy
import KubeletCollector.Proofs.Sessions
import KubeletCollector.Proofs.Unready
import KubeletCollector.Proofs.Agreement
import KubeletCollector.Proofs.Coherence
import KubeletCollector.Proofs.Chronicle
import KubeletCollector.Proofs.Survey
import KubeletCollector.Proofs.Conflicts
import KubeletCollector.Proofs.Extension
import KubeletCollector.Proofs.Loading
import KubeletCollector.Proofs.Unordered
import KubeletCollector.Proofs.Floor
import KubeletCollector.Proofs.Slashes
import KubeletCollector.Proofs.Labels
import KubeletCollector.Proofs.Masks
