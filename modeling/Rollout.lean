import Rollout.Storage
import Rollout.Failure
import Rollout.Path
import Rollout.Sorted
import Rollout.Text.Percent
import Rollout.Text.Utf8
import Rollout.Text.Integer
import Rollout.Text.Quoted
import Rollout.Text.Substitution
import Rollout.Text.Assignments
import Rollout.Data.Json.Reader
import Rollout.Data.Json.Writer
import Rollout.Data.Yaml.Writer
import Rollout.Plan.Outline
import Rollout.Cluster.Call
import Rollout.Cluster.Target
import Rollout.CommandLine.Invocation
import Rollout.Instance.Design
import Rollout.Credentials
import Rollout.Wait
import Rollout.Results
import Rollout.Deployment.Run
import Rollout.Rehearsal.ScriptedCluster
import Rollout.Rehearsal.Commands
import Rollout.Rehearsal.MemoryCluster
import Rollout.Main
import Rollout.Proofs.Wait.Deadline
import Rollout.Proofs.Site.Course
import Rollout.Proofs.Wait.Course
import Rollout.Proofs.Deployment.Course
import Rollout.Proofs.Deployment.Credentials
import Rollout.Proofs.Rehearsal.Performs
import Rollout.Proofs.Rehearsal.Waiting
import Rollout.Proofs.Rehearsal.Steps
import Rollout.Proofs.Rehearsal.Forecast
import Rollout.Proofs.Rehearsal.Outcome
import Rollout.Proofs.Likeness
import Rollout.Proofs.Site.Worlds
import Rollout.Proofs.Deployment.Worlds
import Rollout.Proofs.Deployment.Secrecy
import Rollout.Proofs.Host.Secrecy
import Rollout.Proofs.Rehearsal.Frame
import Rollout.Proofs.Rehearsal.Likeness
import Rollout.Proofs.Rehearsal.Secrecy
import Rollout.Proofs.Rehearsal.History
import Rollout.Proofs.Rehearsal.CallTexts
import Rollout.Proofs.Rehearsal.Indifference
import Rollout.Proofs.Rehearsal.Secrets
import Rollout.Proofs.Deployment.Breakdown
import Rollout.Proofs.Rehearsal.Replay
import Rollout.Proofs.Deployment.Stages
import Rollout.Proofs.Deployment.Requests
import Rollout.Proofs.Deployment.Record
import Rollout.Proofs.Rehearsal.Disk
import Rollout.Proofs.Rehearsal.Files
import Rollout.Proofs.Deployment.Material
import Rollout.Proofs.Deployment.Extract
import Rollout.Proofs.Deployment.Files
import Rollout.Proofs.Rehearsal.Settled
import Rollout.Proofs.Rehearsal.Redeployment
import Rollout.Proofs.Wait.Schedule
import Rollout.Proofs.Rehearsal.Schedule
import Rollout.Proofs.Text.Scan
import Rollout.Proofs.Text.References
import Rollout.Proofs.Text.Locality
import Rollout.Proofs.Text.Assignments
import Rollout.Proofs.Text.Reassignment
import Rollout.Proofs.Instance.Design
import Rollout.Proofs.Diagnosis.Isolation
import Rollout.Proofs.Instance.Tree
import Rollout.Proofs.Plan.Address
import Rollout.Proofs.Tools.Kubectl
import Rollout.Proofs.Rehearsal.Release
import Rollout.Proofs.Storage
import Rollout.Proofs.Results
