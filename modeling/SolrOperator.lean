import SolrOperator.Go.Basic
import SolrOperator.Go.Codec
import SolrOperator.Api.V1
import SolrOperator.SolrApi.Types
import SolrOperator.SolrApi.Client
import SolrOperator.SolrApi.Responses
import SolrOperator.Kube.Core
import SolrOperator.Controller.Basic
import SolrOperator.SolrApi.Requests
import SolrOperator.Controller.Collections
import SolrOperator.Controller.ConfigSets
import SolrOperator.Controller.Status
import SolrOperator.Controller.Report
import SolrOperator.Controller.Reconcile
import SolrOperator.Controller.Outcomes
import SolrOperator.Controller.Pass
import SolrOperator.Controller.Process
import SolrOperator.Controller.Lifecycle
import SolrOperator.Engine.Model
import SolrOperator.Engine.Measure
import SolrOperator.Engine.Collections
import SolrOperator.Engine.ConfigSets
import SolrOperator.Engine.Checksums
import SolrOperator.Engine.Convergence
import SolrOperator.Engine.Settling
import SolrOperator.Engine.Runs
import SolrOperator.Engine.Isolation
import SolrOperator.Engine.Tenancy
import SolrOperator.Engine.Refinement
import SolrOperator.Engine.Stability
